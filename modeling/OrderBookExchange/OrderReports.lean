import OrderBookExchange.KillSwitch
import OrderBookExchange.MatchWalk
import OrderBookExchange.OrderFate

/-!
# What the report of an order says

The report that answers a new order is filled from the message and from the
identifier that the engine returned.  It says that the order was accepted and
that all of it is left.  That is what happened exactly if the order is one that
rests and the front of the opposite side is out of its reach.
-/

namespace OrderBookExchange

deriving instance DecidableEq for OrderMessage

/-- The status that the outcome of an accepted order calls for. -/
def outcomeStatus (quantity left : Nat) (rests : Bool) : OrderStatus :=
  if left = 0 then .filled
  else if left < quantity then .partiallyFilled
  else if rests then .accepted
  else .cancelled

/-- The report gives what is left of an order and the status that goes with it. -/
def ExecutionReport.Tells (report : ExecutionReport) (quantity left : Nat) (rests : Bool) : Prop :=
  report.remainingQty.toNat = left ∧ report.status = outcomeStatus quantity left rests

namespace OrderBook

variable {book : OrderBook}

theorem tradedQty_acceptOrder_ne_zero (clock : Clock) (side : Side) (type : OrderType)
    (price : Price) (quantity : Quantity) (linked : book.Linked) (unfilled : book.Unfilled)
    (traded : (book.acceptOrder clock side type price quantity).2.2 ≠ []) :
    tradedQty (book.acceptOrder clock side type price quantity).2.2 book.nextOrderId ≠ 0 := by
  have positive : ∀ trade ∈ (book.acceptOrder clock side type price quantity).2.2,
      0 < trade.quantity := by
    intro trade member
    rw [acceptOrder_eq] at member
    exact ((matched_from clock side type price quantity linked unfilled).parties trade member).1
  obtain ⟨trade, member⟩ := List.exists_mem_of_ne_nil _ traded
  obtain ⟨resting, -, -, -, -, -, buyer, seller⟩ :=
    acceptOrder_trade_terms clock side type price quantity linked unfilled member
  rw [tradedQty_ne_zero_iff _ positive]
  refine ⟨trade, member, ?_⟩
  by_cases buys : side.isBuy = true
  · rw [if_pos buys] at buyer
    exact Or.inl buyer
  · rw [if_neg buys] at seller
    exact Or.inr seller

/-- The report of an untouched order is right exactly for an order that rests
and finds nothing in its reach. -/
theorem tells_acceptOrder_iff (clock : Clock) (side : Side) (type : OrderType) (price : Price)
    {quantity : Quantity} (nonzero : quantity ≠ 0) (linked : book.Linked)
    (unfilled : book.Unfilled) (report : ExecutionReport)
    (reported : report.remainingQty = quantity) (accepted : report.status = .accepted) :
    let result := book.acceptOrder clock side type price quantity
    report.Tells quantity.toNat (quantity.toNat - tradedQty result.2.2 book.nextOrderId)
        (result.1.orderAt book.nextOrderId).isSome ↔
      type.Rests ∧ book.frontInReach side price = false := by
  intro result
  have positive : quantity.toNat ≠ 0 := fun zero => nonzero (UInt32.toNat.inj zero)
  have untouched := acceptOrder_trades_eq_nil clock side type price nonzero linked unfilled
  rw [ExecutionReport.Tells, reported, accepted]
  by_cases idle : book.frontInReach side price = false
  · have noTrades : result.2.2 = [] := untouched.mpr idle
    rw [noTrades, tradedQty_nil, Nat.sub_zero, outcomeStatus, if_neg positive,
      if_neg (lt_irrefl _)]
    by_cases rests : type.Rests
    · have left : result.1.remainingOf book.nextOrderId =
          quantity.toNat - tradedQty result.2.2 book.nextOrderId :=
        acceptOrder_new_rests clock side type price quantity linked unfilled rests
      rw [noTrades, tradedQty_nil, Nat.sub_zero] at left
      have present : (result.1.orderAt book.nextOrderId).isSome = true := by
        rw [Option.isSome_iff_ne_none]
        intro absent
        rw [remainingOf_of_none absent] at left
        exact positive left.symm
      simp [present, rests, idle]
    · have gone : result.1.orderAt book.nextOrderId = none :=
        acceptOrder_new_gone clock side type price quantity linked unfilled rests
      simp [gone, rests]
  · have trades : result.2.2 ≠ [] := fun none => idle (untouched.mp none)
    have filled : tradedQty result.2.2 book.nextOrderId ≠ 0 :=
      tradedQty_acceptOrder_ne_zero clock side type price quantity linked unfilled trades
    constructor
    · rintro ⟨left, -⟩
      omega
    · rintro ⟨-, outOfReach⟩
      exact absurd outOfReach idle

end OrderBook

namespace ClientSystem

variable {system : ClientSystem}

/-- A server with an engine that has seen no call, and no connection yet. -/
def start (risk : Option RiskChecker) : ClientSystem where
  server := { engine := .new, risk }
  waiting := fun _ => none

/-- Every turn reaches the engine through its calls only. -/
theorem numbered_operate (numbered : system.server.engine.Numbered) (action : SystemAction) :
    (system.operate action).1.server.engine.Numbered := by
  cases action with
  | engageKillSwitch => exact numbered
  | disengageKillSwitch => exact numbered
  | client action =>
      cases action with
      | receive client frame =>
          rw [operate, step]
          split
          · exact numbered
          · cases frame with
            | newOrder body complete =>
                rw [receive]
                split <;> exact numbered
            | cancel body complete => exact numbered.cancelOrder _ _
            | other tag unknown => exact numbered
      | submit client clock =>
          rw [operate, step]
          split
          · exact numbered
          · exact numbered.submitOrder _ _ _ _ _ _

theorem numbered_run (risk : Option RiskChecker) (actions : List SystemAction) :
    (Transition.run operate (start risk) actions).1.server.engine.Numbered :=
  Transition.run_of_preserved (fun (system : ClientSystem) => system.server.engine.Numbered)
    (fun _ action numbered => numbered_operate numbered action) MatchingEngine.numbered_new
    actions

theorem calls_of_waiting {client : Nat} {msg : OrderMessage}
    (held : system.waiting client = some msg) (clock : Clock) :
    (system.operate (.client (.submit client clock))).2 =
      TcpServer.submitCalls msg (system.server.engine.submitOrder clock (getSymbol msg.symbol)
        msg.side msg.orderType msg.price msg.quantity).2.1 := by
  rw [operate, step, held]
  rfl

/-- A connection that holds a checked order submits it and sends one report.
If the engine accepted the order, the report tells its outcome exactly for an
order that rests and that finds the front of the opposite side out of reach. -/
theorem report_tells_outcome_iff (risk : Option RiskChecker) (actions : List SystemAction)
    (client : Nat) (clock : Clock) (msg : OrderMessage)
    (held : (Transition.run operate (start risk) actions).1.waiting client = some msg) :
    let system := (Transition.run operate (start risk) actions).1
    let symbol := getSymbol msg.symbol
    let submitted := system.server.engine.submitOrder clock symbol msg.side msg.orderType
      msg.price msg.quantity
    ∃ report, (system.operate (.client (.submit client clock))).2 =
        [.submitOrder symbol msg.side msg.orderType msg.price msg.quantity, .send report] ∧
      report.orderId = submitted.2.1 ∧
      (submitted.2.1 ≠ 0 →
        (report.Tells msg.quantity.toNat
            (msg.quantity.toNat - tradedQty submitted.2.2 submitted.2.1)
            ((submitted.1.book symbol).orderAt submitted.2.1).isSome ↔
          msg.orderType.Rests ∧
            (system.server.engine.book symbol).frontInReach msg.side msg.price = false)) := by
  intro system symbol submitted
  refine ⟨TcpServer.orderReport msg submitted.2.1, calls_of_waiting held clock, rfl, ?_⟩
  intro returned
  have numbered : system.server.engine.Numbered := numbered_run risk actions
  obtain ⟨linked, unfilled⟩ := numbered.resting.linked symbol
  have accepted : ¬rejects msg.orderType msg.price msg.quantity = true := by
    intro rejected
    apply returned
    simp [submitted, MatchingEngine.submitOrder, rejected]
  have nonzero : msg.quantity ≠ 0 := by
    rintro zero
    exact accepted (by simp [rejects, zero])
  have acceptedStatus : (TcpServer.orderReport msg submitted.2.1).status = .accepted :=
    if_pos (Nat.pos_of_ne_zero returned)
  have idEq : submitted.2.1 = (system.server.engine.book symbol).nextOrderId :=
    MatchingEngine.submitOrder_id _ clock symbol msg.side accepted
  have tradesEq := congrArg Prod.snd
    (MatchingEngine.submitOrder_result system.server.engine clock symbol msg.side accepted)
  have bookEq := MatchingEngine.book_submitOrder system.server.engine clock symbol symbol msg.side
    msg.orderType msg.price msg.quantity
  rw [if_pos ⟨rfl, accepted⟩] at bookEq
  have outcome := OrderBook.tells_acceptOrder_iff clock msg.side msg.orderType
    (effectivePrice msg.side msg.orderType msg.price) nonzero linked unfilled
    (TcpServer.orderReport msg submitted.2.1) rfl acceptedStatus
  dsimp only at outcome
  rw [← tradesEq, ← bookEq, ← idEq] at outcome
  rw [outcome]
  apply and_congr_right
  intro rests
  -- A market order does not rest, so the price is the one of the message.
  have priceEq : effectivePrice msg.side msg.orderType msg.price = msg.price :=
    if_neg fun market => rests (Or.inl market)
  rw [priceEq]

/-- A limit order for one share of `"A"` at 100, on the side of the given byte. -/
def shareAtHundred (side : UInt8) : Frame :=
  .newOrder [65, 0, 0, 0, 0, 0, 0, 0, side, 0, 0, 0, 0, 0, 0, 0, 89, 64, 1, 0, 0, 0] rfl

/-- The order that it carries. -/
def shareMessage (side : Side) : OrderMessage where
  symbol := [65, 0, 0, 0, 0, 0, 0, 0]
  side := side
  orderType := .limit
  price := .finite 100
  quantity := 1

/-- The report of a sell order that comes to rest on an empty book. -/
theorem report_tells_outcome_resting :
    let system := (Transition.run operate (start (some (.new {})))
      [.client (.receive 0 (shareAtHundred 1))]).1
    let submitted := system.server.engine.submitOrder (fun _ => 0) [65] .sell .limit
      (.finite 100) 1
    submitted.2.1 = 1 ∧ ∃ report, (system.operate (.client (.submit 0 fun _ => 0))).2 =
        [.submitOrder [65] .sell .limit (.finite 100) 1, .send report] ∧
      report.Tells 1 (1 - tradedQty submitted.2.2 submitted.2.1)
        ((submitted.1.book [65]).orderAt submitted.2.1).isSome := by
  intro system submitted
  have held : system.waiting 0 = some (shareMessage .sell) := by decide +kernel
  obtain ⟨report, calls, -, told⟩ := report_tells_outcome_iff (some (.new {}))
    [.client (.receive 0 (shareAtHundred 1))] 0 (fun _ => 0) _ held
  refine ⟨by decide +kernel, report, calls, ?_⟩
  exact (told (by decide +kernel)).mpr (by decide +kernel)

/-- The buy order that takes the share is filled.  Its report says that it was
accepted and that the share is left. -/
theorem filled_order_reported_accepted :
    let system := (Transition.run operate (start (some (.new {})))
      [.client (.receive 0 (shareAtHundred 1)), .client (.submit 0 fun _ => 0),
        .client (.receive 0 (shareAtHundred 0))]).1
    let submitted := system.server.engine.submitOrder (fun _ => 0) [65] .buy .limit
      (.finite 100) 1
    ∃ report, (system.operate (.client (.submit 0 fun _ => 0))).2 =
        [.submitOrder [65] .buy .limit (.finite 100) 1, .send report] ∧
      report.orderId = submitted.2.1 ∧ tradedQty submitted.2.2 submitted.2.1 = 1 ∧
      report.status = .accepted ∧ report.remainingQty = 1 := by
  intro system submitted
  have held : system.waiting 0 = some (shareMessage .buy) := by decide +kernel
  have traded : submitted.2.1 = 2 ∧ tradedQty submitted.2.2 submitted.2.1 = 1 := by
    decide +kernel
  refine ⟨TcpServer.orderReport (shareMessage .buy) submitted.2.1, calls_of_waiting held _, rfl,
    traded.2, ?_, rfl⟩
  exact if_pos (by rw [traded.1]; decide)

end ClientSystem

end OrderBookExchange
