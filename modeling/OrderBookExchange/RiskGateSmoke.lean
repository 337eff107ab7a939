import OrderBookExchange.KillSwitch
import OrderBookExchange.ReportStream

/-!
# The smoke check of the risk gate

A small client sends three orders to a running server and looks at the status byte
of each report.  The first order is inside the limits and must not be rejected; the
other two break a limit and must be.

The two rejections are certain on every server with the default limits, whatever it
has served before.  The first order is refused by a server with enough trades behind
it: fills are booked to the exposure and never leave it, and the check passes exactly
while the exposure has room for another 15,000 dollars.
-/

namespace OrderBookExchange

/-- `order_msg`: the bytes of a new order.  A price is given by its 64 bits. -/
def orderMsg (side orderType : UInt8) (price : UInt64) (quantity : Quantity)
    (symbol : Symbol := callbackSymbol) : List UInt8 :=
  MessageType.newOrder :: ((symbol ++ List.replicate (8 - symbol.length) 0).take 8 ++
    side :: orderType :: (toLittleEndian 8 price.toNat ++ toLittleEndian 4 quantity.toNat))

/-- The double 150.0. -/
def bits150 : UInt64 := 0x4062C00000000000

/-- The double 1000000.0. -/
def bitsMillion : UInt64 := 0x412E848000000000

def smokeCases : List (List UInt8) :=
  [orderMsg 0 0 bits150 100, orderMsg 0 0 bits150 2000000, orderMsg 0 0 bitsMillion 100]

/-- The failures that the check counts over the reports, from a case on. -/
def smokeFailures : Nat → List (List UInt8) → Nat
  | _, [] => 0
  | index, report :: reports =>
      let expectedRejected := decide (0 < index)
      (if expectedRejected ≠ (report.getD 9 0 == 4) then 1 else 0) +
        smokeFailures (index + 1) reports

theorem ofBits_bits150 : Double.ofBits bits150.toNat = .finite 150 := by
  decide +kernel

theorem ofBits_bitsMillion : Double.ofBits bitsMillion.toNat = .finite 1000000 := by
  decide +kernel

theorem ExecutionReport.Packed.rejected_iff {report : ExecutionReport} {bytes : List UInt8}
    (packed : report.Packed bytes) : bytes.getD 9 0 = 4 ↔ report.status = .rejected := by
  obtain ⟨price, -, rfl⟩ := packed
  rw [toBytes_status]
  cases report.status <;> decide

/-! ### The gate -/

theorem position_tradeCallback (risk : RiskChecker) (trade : Trade) (symbol : Symbol) :
    (tradeCallback risk trade).position symbol = risk.position symbol := by
  unfold tradeCallback
  rw [RiskChecker.position_onFill, RiskChecker.position_onFill]
  unfold signedQuantity
  split <;> simp [Side.isBuy]

theorem position_foldl_tradeCallback (risk : RiskChecker) (trades : List Trade)
    (symbol : Symbol) :
    (trades.foldl tradeCallback risk).position symbol = risk.position symbol := by
  induction trades generalizing risk with
  | nil => rfl
  | cons trade trades induction =>
      rw [List.foldl_cons, induction, position_tradeCallback]

/-- Two checkers that differ in their exposure and their statistics. -/
structure RiskChecker.SameGate (before after : RiskChecker) : Prop where
  limits : after.limits = before.limits
  killSwitch : after.killSwitch = before.killSwitch
  position : ∀ symbol, after.position symbol = before.position symbol

theorem RiskChecker.SameGate.trans {first second third : RiskChecker}
    (before : first.SameGate second) (after : second.SameGate third) : first.SameGate third where
  limits := after.limits.trans before.limits
  killSwitch := after.killSwitch.trans before.killSwitch
  position symbol := (after.position symbol).trans (before.position symbol)

namespace TcpServer

variable {server : TcpServer} {checker : RiskChecker}

/-- An order moves the exposure of the gate, and of the rest nothing. -/
theorem gate_handleNewOrder (gate : server.risk = some checker) (clock : Clock)
    (msg : OrderMessage) :
    ∃ after, (server.handleNewOrder clock msg).1.risk = some after ∧ checker.SameGate after := by
  unfold handleNewOrder
  rw [checkOrder_of_some gate]
  dsimp only
  split
  · exact ⟨_, rfl, rfl, rfl, fun _ => rfl⟩
  · refine ⟨_, rfl, ?_, ?_, ?_⟩
    · exact limits_foldl_tradeCallback _ _
    · exact ClientSystem.killSwitch_foldl_tradeCallback _ _
    · intro symbol
      exact position_foldl_tradeCallback _ _ symbol

theorem numbered_handleNewOrder (numbered : server.engine.Numbered) (clock : Clock)
    (msg : OrderMessage) : (server.handleNewOrder clock msg).1.engine.Numbered := by
  unfold handleNewOrder
  dsimp only
  split
  · exact numbered
  · exact numbered.submitOrder clock _ _ _ _ _

/-- An order is answered with one report, a rejection if the gate refuses it or the
engine does. -/
theorem report_handleNewOrder (gate : server.risk = some checker)
    (numbered : server.engine.Numbered) (clock : Clock) (msg : OrderMessage) :
    ∃ report, sentReports (server.handleNewOrder clock msg).2 = [report] ∧
      (report.status = .rejected ↔
        checker.rejectReason (getSymbol msg.symbol) msg.side msg.orderType msg.price
            msg.quantity ≠ .none ∨
          rejects msg.orderType msg.price msg.quantity = true) := by
  have silent : sentReports (server.checkCalls msg) = [] := by
    unfold checkCalls
    split <;> rfl
  unfold handleNewOrder
  rw [checkOrder_of_some gate]
  dsimp only
  split
  · next refused =>
      refine ⟨orderReport msg 0, ?_, iff_of_true rfl (Or.inl refused)⟩
      rw [sentReports_append, silent]
      rfl
  · next passed =>
      refine ⟨_, by rw [sentReports_append, silent]; rfl, ?_⟩
      rw [or_iff_right passed]
      change (if 0 < (server.engine.submitOrder clock (getSymbol msg.symbol) msg.side
        msg.orderType msg.price msg.quantity).2.1 then OrderStatus.accepted
          else .rejected) = .rejected ↔ _
      by_cases rejected : rejects msg.orderType msg.price msg.quantity = true
      · have noId : (server.engine.submitOrder clock (getSymbol msg.symbol) msg.side
            msg.orderType msg.price msg.quantity).2.1 = 0 := by
          simp [MatchingEngine.submitOrder, rejected]
        rw [noId]
        exact iff_of_true rfl rejected
      · rw [server.engine.submitOrder_id clock _ _ rejected,
          if_pos (Nat.pos_of_ne_zero (numbered.counters _))]
        exact iff_of_false OrderStatus.noConfusion rejected

/-! ### What a server has served before -/

/-- A connection that has been served to its end. -/
structure Visit where
  stack : Nat → UInt8
  clocks : Nat → Clock
  stream : List UInt8

/-- The server after some connections. -/
def serve (server : TcpServer) (visits : List Visit) : TcpServer :=
  visits.foldl (fun server visit =>
    (server.handleClient visit.stack visit.clocks visit.stream).1) server

/-- The gate of a server that nobody has stopped. -/
structure Open (server : TcpServer) : Prop where
  numbered : server.engine.Numbered
  gate : ∃ checker, server.risk = some checker ∧ (RiskChecker.new {}).SameGate checker

theorem Open.handleNewOrder (opened : server.Open) (clock : Clock) (msg : OrderMessage) :
    (server.handleNewOrder clock msg).1.Open := by
  obtain ⟨checker, gate, same⟩ := opened.gate
  obtain ⟨after, gateAfter, sameAfter⟩ := gate_handleNewOrder gate clock msg
  exact ⟨numbered_handleNewOrder opened.numbered clock msg, after, gateAfter,
    same.trans sameAfter⟩

theorem Open.handleCancel (opened : server.Open) (msg : CancelMessage) :
    (server.handleCancel msg).1.Open :=
  ⟨opened.numbered.cancelOrder _ _, opened.gate⟩

theorem Open.handleClient (opened : server.Open) (visit : Visit) :
    (server.handleClient visit.stack visit.clocks visit.stream).1.Open := by
  obtain ⟨later, kept⟩ := (handleLoop_rule (fun _ server => server.Open) (fun _ => True)
    visit.stream.length
    (fun _ _ clock msg _ before => ⟨before.handleNewOrder clock msg, fun _ _ => trivial⟩)
    (fun _ _ _ _ before => ⟨before.handleCancel _, fun _ _ => trivial⟩) visit.stack
    visit.stream.length visit.clocks visit.stream opened (Nat.zero_add _).le).1
  exact kept

theorem open_serve (visits : List Visit) : ((new {}).serve visits).Open := by
  have opened : (new {}).Open :=
    ⟨MatchingEngine.numbered_new, .new {}, rfl, rfl, rfl, fun _ => rfl⟩
  unfold serve
  generalize new {} = server at opened ⊢
  induction visits generalizing server with
  | nil => exact opened
  | cons visit visits induction => exact induction _ (opened.handleClient visit)

end TcpServer

/-! ### The three orders -/

section Verdicts

variable {checker : RiskChecker} (same : (RiskChecker.new {}).SameGate checker)
include same

/-- The order inside the limits passes as long as the exposure has room for it. -/
theorem first_passes_iff :
    checker.rejectReason callbackSymbol .buy .limit (.finite 150) 100 = .none ↔
      (Double.finite 50000000).lt (checker.notionalExposure.add (.finite 15000)) = false := by
  have alive : checker.killSwitch = false := same.killSwitch
  have limits : checker.limits = {} := same.limits
  have flat : checker.position callbackSymbol = 0 := same.position callbackSymbol
  have notional : orderNotional (.finite 150) 100 = .finite 15000 := by decide +kernel
  unfold RiskChecker.rejectReason
  rw [alive, limits, flat, notional, if_neg Bool.false_ne_true, if_neg (by decide),
    if_neg (by decide), if_neg (by decide +kernel), if_neg (by decide +kernel),
    if_neg (by decide)]
  have priced : OrderType.limit ≠ .market := OrderType.noConfusion
  by_cases exceeded : ({} : RiskLimits).maxNotionalExposure.lt
      (checker.currentNotionalExposure.add (.finite 15000)) = true
  · rw [if_pos ⟨priced, exceeded⟩]
    exact iff_of_false RejectReason.noConfusion fun fits =>
      Bool.false_ne_true (fits.symm.trans exceeded)
  · rw [if_neg fun both => exceeded both.2]
    exact iff_of_true rfl (Bool.eq_false_iff.mpr exceeded)

theorem second_fails :
    checker.rejectReason callbackSymbol .buy .limit (.finite 150) 2000000 ≠ .none := by
  have alive : checker.killSwitch = false := same.killSwitch
  have limits : checker.limits = {} := same.limits
  unfold RiskChecker.rejectReason
  rw [alive, limits, if_neg Bool.false_ne_true, if_neg (by decide), if_pos (by decide)]
  exact RejectReason.noConfusion

theorem third_fails :
    checker.rejectReason callbackSymbol .buy .limit (.finite 1000000) 100 ≠ .none := by
  have alive : checker.killSwitch = false := same.killSwitch
  have limits : checker.limits = {} := same.limits
  unfold RiskChecker.rejectReason
  rw [alive, limits, if_neg Bool.false_ne_true, if_neg (by decide), if_neg (by decide),
    if_neg (by decide +kernel), if_pos (by decide +kernel)]
  exact RejectReason.noConfusion

end Verdicts

/-- The symbol of the check, as a field of a message. -/
def smokeSymbol : WireSymbol where
  bytes := callbackSymbol
  fits := by simp [callbackSymbol]
  noNull := by simp [callbackSymbol]

/-- The cases as messages. -/
def smokeMessages : List ClientMessage :=
  [.newOrder smokeSymbol .buy .limit bits150 100, .newOrder smokeSymbol .buy .limit bits150 2000000,
    .newOrder smokeSymbol .buy .limit bitsMillion 100]

theorem frameBytes_smokeMessages :
    frameBytes (smokeMessages.map ClientMessage.frame) = smokeCases.flatten := by
  decide +kernel

namespace TcpServer

variable {server : TcpServer}

theorem report_case {checker : RiskChecker} (gate : server.risk = some checker)
    (numbered : server.engine.Numbered) (clock : Clock) {bits : UInt64} {price : Price}
    (priceEq : Double.ofBits bits.toNat = price) {quantity : Quantity}
    (accepted : rejects .limit price quantity = false) :
    let handled := server.handleFrame clock
      (ClientMessage.newOrder smokeSymbol .buy .limit bits quantity).frame
    (∃ report, sentReports handled.2 = [report] ∧ (report.status = .rejected ↔
        checker.rejectReason callbackSymbol .buy .limit price quantity ≠ .none)) ∧
      ∃ after, handled.1.risk = some after ∧ checker.SameGate after ∧
        handled.1.engine.Numbered := by
  subst priceEq
  have symbolEq : getSymbol (setSymbol callbackSymbol) = callbackSymbol := by decide
  intro handled
  have handledEq : handled = server.handleNewOrder clock
      { symbol := setSymbol callbackSymbol
        side := .buy
        orderType := .limit
        price := .ofBits bits.toNat
        quantity := quantity } := by
    change server.handleNewOrder clock (.ofBody (OrderMessage.toBody callbackSymbol .buy .limit
      bits quantity)) = _
    rw [OrderMessage.ofBody_toBody]
  rw [handledEq]
  constructor
  · obtain ⟨report, sent, verdict⟩ := report_handleNewOrder gate numbered clock
      { symbol := setSymbol callbackSymbol
        side := .buy
        orderType := .limit
        price := .ofBits bits.toNat
        quantity := quantity }
    refine ⟨report, sent, verdict.trans ?_⟩
    dsimp only
    rw [accepted, symbolEq]
    simp
  · obtain ⟨after, gateAfter, sameAfter⟩ := gate_handleNewOrder gate clock
      { symbol := setSymbol callbackSymbol
        side := .buy
        orderType := .limit
        price := .ofBits bits.toNat
        quantity := quantity }
    exact ⟨after, gateAfter, sameAfter, numbered_handleNewOrder numbered clock _⟩

end TcpServer

theorem smokeFailures_eq_zero_iff (first second third : List UInt8) :
    smokeFailures 0 [first, second, third] = 0 ↔
      first.getD 9 0 ≠ 4 ∧ second.getD 9 0 = 4 ∧ third.getD 9 0 = 4 := by
  simp [smokeFailures]

/-- On a server with the default limits that has served any connections before, the
second and the third order are rejected, and the check passes exactly if the exposure
has room for the first. -/
theorem smoke_passes_iff (visits : List TcpServer.Visit) (stack : Nat → UInt8)
    (clocks : Nat → Clock) (packets : List (List UInt8))
    (packed : List.Forall₂ ExecutionReport.Packed
      (sentReports (((TcpServer.new {}).serve visits).handleClient stack clocks
        smokeCases.flatten).2) packets) :
    (∃ first second third, packets = [first, second, third] ∧
        second.getD 9 0 = 4 ∧ third.getD 9 0 = 4) ∧
      (smokeFailures 0 packets = 0 ↔
        ∀ checker ∈ ((TcpServer.new {}).serve visits).risk,
          (Double.finite 50000000).lt (checker.notionalExposure.add (.finite 15000)) =
            false) := by
  obtain ⟨numbered, checker, gate, same⟩ := TcpServer.open_serve visits
  generalize (TcpServer.new {}).serve visits = server at *
  rw [← frameBytes_smokeMessages, TcpServer.handleClient_frames] at packed
  -- The three reports, each from the server that the order before has left.
  obtain ⟨⟨first, firstSent, firstVerdict⟩, afterFirst, gateFirst, sameFirst, numberedFirst⟩ :=
    TcpServer.report_case gate numbered (clocks 0) ofBits_bits150 (by decide +kernel :
      rejects .limit (.finite 150) 100 = false)
  obtain ⟨⟨second, secondSent, secondVerdict⟩, afterSecond, gateSecond, sameSecond,
      numberedSecond⟩ :=
    TcpServer.report_case gateFirst numberedFirst (clocks 1) ofBits_bits150 (by decide +kernel :
      rejects .limit (.finite 150) 2000000 = false)
  obtain ⟨⟨third, thirdSent, thirdVerdict⟩, -⟩ :=
    TcpServer.report_case gateSecond numberedSecond (clocks 2) ofBits_bitsMillion
      (by decide +kernel : rejects .limit (.finite 1000000) 100 = false)
  have sent : sentReports (TcpServer.handleFrames clocks server
      (smokeMessages.map ClientMessage.frame)).2 = [first, second, third] := by
    simp only [smokeMessages, List.map_cons, List.map_nil, TcpServer.handleFrames,
      sentReports_append]
    rw [firstSent, secondSent, thirdSent]
    rfl
  rw [sent] at packed
  cases packed with
  | @cons _ firstBytes _ _ firstPacked rest =>
    cases rest with
    | @cons _ secondBytes _ _ secondPacked rest =>
      cases rest with
      | @cons _ thirdBytes _ _ thirdPacked rest =>
        cases rest
        have sameThird := (same.trans sameFirst).trans sameSecond
        have refused := secondPacked.rejected_iff.mpr
          (secondVerdict.mpr (second_fails (same.trans sameFirst)))
        have refusedThird := thirdPacked.rejected_iff.mpr
          (thirdVerdict.mpr (third_fails sameThird))
        refine ⟨⟨_, _, _, rfl, refused, refusedThird⟩, ?_⟩
        rw [smokeFailures_eq_zero_iff, and_iff_left ⟨refused, refusedThird⟩, ne_eq,
          firstPacked.rejected_iff, firstVerdict, not_not, first_passes_iff same, gate]
        simp

/-- The check passes on a new server. -/
theorem smoke_passes_iff_new_server :
    ∃ packets, List.Forall₂ ExecutionReport.Packed
        (sentReports (((TcpServer.new {}).serve []).handleClient (fun _ => 0) (fun _ _ => 0)
          smokeCases.flatten).2) packets ∧
      smokeFailures 0 packets = 0 := by
  have carried : Carries smokeMessages smokeCases.flatten := by
    have bytes : smokeCases.flatten = smokeMessages.flatMap ClientMessage.bytes := by
      decide +kernel
    rw [bytes]
    exact .message _ (.message _ (.message _ .nil))
  obtain ⟨frames, turn, framesEq, -, answered⟩ := TcpServer.frames_of_carries carried
  obtain ⟨packets, -, packed, -⟩ := TcpServer.answerAll_packets (fun _ _ => 0)
    ((TcpServer.new {}).serve []) smokeMessages
  rw [← answered (fun _ _ => 0), ← TcpServer.handleClient_frames _ (fun _ => 0),
    framesEq] at packed
  refine ⟨packets, packed, (smoke_passes_iff [] _ _ packets packed).2.mpr ?_⟩
  intro checker gate
  obtain rfl : RiskChecker.new {} = checker := Option.some.inj gate
  decide +kernel

end OrderBookExchange
