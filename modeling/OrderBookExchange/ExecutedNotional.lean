import OrderBookExchange.FilledShares
import OrderBookExchange.OrderReports

/-!
# The notional of an order as executed

The checker multiplies the quantity of an order with its limit price.  A buy
order trades at that price or below, so its trades stay within the cap that the
order passed.  A sell order trades at its limit price or above, and the price it
finds on the book is not part of the check: only its trades as a resting order,
which are made at its own price, are held by the cap.
-/

namespace OrderBookExchange

namespace Double

/-- Not above the larger of a cap and zero. -/
def Within (cap total : Double) : Prop :=
  cap.lt total = false ∨ total.le 0 = true

instance (cap total : Double) : Decidable (cap.Within total) :=
  inferInstanceAs (Decidable (_ ∨ _))

theorem within_of_below_zero (cap : Double) {total : Double}
    (below : (0 : Double).lt total = false) : cap.Within total := by
  cases total with
  | nan => exact Or.inl (by cases cap <;> rfl)
  | negInf => exact Or.inr rfl
  | posInf => exact absurd below.symm Bool.false_ne_true
  | finite value => exact Or.inr (by simpa [lt, le] using below)

theorem add_below {first second : ℚ} {left right : Double}
    (leftBelow : (Double.finite first).lt left = false)
    (rightBelow : (Double.finite second).lt right = false) :
    (Double.finite (first + second)).lt (left.add right) = false := by
  cases left with
  | posInf => exact absurd leftBelow.symm Bool.false_ne_true
  | nan | negInf => cases right <;> rfl
  | finite leftValue =>
      cases right with
      | posInf => exact absurd rightBelow.symm Bool.false_ne_true
      | nan | negInf => rfl
      | finite rightValue =>
          simp only [add, lt, decide_eq_false_iff_not, not_lt] at leftBelow rightBelow ⊢
          exact add_le_add leftBelow rightBelow

theorem mul_below {limit : ℚ} {price : Double} (within : price.le (.finite limit) = true)
    (quantity : Nat) :
    (Double.finite (limit * quantity)).lt (price.mul (.ofNat quantity)) = false := by
  cases price with
  | nan | posInf => exact absurd within Bool.false_ne_true
  | negInf =>
      have nonpositive : ¬0 < -(quantity : ℚ) := by
        rw [neg_pos, not_lt]
        exact Nat.cast_nonneg quantity
      change (Double.finite _).lt (infinityWithSign (-(quantity : ℚ))) = false
      rw [infinityWithSign, if_neg nonpositive]
      split <;> rfl
  | finite value =>
      simp only [le, decide_eq_true_eq] at within
      simp only [ofNat, mul, lt, decide_eq_false_iff_not, not_lt]
      exact mul_le_mul_of_nonneg_right within (Nat.cast_nonneg quantity)

end Double

/-- The sum of price times quantity. -/
def notionalSum (fills : List (Price × Nat)) : Double :=
  fills.foldl (fun total fill => total.add (fill.1.mul (.ofNat fill.2))) 0

/-- Fills at no more than a limit sum up to no more than they would at the
limit. -/
theorem notionalSum_below {limit : ℚ} {fills : List (Price × Nat)}
    (within : ∀ fill ∈ fills, fill.1.le (.finite limit) = true) :
    (Double.finite (limit * ((fills.map Prod.snd).sum : Nat))).lt (notionalSum fills) = false := by
  have accumulated : ∀ (total : Double) (start : ℚ), (Double.finite start).lt total = false →
      (Double.finite (start + limit * ((fills.map Prod.snd).sum : Nat))).lt
        (fills.foldl (fun total fill => total.add (fill.1.mul (.ofNat fill.2))) total) = false := by
    induction fills with
    | nil =>
        intro total start below
        simpa using below
    | cons fill fills ih =>
        intro total start below
        rw [List.forall_mem_cons] at within
        have next := ih within.2 _ _ (Double.add_below below (Double.mul_below within.1 fill.2))
        rw [List.map_cons, List.sum_cons, Nat.cast_add, mul_add, ← add_assoc]
        exact next
  have fromZero := accumulated 0 0 (by decide)
  rw [zero_add] at fromZero
  exact fromZero

/-- A quantity that passes the notional cap at some price passes it however it
is filled at that price or below. -/
theorem within_notionalSum {cap : Double} {price : Price} {quantity : Nat}
    {fills : List (Price × Nat)} (nonzero : quantity ≠ 0)
    (capped : cap.lt (price.mul (.ofNat quantity)) = false)
    (within : ∀ fill ∈ fills, fill.1.le price = true)
    (filled : (fills.map Prod.snd).sum ≤ quantity) : cap.Within (notionalSum fills) := by
  -- At a limit of zero or below the sum is not positive.
  have ofNonpositive : (∀ fill ∈ fills, fill.1.le (.finite 0) = true) →
      cap.Within (notionalSum fills) := by
    intro low
    apply Double.within_of_below_zero
    have below := notionalSum_below low
    rwa [zero_mul] at below
  cases price with
  | nan =>
      apply ofNonpositive
      intro fill member
      have impossible := within fill member
      rw [Double.le_nan_eq_false] at impossible
      exact absurd impossible Bool.false_ne_true
  | negInf =>
      apply ofNonpositive
      intro fill member
      exact Double.le_trans_eq_true (within fill member) rfl
  | posInf =>
      left
      have unlimited : Double.mul .posInf (.ofNat quantity) = .posInf := by
        have positive : (0 : ℚ) < quantity := by exact_mod_cast Nat.pos_of_ne_zero nonzero
        exact if_pos positive
      rw [unlimited] at capped
      apply Double.lt_eq_false_of_below (by simp) capped
      cases notionalSum fills <;> rfl
  | finite limit =>
      rcases le_total limit 0 with nonpositive | nonnegative
      · apply ofNonpositive
        intro fill member
        exact Double.le_trans_eq_true (within fill member) (decide_eq_true nonpositive)
      · left
        apply Double.lt_eq_false_of_below (by simp [Double.mul, Double.ofNat]) capped
        refine Double.lt_eq_false_of_below (by simp) ?_ (notionalSum_below within)
        simp only [Double.mul, Double.ofNat, Double.lt, decide_eq_false_iff_not, not_lt]
        exact mul_le_mul_of_nonneg_left (by exact_mod_cast filled) nonnegative

/-! ### No order trades more than its quantity -/

namespace OrderBook

variable {book : OrderBook} {id : Nat}

theorem step_traded_le (linked : book.Linked) (unfilled : book.Unfilled)
    (old : id < book.nextOrderId) (op : EngineOp) :
    (book.step op).1.remainingOf id + tradedQty (book.step op).2.trades id ≤
      book.remainingOf id := by
  cases op with
  | submit clock symbol side type price quantity =>
      have plain : (EngineOp.submit clock symbol side type price quantity).NoReduce := trivial
      exact (follow_step linked unfilled old plain rfl).le
  | cancel symbol orderId =>
      have after := remainingOf_step linked unfilled old (.cancel symbol orderId)
      change _ + 0 ≤ _
      rw [after]
      split
      · exact Nat.zero_le _
      · exact le_rfl
  | reduce symbol orderId newQuantity =>
      obtain ⟨-, -, -, others, outcome⟩ :=
        reduceOrder_conserved linked unfilled orderId newQuantity
      change (book.reduceOrder orderId newQuantity).1.remainingOf id + 0 ≤ _
      by_cases named : id = orderId
      · subst named
        rcases outcome with ⟨-, leftEq, smaller⟩ | ⟨-, unchanged⟩
        · omega
        · rw [unchanged, Nat.add_zero]
      · rw [remainingOf_of_orderAt (others id named), Nat.add_zero]

theorem run_traded_le (linked : book.Linked) (unfilled : book.Unfilled)
    (old : id < book.nextOrderId) (ops : List EngineOp) :
    (Transition.run step book ops).1.remainingOf id +
        tradedQty (reportedTrades (Transition.history step book ops)) id ≤
      book.remainingOf id := by
  induction ops generalizing book with
  | nil => simp
  | cons op ops ih =>
      obtain ⟨nextLinked, nextUnfilled⟩ := linked_step linked unfilled op
      have first := step_traded_le linked unfilled old op
      have rest := ih nextLinked nextUnfilled
        (old.trans_le (nextOrderId_le_step linked unfilled op))
      rw [Transition.history_cons, reportedTrades_cons, tradedQty_append, Transition.run_cons]
      dsimp only
      omega

/-- Over its whole life an order trades at most its quantity. -/
theorem traded_le_quantity (symbol : Symbol) (poolSize : Nat) {ops : List EngineOp}
    {submission : Submission}
    (member : submission ∈ submissions (Transition.history step (new symbol poolSize) ops)) :
    tradedQty (reportedTrades (Transition.history step (new symbol poolSize) ops)) submission.id ≤
      submission.quantity.toNat := by
  obtain ⟨entry, inHistory, recorded⟩ := List.mem_filterMap.mp member
  obtain ⟨earlier, later, shape⟩ := List.append_of_mem inHistory
  obtain ⟨before, clock, after, opsEq, accepted, counter, earlierEq, outputEq, laterEq⟩ :=
    submission_split (linked_new symbol poolSize) (unfilled_new symbol poolSize) one_ne_zero shape
      recorded
  obtain ⟨linked, unfilled⟩ := linked_run_new symbol poolSize before
  have unissued := unissued_run (linked_new symbol poolSize) (unfilled_new symbol poolSize) before
    counter.le
  obtain ⟨-, tradedBefore⟩ := quiet_of_untouched unissued
  obtain ⟨nextLinked, nextUnfilled, nextEq, balance⟩ := acceptOrder_conserved clock submission.side
    submission.type (effectivePrice submission.side submission.type submission.price)
    submission.quantity linked unfilled
  have balanced := balance submission.id
  rw [if_pos counter.symm, remainingOf_of_none (linked.orderAt_none_of_le counter.le)] at balanced
  have tradedAfter := run_traded_le nextLinked nextUnfilled
    (show submission.id < _ by rw [nextEq, counter]; exact Nat.lt_succ_self _) after
  rw [step_submit_of_accepts _ clock submission.symbol submission.side accepted] at outputEq laterEq
  rw [shape, reportedTrades_append, reportedTrades_cons, tradedQty_append, tradedQty_append,
    earlierEq, tradedBefore, outputEq, laterEq]
  dsimp only [EngineOutput.trades] at *
  omega

/-- What the trades of an order owe to its submission. -/
theorem price_of_named (symbol : Symbol) (poolSize : Nat) {ops : List EngineOp}
    {submission : Submission}
    (member : submission ∈ submissions (Transition.history step (new symbol poolSize) ops))
    (priced : submission.type ≠ .market) {trade : Trade}
    (reported : trade ∈ reportedTrades (Transition.history step (new symbol poolSize) ops))
    (named : trade.Names submission.id) :
    (submission.side.isBuy = true → trade.price.le submission.price = true) ∧
      (submission.side.isBuy = false → submission.price.le submission.price = true ∧
        (submission.id < trade.buyOrderId → trade.price.le submission.price = true)) := by
  obtain ⟨entry, inHistory, traded⟩ := List.mem_flatMap.mp reported
  obtain ⟨buyer, buyerMem, seller, sellerMem, protects⟩ :=
    run_protects symbol poolSize inHistory traded
  rcases named with bought | sold
  · have isBuyer : submission = buyer :=
      submission_unique symbol poolSize ops member buyerMem (bought.symm.trans protects.buyerId.symm)
    subst isBuyer
    refine ⟨fun _ => protects.buyerLimit priced, ?_⟩
    intro sells
    exact absurd protects.buys (by simp [sells])
  · have isSeller : submission = seller :=
      submission_unique symbol poolSize ops member sellerMem
        (sold.symm.trans protects.sellerId.symm)
    subst isSeller
    refine ⟨fun buys => absurd protects.sells (by simp [buys]), ?_⟩
    have reached := protects.sellerLimit priced
    refine fun _ => ⟨Double.le_self_left reached, fun younger => ?_⟩
    -- The seller is the older order, so the trade is made at its price.
    have ownPrice : trade.price = submission.price := by
      rw [protects.olderPrice, older, if_neg (by rw [protects.buyerId]; omega)]
    rw [ownPrice] at reached ⊢
    exact reached

end OrderBook

/-! ### Orders that have passed the check -/

/-- A submission comes after a check that it passed, under the given limits and
in whatever state the checker was then. -/
def EngineOp.Gated (limits : RiskLimits) : EngineOp → Prop
  | .submit _ symbol side type price quantity =>
      ∃ checker : RiskChecker, checker.limits = limits ∧
        (checker.check symbol side type price quantity).2 = .none
  | _ => True

/-- The trades that an order took part in. -/
def tradesOf (history : List (EngineOp × EngineOutput)) (submission : Submission) : List Trade :=
  (reportedTrades (historyOn submission.symbol history)).filter fun trade =>
    trade.Names submission.id

def executedNotional (trades : List Trade) : Double :=
  notionalSum (trades.map fun trade => (trade.price, trade.quantity.toNat))

namespace MatchingEngine

theorem passes_of_mem_submissions {limits : RiskLimits} {ops : List EngineOp}
    (gated : ∀ op ∈ ops, op.Gated limits) {submission : Submission}
    (member : submission ∈ submissions (Transition.history step .new ops)) :
    ∃ checker : RiskChecker, checker.limits = limits ∧
      checker.Passes submission.symbol submission.side submission.type submission.price
        submission.quantity := by
  obtain ⟨entry, inHistory, recorded⟩ := List.mem_filterMap.mp member
  obtain ⟨clock, opEq, -⟩ := submissionOf_eq_some recorded
  have passed := gated entry.1 (List.of_mem_zip inHistory).1
  rw [opEq] at passed
  obtain ⟨checker, limitsEq, accepted⟩ := passed
  exact ⟨checker, limitsEq, RiskChecker.passes_of_none accepted⟩

/-- In a run of checked orders the trades of a buy order stay within the cap on
the notional of an order.  Those of a sell order do when they are counted at its
own price, and so do the trades that it made while resting. -/
theorem executed_notional_within_cap {limits : RiskLimits} {ops : List EngineOp}
    (gated : ∀ op ∈ ops, op.Gated limits) :
    let history := Transition.history step .new ops
    ∀ submission ∈ submissions history, submission.type ≠ .market →
      let trades := tradesOf history submission
      (submission.side.isBuy = true →
        limits.maxOrderNotional.Within (executedNotional trades)) ∧
      (submission.side.isBuy = false →
        limits.maxOrderNotional.Within (notionalSum
          (trades.map fun trade => (submission.price, trade.quantity.toNat))) ∧
        limits.maxOrderNotional.Within (executedNotional
          (trades.filter fun trade => submission.id < trade.buyOrderId))) := by
  intro history submission member priced trades
  obtain ⟨checker, rfl, passes⟩ := passes_of_mem_submissions gated member
  have onSymbol := mem_submissions_historyOn.mpr ⟨member, rfl⟩
  have historyEq : historyOn submission.symbol history = _ := historyOn_new ops submission.symbol
  rw [historyEq] at onSymbol
  have filled := OrderBook.traded_le_quantity submission.symbol defaultPoolSize onSymbol
  rw [← historyEq] at filled
  have prices : ∀ trade ∈ trades,
      (submission.side.isBuy = true → trade.price.le submission.price = true) ∧
        (submission.side.isBuy = false → submission.price.le submission.price = true ∧
          (submission.id < trade.buyOrderId → trade.price.le submission.price = true)) := by
    intro trade inTrades
    obtain ⟨reported, named⟩ := List.mem_filter.mp inTrades
    rw [historyEq] at reported
    exact OrderBook.price_of_named _ _ onSymbol priced reported (of_decide_eq_true named)
  have nonzero : submission.quantity.toNat ≠ 0 :=
    fun zero => passes.nonzero (UInt32.toNat_inj.mp zero)
  -- Any of the trades, counted at no more than the price of the order.
  have within : ∀ (part : List Trade) (paid : Trade → Price), part.Sublist trades →
      (∀ trade ∈ part, (paid trade).le submission.price = true) →
        checker.limits.maxOrderNotional.Within
          (notionalSum (part.map fun trade => (paid trade, trade.quantity.toNat))) := by
    intro part paid isPart low
    apply within_notionalSum nonzero (passes.notionalCap priced)
    · intro fill inFills
      obtain ⟨trade, inPart, rfl⟩ := List.mem_map.mp inFills
      exact low trade inPart
    · rw [List.map_map]
      exact ((isPart.map _).sum_le_sum (by simp)).trans filled
  constructor
  · intro buys
    apply within trades Trade.price (List.Sublist.refl _)
    intro trade inTrades
    exact (prices trade inTrades).1 buys
  · intro sells
    constructor
    · apply within trades (fun _ => submission.price) (List.Sublist.refl _)
      intro trade inTrades
      exact ((prices trade inTrades).2 sells).1
    · apply within _ Trade.price List.filter_sublist
      intro trade inPart
      obtain ⟨inTrades, younger⟩ := List.mem_filter.mp inPart
      exact ((prices trade inTrades).2 sells).2 (of_decide_eq_true younger)

/-- A bid for eight shares that takes five and then waits for three more. -/
theorem executed_notional_within_cap_bid :
    let ops : List EngineOp :=
      [.submit id [65] .sell .limit (.finite 100) 5, .submit id [65] .buy .limit (.finite 101) 8,
        .submit id [65] .sell .market 0 3]
    let history := Transition.history step .new ops
    let bid : Submission := ⟨[65], 2, .buy, .limit, .finite 101, 8⟩
    (∀ op ∈ ops, op.Gated {}) ∧ executedNotional (tradesOf history bid) = .finite 803 ∧
      ({} : RiskLimits).maxOrderNotional.Within (executedNotional (tradesOf history bid)) := by
  intro ops history bid
  have gated : ∀ op ∈ ops, op.Gated {} := by
    simp only [ops, List.forall_mem_cons, List.not_mem_nil, false_implies, implies_true, and_true]
    refine ⟨⟨.new {}, rfl, ?_⟩, ⟨.new {}, rfl, ?_⟩, .new {}, rfl, ?_⟩ <;> decide +kernel
  have submitted : bid ∈ submissions history := by decide +kernel
  have within := executed_notional_within_cap gated bid submitted (by decide)
  exact ⟨gated, by decide +kernel, within.1 rfl⟩

/-- A million shares offered at one dollar pass the default cap of ten million
and are sold to two bids for fifteen million.  Below zero, a cap is exceeded by
an order that does not trade at all. -/
theorem sell_order_exceeds_notional_cap :
    let ops : List EngineOp :=
      [.submit id [65] .buy .limit (.finite 15) 500000,
        .submit id [65] .buy .limit (.finite 15) 500000,
        .submit id [65] .sell .limit (.finite 1) 1000000]
    let history := Transition.history step .new ops
    let offer : Submission := ⟨[65], 3, .sell, .limit, .finite 1, 1000000⟩
    let lowCap : RiskLimits := { maxOrderNotional := .finite (-1) }
    let lowOps : List EngineOp := [.submit id [65] .buy .ioc (.finite (-5)) 1]
    let lowHistory := Transition.history step .new lowOps
    let lowBid : Submission := ⟨[65], 1, .buy, .ioc, .finite (-5), 1⟩
    ((∀ op ∈ ops, op.Gated {}) ∧ offer ∈ submissions history ∧
        ({} : RiskLimits).maxOrderNotional.lt (executedNotional (tradesOf history offer)) = true) ∧
      (∀ op ∈ lowOps, op.Gated lowCap) ∧ lowBid ∈ submissions lowHistory ∧
        lowCap.maxOrderNotional.lt (executedNotional (tradesOf lowHistory lowBid)) = true := by
  intro ops history offer lowCap lowOps lowHistory lowBid
  have gated : ∀ op ∈ ops, op.Gated {} := by
    simp only [ops, List.forall_mem_cons, List.not_mem_nil, false_implies, implies_true, and_true]
    refine ⟨⟨.new {}, rfl, ?_⟩, ⟨.new {}, rfl, ?_⟩, .new {}, rfl, ?_⟩ <;> decide +kernel
  have lowGated : ∀ op ∈ lowOps, op.Gated lowCap := by
    simp only [lowOps, List.forall_mem_cons, List.not_mem_nil, false_implies, implies_true,
      and_true]
    exact ⟨.new lowCap, rfl, by decide +kernel⟩
  exact ⟨⟨gated, by decide +kernel, by decide +kernel⟩, lowGated, by decide +kernel,
    by decide +kernel⟩

end MatchingEngine

/-! ### The server -/

namespace ClientSystem

variable {limits : RiskLimits} {system : ClientSystem}

/-- The server checks with the given limits, every order held by a connection
has passed, and so has every order that reached the engine. -/
structure Checked (limits : RiskLimits) (system : ClientSystem) : Prop where
  gate : ∃ checker, system.server.risk = some checker ∧ checker.limits = limits
  held : ∀ client msg, system.waiting client = some msg → ∀ clock,
    (EngineOp.submit clock (getSymbol msg.symbol) msg.side msg.orderType msg.price
      msg.quantity).Gated limits
  reached : ∃ ops, (∀ op ∈ ops, op.Gated limits) ∧
    system.server.engine = (Transition.run MatchingEngine.step .new ops).1

theorem checked_start {checker : RiskChecker} (limitsEq : checker.limits = limits) :
    Checked limits (start (some checker)) where
  gate := ⟨checker, rfl, limitsEq⟩
  held := by simp [start]
  reached := ⟨[], by simp, rfl⟩

/-- A call on the engine that needs no check or has passed it. -/
theorem Checked.call (checked : Checked limits system) {op : EngineOp} (gated : op.Gated limits) :
    ∃ ops, (∀ op ∈ ops, op.Gated limits) ∧
      (system.server.engine.step op).1 = (Transition.run MatchingEngine.step .new ops).1 := by
  obtain ⟨ops, allGated, engineEq⟩ := checked.reached
  refine ⟨ops ++ [op], ?_, ?_⟩
  · intro other member
    rcases List.mem_append.mp member with earlier | last
    · exact allGated other earlier
    · rw [List.mem_singleton.mp last]
      exact gated
  · rw [Transition.run_append, engineEq]
    rfl

theorem Checked.receive (checked : Checked limits system) (client : Nat) (frame : Frame) :
    Checked limits (system.receive client frame).1 := by
  obtain ⟨checker, gate, limitsEq⟩ := checked.gate
  cases frame with
  | newOrder body complete =>
      rw [ClientSystem.receive, TcpServer.checkOrder_of_some gate]
      split
      · exact ⟨⟨_, rfl, limitsEq⟩, checked.held, checked.reached⟩
      · next passed =>
          refine ⟨⟨_, rfl, limitsEq⟩, ?_, checked.reached⟩
          intro other msg found clock
          change Function.update system.waiting client (some (OrderMessage.ofBody body)) other =
            some msg at found
          by_cases own : other = client
          · subst own
            rw [Function.update_self, Option.some.injEq] at found
            subst found
            exact ⟨checker, limitsEq, not_not.mp passed⟩
          · rw [Function.update_of_ne own] at found
            exact checked.held other msg found clock
  | cancel body complete =>
      have ungated : (EngineOp.cancel (getSymbol (CancelMessage.ofBody body).symbol)
          (CancelMessage.ofBody body).orderId).Gated limits := trivial
      exact ⟨checked.gate, checked.held, checked.call ungated⟩
  | other tag unknown => exact checked

theorem Checked.submit (checked : Checked limits system) (client : Nat) (clock : Clock) :
    Checked limits (system.step (.submit client clock)).1 := by
  cases found : system.waiting client with
  | none =>
      rw [step, found]
      exact checked
  | some msg =>
      obtain ⟨checker, gate, limitsEq⟩ := checked.gate
      rw [step, found]
      refine ⟨?_, ?_, checked.call (checked.held client msg found clock)⟩
      · dsimp only [TcpServer.submit]
        rw [gate]
        exact ⟨_, rfl, (limits_foldl_tradeCallback _ _).trans limitsEq⟩
      · intro other waiting held
        by_cases own : other = client
        · subst own
          simp at held
        · dsimp only at held
          rw [Function.update_of_ne own] at held
          exact checked.held other waiting held

theorem Checked.operate (checked : Checked limits system) (action : SystemAction) :
    Checked limits (system.operate action).1 := by
  obtain ⟨checker, gate, limitsEq⟩ := checked.gate
  cases action with
  | engageKillSwitch =>
      refine ⟨⟨checker.engageKillSwitch, ?_, limitsEq⟩, checked.held, checked.reached⟩
      rw [ClientSystem.operate, gate]
      rfl
  | disengageKillSwitch =>
      refine ⟨⟨checker.disengageKillSwitch, ?_, limitsEq⟩, checked.held, checked.reached⟩
      rw [ClientSystem.operate, gate]
      rfl
  | client action =>
      cases action with
      | receive client frame =>
          rw [ClientSystem.operate, step]
          split
          · exact checked
          · exact checked.receive client frame
      | submit client clock => exact checked.submit client clock

/-- The engine of a server with a checker has only seen checked orders, however
its connections and its operator take turns. -/
theorem run_gated (checker : RiskChecker) (actions : List SystemAction) :
    ∃ ops, (∀ op ∈ ops, op.Gated checker.limits) ∧
      (Transition.run operate (start (some checker)) actions).1.server.engine =
        (Transition.run MatchingEngine.step .new ops).1 :=
  (Transition.run_of_preserved (Checked checker.limits)
    (fun _ action checked => checked.operate action) (checked_start rfl) actions).reached

end ClientSystem

end OrderBookExchange
