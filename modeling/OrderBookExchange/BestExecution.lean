import OrderBookExchange.CheapestFill
import OrderBookExchange.DepthTotals
import OrderBookExchange.LadderWalk
import OrderBookExchange.MatchWalk
import OrderBookExchange.RestingOrders
import OrderBookExchange.TimePriority

/-!
# Best execution

An aggressor could take its shares from the opposite side in many ways.  What the
engine does is best among them: no way of trading inside the aggressor's limit
gives it more shares, and none that gives it as many costs a buyer less or earns
a seller more.
-/

namespace OrderBookExchange

open CheapestFill

/-- What an aggressor pays for a share; a seller receives the price. -/
def unitCost (side : Side) (price : Price) : ℚ :=
  if side.isBuy then price.value else -price.value

/-- The shares that trades take from a resting order. -/
def takenFrom (side : Side) (trades : List Trade) (resting : Order) : Nat :=
  (trades.map fun trade =>
    if (trade.fill side.isBuy).restingId = resting.id then trade.quantity.toNat else 0).sum

/-- What an aggressor pays for its trades. -/
def tradedOutlay (side : Side) (trades : List Trade) : ℚ :=
  (trades.map fun trade => unitCost side trade.price * trade.quantity.toNat).sum

theorem takenFrom_of_unnamed {side : Side} {trades : List Trade} {resting : Order}
    (unnamed : ∀ trade ∈ trades, (trade.fill side.isBuy).restingId ≠ resting.id) :
    takenFrom side trades resting = 0 := by
  apply List.sum_eq_zero
  intro amount member
  obtain ⟨trade, traded, rfl⟩ := List.mem_map.mp member
  exact if_neg (unnamed trade traded)

theorem takenFrom_cons {side : Side} {resting : Order} {rest : List Order} {trade : Trade}
    {trades : List Trade} (distinct : ((resting :: rest).map Order.id).Nodup)
    (named : (trade.fill side.isBuy).restingId = resting.id)
    (inRest : ∀ trade ∈ trades, (trade.fill side.isBuy).restingId ∈ rest.map Order.id) :
    takenFrom side (trade :: trades) resting = trade.quantity.toNat ∧
      ∀ order ∈ rest, takenFrom side (trade :: trades) order = takenFrom side trades order := by
  rw [List.map_cons, List.nodup_cons] at distinct
  constructor
  · have unnamed : takenFrom side trades resting = 0 := by
      apply takenFrom_of_unnamed
      intro later traded same
      exact distinct.1 (same ▸ inRest later traded)
    rw [takenFrom] at unnamed
    rw [takenFrom, List.map_cons, List.sum_cons, if_pos named, unnamed, Nat.add_zero]
  · intro order member
    have apart : (trade.fill side.isBuy).restingId ≠ order.id := by
      rw [named]
      intro same
      exact distinct.1 (same ▸ List.mem_map_of_mem member)
    rw [takenFrom, List.map_cons, List.sum_cons, if_neg apart, Nat.zero_add, takenFrom]

/-! ### How trades are spread over a queue -/

/-- Nothing beyond what an order has or out of reach, the front before the back,
and everything in reach if something is left of the aggressor. -/
structure Allocates (side : Side) (limit : Price) (queue : List Order) (trades : List Trade)
    (left : Quantity) : Prop where
  within : ∀ order ∈ queue, takenFrom side trades order ≤ order.remainingQty.toNat
  reached : ∀ order ∈ queue, takenFrom side trades order ≠ 0 → inReach side limit order = true
  loaded : FrontLoaded (fun order => order.remainingQty.toNat) (takenFrom side trades) queue
  shares : (queue.map (takenFrom side trades)).sum =
    (trades.map fun trade => trade.quantity.toNat).sum
  outlayEq : tradedOutlay side trades =
    outlay (fun order => unitCost side order.price) (takenFrom side trades) queue
  exhausted : left ≠ 0 → ∀ order ∈ queue, inReach side limit order = true →
    takenFrom side trades order = order.remainingQty.toNat

namespace Allocates

variable {side : Side} {limit : Price} {left : Quantity}

/-- Without a trade nothing was in reach, unless nothing was wanted. -/
theorem nil {queue : List Order}
    (unreached : left ≠ 0 → ∀ order ∈ queue, inReach side limit order = false) :
    Allocates side limit queue [] left where
  within := by simp [takenFrom]
  reached := by simp [takenFrom]
  loaded := by
    apply List.pairwise_of_forall
    intro _ _ touched
    exact absurd rfl touched
  shares := by
    apply List.sum_eq_zero
    simp [takenFrom]
  outlayEq := by simp [tradedOutlay, outlay, takenFrom]
  exhausted := by
    intro wanted order member reach
    rw [unreached wanted order member] at reach
    exact absurd reach Bool.false_ne_true

/-- A trade with the head and what is done with the rest, which is nothing unless
the head is used up. -/
theorem cons {resting : Order} {rest : List Order} {trade : Trade} {trades : List Trade}
    (later : Allocates side limit rest trades left)
    (distinct : ((resting :: rest).map Order.id).Nodup)
    (named : (trade.fill side.isBuy).restingId = resting.id)
    (inRest : ∀ trade ∈ trades, (trade.fill side.isBuy).restingId ∈ rest.map Order.id)
    (priceEq : trade.price = resting.price) (reach : inReach side limit resting = true)
    (atMost : trade.quantity.toNat ≤ resting.remainingQty.toNat)
    (usedUp : trades ≠ [] ∨ left ≠ 0 → trade.quantity.toNat = resting.remainingQty.toNat) :
    Allocates side limit (resting :: rest) (trade :: trades) left := by
  obtain ⟨atHead, behind⟩ := takenFrom_cons distinct named inRest
  constructor
  · intro order member
    rcases List.mem_cons.mp member with rfl | inRest
    · rw [atHead]
      exact atMost
    · rw [behind order inRest]
      exact later.within order inRest
  · intro order member touched
    rcases List.mem_cons.mp member with rfl | inRest
    · exact reach
    · rw [behind order inRest] at touched
      exact later.reached order inRest touched
  · rw [FrontLoaded, List.pairwise_cons]
    constructor
    · intro order inRest touched
      rw [behind order inRest] at touched
      rw [atHead]
      apply usedUp
      left
      rintro rfl
      exact touched rfl
    · apply later.loaded.imp_of_mem
      intro ahead order aheadMem orderMem loaded touched
      rw [behind order orderMem] at touched
      rw [behind ahead aheadMem]
      exact loaded touched
  · rw [List.map_cons, List.sum_cons, atHead, List.map_congr_left behind, later.shares,
      List.map_cons, List.sum_cons]
  · have restOutlay : outlay (fun order => unitCost side order.price)
        (takenFrom side (trade :: trades)) rest = tradedOutlay side trades := by
      rw [later.outlayEq, outlay, outlay]
      congr 1
      apply List.map_congr_left
      intro order member
      rw [behind order member]
    rw [outlay] at restOutlay
    rw [outlay, List.map_cons, List.sum_cons, restOutlay, atHead, ← priceEq, tradedOutlay,
      List.map_cons, List.sum_cons, tradedOutlay]
  · intro unfilled order member orderReach
    rcases List.mem_cons.mp member with rfl | inRest
    · rw [atHead]
      exact usedUp (Or.inr unfilled)
    · rw [behind order inRest]
      exact later.exhausted unfilled order inRest orderReach

end Allocates

/-! ### A sweep -/

section Sweep

variable (clock : Clock)

theorem fill_sweep {count : Nat} {incoming : Order} {queue : List Order} {trade : Trade}
    (traded : trade ∈ (sweep clock count incoming queue).trades) :
    (trade.fill incoming.side.isBuy).restingId ∈ queue.map Order.id := by
  obtain ⟨resting, member, -, -, buyer, seller⟩ :=
    sweep_trade_terms clock count incoming queue traded
  apply List.mem_map.mpr
  refine ⟨resting, member, ?_⟩
  rw [Trade.fill, buyer, seller]
  cases incoming.side.isBuy <;> rfl

theorem sweep_incoming_cons (count : Nat) {incoming resting : Order}
    (active : incoming.remainingQty ≠ 0) (crosses : priceMatch incoming resting = true)
    (rest : List Order) :
    (sweep clock count incoming (resting :: rest)).incoming =
      (sweep clock (count + 1) (executeMatch incoming resting (clock count)).incoming
        rest).incoming := by
  rw [sweep_cons clock count active crosses]
  dsimp only [Match.leftover]
  split
  · rfl
  · next stays =>
      have filled := executeMatch_fills stays
      rw [sweep_of_filled clock _ filled, sweep_of_filled clock _ filled]

/-- An order that a match does not use up leaves nothing of the aggressor. -/
theorem usedUp_of_goesOn {count : Nat} {incoming resting : Order} {rest : List Order}
    (goesOn : (sweep clock (count + 1) (executeMatch incoming resting (clock count)).incoming
        rest).trades ≠ [] ∨
      (sweep clock (count + 1) (executeMatch incoming resting (clock count)).incoming
        rest).incoming.remainingQty ≠ 0) :
    (executeMatch incoming resting (clock count)).trade.quantity.toNat =
      resting.remainingQty.toNat := by
  have balance := (executeMatch_balance incoming resting (clock count)).2
  by_cases used : (executeMatch incoming resting (clock count)).resting.isFilled = true
  · rw [Order.isFilled_eq_true] at used
    rw [used] at balance
    simpa using balance
  · have filled := executeMatch_fills used
    rw [sweep_of_filled clock _ filled] at goesOn
    rcases goesOn with traded | unfilled
    · exact absurd rfl traded
    · exact absurd filled unfilled

theorem sweep_allocates (count : Nat) (incoming : Order) (queue : List Order)
    (distinct : (queue.map Order.id).Nodup)
    (inOrder : queue.Pairwise fun ahead behind =>
      inReach incoming.side incoming.price behind = true →
        inReach incoming.side incoming.price ahead = true) :
    Allocates incoming.side incoming.price queue (sweep clock count incoming queue).trades
      (sweep clock count incoming queue).incoming.remainingQty := by
  induction queue generalizing count incoming with
  | nil => exact .nil (by simp)
  | cons resting rest induction =>
      rw [List.pairwise_cons] at inOrder
      by_cases filled : incoming.remainingQty = 0
      · rw [sweep_of_filled clock count filled]
        exact .nil fun wanted => absurd filled wanted
      by_cases crosses : priceMatch incoming resting = true
      · rw [sweep_trades_cons clock count filled crosses,
          sweep_incoming_cons clock count filled crosses]
        have balance := (executeMatch_balance incoming resting (clock count)).2
        have later := induction (count + 1) (executeMatch incoming resting (clock count)).incoming
          (List.nodup_cons.mp distinct).2 inOrder.2
        apply later.cons distinct
        · cases buy : incoming.side.isBuy <;> simp [Trade.fill, executeMatch, buy]
        · intro trade traded
          exact fill_sweep clock traded
        · rfl
        · exact crosses
        · omega
        · exact usedUp_of_goesOn clock
      · rw [sweep, if_neg filled, if_neg crosses]
        apply Allocates.nil
        intro _ order member
        rw [Bool.eq_false_iff]
        intro reach
        apply crosses
        rcases List.mem_cons.mp member with rfl | behind
        · exact reach
        · exact inOrder.1 order behind reach

end Sweep

/-! ### What the engine does with a submission -/

/-- A way to trade: so many shares from each resting order, none beyond what it
has or out of reach, and no more of them than are wanted. -/
structure IsPlan (side : Side) (limit : Price) (quantity : Quantity) (queue : List Order)
    (plan : Order → Nat) : Prop where
  within : ∀ order ∈ queue, plan order ≤ order.remainingQty.toNat
  reached : ∀ order ∈ queue, plan order ≠ 0 → inReach side limit order = true
  atMost : (queue.map plan).sum ≤ quantity.toNat

theorem Allocates.most {side : Side} {limit : Price} {queue : List Order} {trades : List Trade}
    {left quantity : Quantity} (allocates : Allocates side limit queue trades left)
    (balance : left.toNat + (trades.map fun trade => trade.quantity.toNat).sum = quantity.toNat)
    {plan : Order → Nat} (isPlan : IsPlan side limit quantity queue plan) :
    (queue.map plan).sum ≤ (queue.map (takenFrom side trades)).sum := by
  by_cases filled : left = 0
  · rw [allocates.shares]
    subst filled
    have atMost := isPlan.atMost
    simp only [UInt32.toNat_zero, Nat.zero_add] at balance
    omega
  · apply List.sum_le_sum
    intro order member
    by_cases touched : plan order = 0
    · omega
    · rw [allocates.exhausted filled order member (isPlan.reached order member touched)]
      exact isPlan.within order member

namespace PriorityBook

variable {book : PriorityBook}

/-- The opposite side stands in the order of what its shares cost. -/
theorem sorted_unitCost (ordered : book.Ordered) (side : Side)
    (finite : ∀ order ∈ book.queue (!side.isBuy), order.price.isFinite = true) :
    (book.queue (!side.isBuy)).Pairwise fun ahead behind =>
      unitCost side ahead.price ≤ unitCost side behind.price := by
  apply (ordered.prior (!side.isBuy)).imp_of_mem
  intro ahead behind aheadMem behindMem prior
  rcases prior with better | ⟨samePrice, -⟩
  · rw [Double.eq_finite (finite ahead aheadMem),
      Double.eq_finite (finite behind behindMem)] at better
    unfold unitCost
    cases isBuy : side.isBuy <;> rw [isBuy] at better
    · exact neg_le_neg (of_decide_eq_true better).le
    · exact (of_decide_eq_true better).le
  · rw [samePrice]

/-- What is behind an order is in reach only if the order is. -/
theorem sorted_inReach (ordered : book.Ordered) (side : Side) (limit : Price) :
    (book.queue (!side.isBuy)).Pairwise fun ahead behind =>
      inReach side limit behind = true → inReach side limit ahead = true := by
  apply (ordered.prior (!side.isBuy)).imp_of_mem
  intro ahead behind aheadMem behindMem prior reach
  have aheadNum := ordered.num _ ahead aheadMem
  have behindNum := ordered.num _ behind behindMem
  rcases prior with better | ⟨samePrice, -⟩
  · unfold inReach at reach ⊢
    cases isBuy : side.isBuy <;> rw [isBuy] at reach better
    · have lower := (Double.lt_eq_true_iff behindNum aheadNum).mp better
      exact Double.le_trans_eq_true reach ((Double.le_eq_true_iff behindNum aheadNum).mpr lower.le)
    · have lower := (Double.lt_eq_true_iff aheadNum behindNum).mp better
      exact Double.le_trans_eq_true ((Double.le_eq_true_iff aheadNum behindNum).mpr lower.le) reach
  · unfold inReach at reach ⊢
    rw [samePrice]
    exact reach

end PriorityBook

/-- A call with a finite price, if it is one whose price matters. -/
def EngineOp.Priced : EngineOp → Prop
  | .submit _ _ _ type price _ => type = .market ∨ price.isFinite = true
  | _ => True

instance : (op : EngineOp) → Decidable op.Priced
  | .submit .. => inferInstanceAs (Decidable (_ ∨ _))
  | .cancel .. => .isTrue trivial
  | .reduce .. => .isTrue trivial

theorem EngineOp.Priced.nanFree {op : EngineOp} (priced : op.Priced) : op.NanFree := by
  cases op with
  | submit clock symbol side type price quantity =>
      exact priced.imp_right Double.ne_nan_of_isFinite
  | cancel symbol orderId => trivial
  | reduce symbol orderId newQuantity => trivial

namespace MatchingEngine

/-- All resting orders have finite prices. -/
def FinitePrices (engine : MatchingEngine) : Prop :=
  engine.AllResting fun order => order.price.isFinite = true

theorem FinitePrices.step {engine : MatchingEngine} (finite : engine.FinitePrices) {op : EngineOp}
    (priced : op.Priced) : (engine.step op).1.FinitePrices := by
  have stable {older order : Order} (terms : older.SameTerms order)
      (allowed : older.price.isFinite = true) : order.price.isFinite = true :=
    terms.price ▸ allowed
  cases op with
  | submit clock symbol side type price quantity =>
      refine finite.submitOrder stable clock symbol side type price quantity ?_
      intro _ rests
      exact priced.resolve_left fun market => rests (Or.inl market)
  | cancel symbol orderId => exact finite.cancelOrder symbol orderId
  | reduce symbol orderId newQuantity => exact finite.reduceOrder stable symbol orderId newQuantity

theorem finitePrices_run {ops : List EngineOp} (priced : ∀ op ∈ ops, op.Priced) :
    (Transition.run step .new ops).1.FinitePrices :=
  Transition.run_invariant FinitePrices (fun _ _ finite priced => finite.step priced)
    allResting_new (Transition.along_of_forall priced MatchingEngine.new)

theorem FinitePrices.of_mem_queue {engine : MatchingEngine} (finite : engine.FinitePrices)
    (symbol : Symbol) (buy : Bool) :
    ∀ order ∈ (engine.book symbol).queue buy, order.price.isFinite = true := by
  intro order member
  rw [OrderBook.queue_eq_map, List.mem_map] at member
  obtain ⟨ptr, node, rfl⟩ := member
  exact finite.of_node node

/-- The trades of an accepted submission are those of a sweep over the opposite
queue. -/
theorem trades_submitOrder {engine : MatchingEngine} (valid : engine.Valid) (clock : Clock)
    (symbol : Symbol) (side : Side) {type : OrderType} {price : Price} {quantity : Quantity}
    (numeric : (EngineOp.submit clock symbol side type price quantity).NanFree)
    (accepted : ¬rejects type price quantity = true) :
    (engine.submitOrder clock symbol side type price quantity).2.2 =
      ((engine.view symbol).matching clock side type (effectivePrice side type price)
        quantity).trades := by
  have outputEq := (step_refines valid numeric).2.2
  rw [PriorityExchange.step_submit_of_accepts _ _ _ _ accepted] at outputEq
  exact (EngineOutput.submitted.inj outputEq).2

/-- In every state that calls with finite prices lead to, a submission trades as well
as possible: what it takes from the opposite side is a plan within its effective
price and its quantity, no such plan trades more shares, and none that trades as many
is cheaper for it. -/
theorem best_execution {ops : List EngineOp} (priced : ∀ op ∈ ops, op.Priced) (clock : Clock)
    (symbol : Symbol) (side : Side) (type : OrderType) (price : Price) (quantity : Quantity)
    (numeric : (EngineOp.submit clock symbol side type price quantity).NanFree)
    (accepted : ¬rejects type price quantity = true) :
    let engine := (Transition.run step .new ops).1
    let queue := (engine.book symbol).queue (!side.isBuy)
    let trades := (engine.submitOrder clock symbol side type price quantity).2.2
    let taken := takenFrom side trades
    let isPlan := IsPlan side (effectivePrice side type price) quantity queue
    let cost := outlay (fun order : Order => unitCost side order.price)
    isPlan taken ∧ (queue.map taken).sum = volume trades ∧
      cost taken queue = tradedOutlay side trades ∧
      ∀ plan, isPlan plan → (queue.map plan).sum ≤ (queue.map taken).sum ∧
        ((queue.map plan).sum = (queue.map taken).sum → cost taken queue ≤ cost plan queue) := by
  intro engine queue trades taken isPlan cost
  have valid : engine.Valid := (run_refines valid_new fun op member => (priced op member).nanFree).1
  have ordered := (valid symbol).ordered
  have finite := (finitePrices_run priced).of_mem_queue symbol (!side.isBuy)
  let incoming := (engine.view symbol).incoming clock side type (effectivePrice side type price)
    quantity
  have tradesEq : trades = (sweep clock 2 incoming queue).trades :=
    trades_submitOrder valid clock symbol side numeric accepted
  have balance := sweep_incoming_balance clock 2 incoming queue
  have allocates := sweep_allocates clock 2 incoming queue (ordered.nodup_ids (!side.isBuy))
    (PriorityBook.sorted_inReach ordered side (effectivePrice side type price))
  rw [← tradesEq] at balance allocates
  have takenPlan : isPlan taken := by
    constructor
    · exact allocates.within
    · exact allocates.reached
    · have sharesEq := allocates.shares
      change (queue.map taken).sum = _ at sharesEq
      change _ = quantity.toNat at balance
      omega
  refine ⟨takenPlan, allocates.shares, allocates.outlayEq.symm, ?_⟩
  intro plan planned
  constructor
  · exact allocates.most balance planned
  · intro sameShares
    exact allocates.loaded.outlay_le
      (PriorityBook.sorted_unitCost ordered side finite) planned.within sameShares

/-- A seller of four shares meets bids for three at 101 and for three at 100. -/
theorem best_execution_two_bids :
    let bids : List EngineOp :=
      [.submit (fun _ => 0) [65] .buy .limit (.finite 100) 3,
        .submit (fun _ => 0) [65] .buy .limit (.finite 101) 3]
    let engine := (Transition.run step .new bids).1
    let queue := (engine.book [65]).queue true
    let trades := (engine.submitOrder (fun _ => 0) [65] .sell .ioc (.finite 99) 4).2.2
    tradedOutlay .sell trades = -403 ∧
      ∀ plan, IsPlan .sell (.finite 99) 4 queue plan →
        (queue.map plan).sum ≤ 4 ∧ ((queue.map plan).sum = 4 →
          -403 ≤ outlay (fun order : Order => unitCost .sell order.price) plan queue) := by
  intro bids engine queue trades
  have priced : ∀ op ∈ bids, op.Priced := by decide +kernel
  have numeric : (EngineOp.submit (fun _ => 0) [65] .sell .ioc (.finite 99) 4).NanFree :=
    Or.inr (by decide)
  obtain ⟨-, sharesEq, costEq, best⟩ :=
    best_execution priced (fun _ => 0) [65] .sell .ioc (.finite 99) 4 numeric (by decide)
  have shares : volume trades = 4 := by decide +kernel
  have earned : tradedOutlay .sell trades = -403 := by decide +kernel
  rw [shares] at sharesEq
  rw [earned] at costEq
  rw [sharesEq, costEq] at best
  exact ⟨earned, best⟩

end MatchingEngine

end OrderBookExchange
