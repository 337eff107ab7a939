import OrderBookExchange.ClientInterleaving
import OrderBookExchange.PositionLimits

/-!
# The exposure cap in the server wiring

The checker projects the notional of one order on the exposure booked so far.
The callback then books both legs of every trade.  The check skips market
orders, and an order that waits or rests is not part of the projection of the
next one.

A trade is booked at the price of the order that rested.  So it is enough to set
aside both legs of every order when it may come to rest: the cap holds in every
run in which each such order fits next to the exposure booked so far and to what
is set aside for the orders on the books.
-/

namespace OrderBookExchange

/-- Both legs of a share at a price, nothing if that is negative. -/
def bothLegs (price : Price) : ℚ :=
  2 * max 0 price.value

theorem bothLegs_nonneg (price : Price) : 0 ≤ bothLegs price :=
  mul_nonneg zero_le_two (le_max_left 0 _)

theorem value_le_bothLegs (price : Price) : 2 * price.value ≤ bothLegs price :=
  mul_le_mul_of_nonneg_left (le_max_right 0 _) zero_le_two

/-- Both legs of the given trades. -/
def tradedLegs (trades : List Trade) : ℚ :=
  (trades.map fun trade => bothLegs trade.price * trade.quantity.toNat).sum

theorem partyQty_cons (trade : Trade) (trades : List Trade) (buy : Bool) (id : Nat) :
    partyQty (trade :: trades) buy id =
      (if id = trade.party buy then trade.quantity.toNat else 0) + partyQty trades buy id := by
  simp [partyQty, eq_comm]

/-- Legs of trades gathered by the orders on one side, each with its own rate. -/
theorem tradedLegs_eq_sum {trades : List Trade} {buy : Bool} {rate : Nat → ℚ} {bound : Nat}
    (rated : ∀ trade ∈ trades, trade.party buy < bound ∧
      bothLegs trade.price = rate (trade.party buy)) :
    tradedLegs trades = ∑ id ∈ Finset.range bound, rate id * partyQty trades buy id := by
  induction trades with
  | nil => simp [tradedLegs, partyQty]
  | cons trade trades ih =>
      rw [List.forall_mem_cons] at rated
      obtain ⟨⟨below, rateEq⟩, rest⟩ := rated
      have first : ∑ id ∈ Finset.range bound,
          rate id * ((if id = trade.party buy then trade.quantity.toNat else 0 : ℕ) : ℚ) =
            bothLegs trade.price * trade.quantity.toNat := by
        rw [rateEq, Finset.sum_eq_single_of_mem _ (Finset.mem_range.mpr below), if_pos rfl]
        intro id _ other
        rw [if_neg other, Nat.cast_zero, mul_zero]
      have split : tradedLegs (trade :: trades) =
          bothLegs trade.price * trade.quantity.toNat + tradedLegs trades := rfl
      rw [split, ih rest, ← first, ← Finset.sum_add_distrib]
      apply Finset.sum_congr rfl
      intro id _
      rw [partyQty_cons, Nat.cast_add, mul_add]

namespace OrderBook

variable {book : OrderBook}

/-- Both legs of a share of an order on the book. -/
def legsAt (book : OrderBook) (id : Nat) : ℚ :=
  ((book.orderAt id).map fun order => bothLegs order.price).getD 0

/-- What is set aside for the orders on a book: both legs of all they have left. -/
def setAside (book : OrderBook) : ℚ :=
  ∑ id ∈ Finset.range book.nextOrderId, book.legsAt id * book.remainingOf id

theorem legsAt_nonneg (book : OrderBook) (id : Nat) : 0 ≤ book.legsAt id := by
  unfold legsAt
  cases book.orderAt id with
  | none => exact le_rfl
  | some order => exact bothLegs_nonneg order.price

theorem setAside_new (symbol : Symbol) (poolSize : Nat) : (new symbol poolSize).setAside = 0 := by
  simp [setAside, legsAt]

/-- The share of an order in what is set aside, read at its terms. -/
theorem legsAt_mul_remainingOf {next : OrderBook} {id : Nat} {legs : ℚ}
    (kept : ∀ order, next.orderAt id = some order → bothLegs order.price = legs) :
    next.legsAt id * next.remainingOf id = legs * next.remainingOf id := by
  unfold legsAt remainingOf
  cases found : next.orderAt id with
  | none => simp
  | some order => rw [Option.map_some, Option.getD_some, kept order found]

section Accept

variable (clock : Clock) (side : Side) (type : OrderType) (price : Price) (quantity : Quantity)
  (linked : book.Linked) (unfilled : book.Unfilled)
include linked unfilled

/-- Each older order gives up what is set aside for the shares it trades. -/
theorem setAside_older {id : Nat} (older : id < book.nextOrderId) :
    let result := book.acceptOrder clock side type price quantity
    result.1.legsAt id * result.1.remainingOf id +
        book.legsAt id * partyQty result.2.2 (!side.isBuy) id ≤
      book.legsAt id * book.remainingOf id := by
  intro result
  have other : id ≠ book.nextOrderId := older.ne
  have conserved : book.remainingOf id + _ = result.1.remainingOf id + tradedQty result.2.2 id + _ :=
    (acceptOrder_conserved clock side type price quantity linked unfilled).2.2.2 id
  rw [if_neg other, if_neg other] at conserved
  have traded := partyQty_le_tradedQty result.2.2 (!side.isBuy) id
  have sameLegs : ∀ order, result.1.orderAt id = some order →
      bothLegs order.price = book.legsAt id := by
    intro order found
    rcases acceptOrder_terms clock side type price quantity linked unfilled found with
      ⟨before, beforeFound, terms⟩ | ⟨terms, -⟩
    · rw [legsAt, beforeFound, Option.map_some, Option.getD_some, terms.price]
    · exact absurd (id_of_added linked unfilled found terms) other
  have shares : ((result.1.remainingOf id + partyQty result.2.2 (!side.isBuy) id : ℕ) : ℚ) ≤
      book.remainingOf id := by
    exact_mod_cast (by omega : result.1.remainingOf id + partyQty result.2.2 (!side.isBuy) id ≤
      book.remainingOf id)
  calc result.1.legsAt id * result.1.remainingOf id +
        book.legsAt id * partyQty result.2.2 (!side.isBuy) id
      = book.legsAt id *
          ((result.1.remainingOf id + partyQty result.2.2 (!side.isBuy) id : ℕ) : ℚ) := by
        rw [legsAt_mul_remainingOf sameLegs, Nat.cast_add, mul_add]
    _ ≤ book.legsAt id * book.remainingOf id :=
        mul_le_mul_of_nonneg_left shares (book.legsAt_nonneg id)

/-- What a new order needs set aside: nothing if it cannot rest. -/
theorem setAside_new_order :
    let result := book.acceptOrder clock side type price quantity
    result.1.legsAt book.nextOrderId * result.1.remainingOf book.nextOrderId ≤
      if type = .market ∨ type = .ioc then 0 else bothLegs price * quantity.toNat := by
  intro result
  have ownTerms : ∀ order, result.1.orderAt book.nextOrderId = some order →
      order.price = price ∧ ¬(type = .market ∨ type = .ioc) := by
    intro order found
    rcases acceptOrder_terms clock side type price quantity linked unfilled found with
      ⟨before, beforeFound, -⟩ | ⟨terms, rests⟩
    · exact absurd (linked.lt_of_orderAt beforeFound) (lt_irrefl _)
    · exact ⟨terms.price.symm, rests⟩
  split
  · next immediate =>
      have gone : result.1.orderAt book.nextOrderId = none :=
        Option.eq_none_iff_forall_ne_some.mpr
          fun order found => (ownTerms order found).2 immediate
      rw [remainingOf_of_none gone, Nat.cast_zero, mul_zero]
  · have conserved : _ = result.1.remainingOf book.nextOrderId + _ + _ :=
      (acceptOrder_conserved clock side type price quantity linked unfilled).2.2.2
        book.nextOrderId
    rw [remainingOf_of_none (linked.orderAt_none_of_le le_rfl), if_pos rfl] at conserved
    have shares : result.1.remainingOf book.nextOrderId ≤ quantity.toNat := by omega
    rw [legsAt_mul_remainingOf fun order found => by rw [(ownTerms order found).1]]
    exact mul_le_mul_of_nonneg_left (by exact_mod_cast shares) (bothLegs_nonneg price)

/-- Trades are paid out of what is set aside. -/
theorem setAside_acceptOrder :
    let result := book.acceptOrder clock side type price quantity
    result.1.setAside + tradedLegs result.2.2 ≤
      book.setAside +
        if type = .market ∨ type = .ioc then 0 else bothLegs price * quantity.toNat := by
  intro result
  have nextEq := (acceptOrder_conserved clock side type price quantity linked unfilled).2.2.1
  have legs : tradedLegs result.2.2 = ∑ id ∈ Finset.range book.nextOrderId,
      book.legsAt id * partyQty result.2.2 (!side.isBuy) id := by
    apply tradedLegs_eq_sum
    intro trade member
    obtain ⟨resting, found, -, below, -, priceEq, buyer, seller⟩ :=
      acceptOrder_trade_terms clock side type price quantity linked unfilled member
    have partyEq : trade.party (!side.isBuy) = resting.id := by
      unfold Trade.party
      rw [buyer, seller]
      cases side.isBuy <;> rfl
    rw [partyEq, legsAt, found, priceEq]
    exact ⟨below, rfl⟩
  have newOrder := setAside_new_order clock side type price quantity linked unfilled
  have olderOrders : ∑ id ∈ Finset.range book.nextOrderId,
      (result.1.legsAt id * result.1.remainingOf id +
        book.legsAt id * partyQty result.2.2 (!side.isBuy) id) ≤ book.setAside :=
    Finset.sum_le_sum fun id member =>
      setAside_older clock side type price quantity linked unfilled (Finset.mem_range.mp member)
  rw [Finset.sum_add_distrib, ← legs] at olderOrders
  dsimp only at newOrder
  rw [setAside, nextEq, Finset.sum_range_succ]
  linarith

theorem setAside_cancelOrder (id : Nat) : (book.cancelOrder id).1.setAside ≤ book.setAside := by
  obtain ⟨-, -, nextEq, -, orders⟩ := cancelOrder_conserved linked unfilled id
  rw [setAside, nextEq]
  apply Finset.sum_le_sum
  intro other _
  rw [legsAt, remainingOf, orders]
  split
  · simpa using mul_nonneg (book.legsAt_nonneg other) (Nat.cast_nonneg (book.remainingOf other))
  · exact le_rfl

end Accept

end OrderBook

namespace MatchingEngine

variable {engine next : MatchingEngine}

/-- What is set aside for the orders on all books. -/
def setAside (engine : MatchingEngine) : ℚ :=
  ∑ symbol ∈ engine.books.keys, (engine.book symbol).setAside

theorem setAside_nonneg (engine : MatchingEngine) : 0 ≤ engine.setAside :=
  Finset.sum_nonneg fun _ _ => Finset.sum_nonneg fun id _ =>
    mul_nonneg (OrderBook.legsAt_nonneg _ id) (Nat.cast_nonneg _)

theorem setAside_eq_sum (engine : MatchingEngine) {symbols : Finset Symbol}
    (covers : engine.books.keys ⊆ symbols) :
    engine.setAside = ∑ symbol ∈ symbols, (engine.book symbol).setAside := by
  apply Finset.sum_subset covers
  intro symbol _ unknown
  have absent : engine.books.lookup symbol = none :=
    Finmap.lookup_eq_none.mpr (mt Finmap.mem_keys.mpr unknown)
  rw [book, absent, Option.getD_none, OrderBook.setAside_new]

theorem setAside_replaced (symbol : Symbol)
    (others : ∀ other, other ≠ symbol → next.book other = engine.book other) :
    next.setAside + (engine.book symbol).setAside =
      engine.setAside + (next.book symbol).setAside := by
  have member : symbol ∈ insert symbol (engine.books.keys ∪ next.books.keys) :=
    Finset.mem_insert_self symbol _
  rw [next.setAside_eq_sum (Finset.subset_union_right.trans (Finset.subset_insert symbol _)),
    engine.setAside_eq_sum (Finset.subset_union_left.trans (Finset.subset_insert symbol _)),
    ← Finset.add_sum_erase _ _ member, ← Finset.add_sum_erase _ _ member]
  have same : ∑ other ∈ (insert symbol (engine.books.keys ∪ next.books.keys)).erase symbol,
        (next.book other).setAside =
      ∑ other ∈ (insert symbol (engine.books.keys ∪ next.books.keys)).erase symbol,
        (engine.book other).setAside := by
    apply Finset.sum_congr rfl
    intro other inErase
    rw [others other (Finset.ne_of_mem_erase inErase)]
  rw [same]
  ring

theorem setAside_submitOrder (linked : engine.Linked) (clock : Clock) (symbol : Symbol)
    (side : Side) (type : OrderType) (price : Price) (quantity : Quantity) :
    let result := engine.submitOrder clock symbol side type price quantity
    result.1.setAside + tradedLegs result.2.2 ≤ engine.setAside +
      if type = .market ∨ type = .ioc then 0 else bothLegs price * quantity.toNat := by
  intro result
  by_cases rejected : rejects type price quantity = true
  · have noTrades : result.2.2 = [] := by
      simp [result, submitOrder, rejected]
    have sameBooks (other : Symbol) : result.1.book other = engine.book other := by
      rw [book_submitOrder, if_neg (fun both => both.2 rejected)]
    have replaced := setAside_replaced symbol fun other _ => sameBooks other
    rw [sameBooks] at replaced
    have nonneg : (0 : ℚ) ≤
        if type = .market ∨ type = .ioc then 0 else bothLegs price * quantity.toNat := by
      split
      · exact le_rfl
      · exact mul_nonneg (bothLegs_nonneg price) (Nat.cast_nonneg _)
    rw [noTrades, tradedLegs, List.map_nil, List.sum_nil]
    linarith
  · have booksEq (other : Symbol) : result.1.book other = _ :=
      book_submitOrder_accepted engine clock symbol other side rejected
    have replaced := setAside_replaced symbol fun other different =>
      (booksEq other).trans (if_neg different)
    have accepted := OrderBook.setAside_acceptOrder clock side type
      (effectivePrice side type price) quantity (linked symbol).1 (linked symbol).2
    have tradesEq : result.2.2 = ((engine.book symbol).acceptOrder clock side type
        (effectivePrice side type price) quantity).2.2 := by
      rw [show result.2 = _ from submitOrder_result engine clock symbol side rejected]
    have limitEq : (if type = .market ∨ type = .ioc then 0
          else bothLegs (effectivePrice side type price) * quantity.toNat) =
        if type = .market ∨ type = .ioc then 0 else bothLegs price * quantity.toNat := by
      split
      · rfl
      · next rests => rw [effectivePrice, if_neg fun market => rests (Or.inl market)]
    dsimp only at accepted
    rw [(booksEq symbol).trans (if_pos rfl)] at replaced
    rw [← tradesEq, limitEq] at accepted
    linarith

theorem setAside_cancelOrder (linked : engine.Linked) (symbol : Symbol) (id : Nat) :
    (engine.cancelOrder symbol id).1.setAside ≤ engine.setAside := by
  have booksEq (other : Symbol) := (book_cancelOrder engine symbol other id).1
  have replaced := setAside_replaced symbol fun other different =>
    (booksEq other).trans (if_neg different)
  have less := OrderBook.setAside_cancelOrder (linked symbol).1 (linked symbol).2 id
  rw [(booksEq symbol).trans (if_pos rfl)] at replaced
  linarith

theorem AllResting.isFinite_of_trade
    (finite : engine.AllResting fun order => order.price.isFinite = true) (clock : Clock)
    (symbol : Symbol) (side : Side) (type : OrderType) (price : Price) (quantity : Quantity) :
    ∀ trade ∈ (engine.submitOrder clock symbol side type price quantity).2.2,
      trade.price.isFinite = true := by
  intro trade member
  by_cases rejected : rejects type price quantity = true
  · simp [MatchingEngine.submitOrder, rejected] at member
  · rw [submitOrder_result engine clock symbol side rejected] at member
    obtain ⟨resting, found, -, -, -, priceEq, -⟩ := OrderBook.acceptOrder_trade_terms clock side
      type _ quantity (finite.linked symbol).1 (finite.linked symbol).2 member
    rw [priceEq]
    exact finite.all symbol _ _ found

end MatchingEngine

/-- Trades at finite prices raise the exposure by at most both their legs. -/
theorem exposure_foldl_tradeCallback {risk : RiskChecker} {exposure : ℚ} {trades : List Trade}
    (booked : risk.notionalExposure = .finite exposure)
    (finite : ∀ trade ∈ trades, trade.price.isFinite = true) :
    ∃ later, (trades.foldl tradeCallback risk).notionalExposure = .finite later ∧
      later ≤ exposure + tradedLegs trades := by
  induction trades generalizing risk exposure with
  | nil => exact ⟨exposure, booked, by simp [tradedLegs]⟩
  | cons trade trades ih =>
      rw [List.forall_mem_cons] at finite
      have leg : orderNotional trade.price trade.quantity =
          .finite (trade.price.value * trade.quantity.toNat) := by
        rw [orderNotional, Double.eq_finite finite.1]
        rfl
      have bookedBoth : (tradeCallback risk trade).notionalExposure =
          .finite (exposure + trade.price.value * trade.quantity.toNat +
            trade.price.value * trade.quantity.toNat) := by
        change (risk.notionalExposure.add _).add _ = _
        rw [booked, leg]
        rfl
      obtain ⟨later, laterEq, bound⟩ := ih bookedBoth finite.2
      refine ⟨later, laterEq, ?_⟩
      have legs : 2 * trade.price.value * trade.quantity.toNat ≤
          bothLegs trade.price * trade.quantity.toNat :=
        mul_le_mul_of_nonneg_right (value_le_bothLegs trade.price) (Nat.cast_nonneg _)
      have split : tradedLegs (trade :: trades) =
          bothLegs trade.price * trade.quantity.toNat + tradedLegs trades := rfl
      rw [split]
      linarith

namespace ClientSystem

/-- The order a connection is about to submit cannot rest, or has a finite price and
both its legs fit under the cap, next to the exposure booked so far and to what is
set aside for the orders on the books. -/
def affordable (system : ClientSystem) : ClientAction → Bool
  | .receive _ _ => true
  | .submit client _ =>
      match system.waiting client, system.server.risk with
      | some msg, some risk =>
          msg.orderType == .market || msg.orderType == .ioc ||
            (msg.price.isFinite &&
              (risk.notionalExposure.add
                (.finite (system.server.engine.setAside +
                  bothLegs msg.price * msg.quantity.toNat))).le
                risk.limits.maxNotionalExposure)
      | _, _ => true

/-- The exposure is under the cap, together with what is set aside. -/
structure Capped (limits : RiskLimits) (system : ClientSystem) : Prop where
  finite : system.server.engine.AllResting fun order => order.price.isFinite = true
  capped : ∃ risk exposure, system.server.risk = some risk ∧ risk.limits = limits ∧
    risk.notionalExposure = .finite exposure ∧
    (Double.finite (exposure + system.server.engine.setAside)).le
      limits.maxNotionalExposure = true

variable {limits : RiskLimits} {system : ClientSystem}

theorem capped_new (capNonneg : (0 : Double).le limits.maxNotionalExposure = true) :
    Capped limits (new limits) := by
  have noBooks : (new limits).server.engine.setAside = 0 := rfl
  refine ⟨MatchingEngine.allResting_new, _, 0, rfl, rfl, rfl, ?_⟩
  rw [noBooks, add_zero]
  exact capNonneg

theorem le_cap_of_le {cap : Double} {smaller larger : ℚ} (atMost : smaller ≤ larger)
    (within : (Double.finite larger).le cap = true) : (Double.finite smaller).le cap = true := by
  refine Double.le_trans_eq_true ?_ within
  simpa [Double.le] using atMost

theorem Capped.receive (capped : Capped limits system) (client : Nat) (frame : Frame) :
    Capped limits (system.receive client frame).1 := by
  obtain ⟨finite, risk, exposure, gate, limitsEq, booked, within⟩ := capped
  cases frame with
  | newOrder body complete =>
      rw [ClientSystem.receive, TcpServer.checkOrder_of_some gate]
      split <;> exact ⟨finite, _, exposure, rfl, limitsEq, booked, within⟩
  | cancel body complete =>
      refine ⟨finite.cancelOrder _ _, risk, exposure, gate, limitsEq, booked, ?_⟩
      refine le_cap_of_le ?_ within
      exact add_le_add_right (MatchingEngine.setAside_cancelOrder finite.linked _ _) exposure
  | other tag unknown => exact ⟨finite, risk, exposure, gate, limitsEq, booked, within⟩

/-- A submission moves what its trades need from what is set aside to the exposure. -/
theorem Capped.submit (capped : Capped limits system) {client : Nat} {clock : Clock}
    (affords : system.affordable (.submit client clock) = true) :
    Capped limits (system.step (.submit client clock)).1 := by
  cases held : system.waiting client with
  | none =>
      have stepEq : (system.step (.submit client clock)).1 = system := by
        simp [step, held]
      rw [stepEq]
      exact capped
  | some msg =>
      obtain ⟨finite, risk, exposure, gate, limitsEq, booked, within⟩ := capped
      have stepEq : (system.step (.submit client clock)).1.server =
          (system.server.submit clock msg).1 := by
        simp [step, held]
      have aside := MatchingEngine.setAside_submitOrder finite.linked clock (getSymbol msg.symbol)
        msg.side msg.orderType msg.price msg.quantity
      obtain ⟨later, laterEq, bound⟩ := exposure_foldl_tradeCallback booked
        (finite.isFinite_of_trade clock (getSymbol msg.symbol) msg.side msg.orderType msg.price
          msg.quantity)
      simp only [affordable, held, gate, limitsEq, booked, Bool.or_eq_true, Bool.and_eq_true,
        beq_iff_eq] at affords
      refine ⟨?_, ?_⟩
      · rw [stepEq]
        refine finite.submitOrder (fun terms allowed => terms.price ▸ allowed) clock _ _ _ _ _ ?_
        intro _ rests
        exact (affords.resolve_left rests).1
      · rw [stepEq, TcpServer.submit, gate]
        refine ⟨_, later, rfl, (limits_foldl_tradeCallback _ _).trans limitsEq, laterEq, ?_⟩
        dsimp only at aside ⊢
        by_cases immediate : msg.orderType = .market ∨ msg.orderType = .ioc
        · rw [if_pos immediate] at aside
          refine le_cap_of_le ?_ within
          linarith
        · rw [if_neg immediate] at aside
          refine le_cap_of_le ?_ (affords.resolve_left immediate).2
          linarith

theorem Capped.step (capped : Capped limits system) {action : ClientAction}
    (affords : system.affordable action = true) : Capped limits (system.step action).1 := by
  cases action with
  | receive client frame =>
      rw [ClientSystem.step]
      split
      · exact capped
      · exact capped.receive client frame
  | submit client clock => exact capped.submit affords

/-- The exposure the checker reports, zero without one. -/
def notionalExposure (system : ClientSystem) : Double :=
  match system.server.risk with
  | none => 0
  | some risk => risk.notionalExposure

/-- The exposure cap holds in every state of a run in which each order that may rest
fits next to the exposure and to what is set aside. -/
theorem run_exposure_cap (capNonneg : (0 : Double).le limits.maxNotionalExposure = true)
    {actions : List ClientAction}
    (affords : Transition.Along step (fun system action => system.affordable action = true)
      (new limits) actions) :
    (Transition.run step (new limits) actions).1.notionalExposure.le
      limits.maxNotionalExposure = true := by
  have capped : Capped limits (Transition.run step (new limits) actions).1 :=
    Transition.run_invariant (Capped limits) (fun _ _ capped affords => capped.step affords)
      (capped_new capNonneg) affords
  obtain ⟨-, risk, exposure, gate, -, booked, within⟩ := capped
  rw [notionalExposure, gate]
  dsimp only
  rw [booked]
  refine le_cap_of_le ?_ within
  have nonneg : 0 ≤ (Transition.run step (new limits) actions).1.server.engine.setAside :=
    MatchingEngine.setAside_nonneg _
  linarith

/-- A limit order for a million shares of `"A"` at 9.875, on the side of the
given byte, checked and submitted without interruption. -/
def millionShares (side : UInt8) : List ClientAction :=
  [.receive 0 (.newOrder [65, 0, 0, 0, 0, 0, 0, 0, side, 0, 0, 0, 0, 0, 0, 192, 35, 64,
      64, 66, 15, 0] rfl),
    .submit 0 fun _ => 0]

/-- Three sells and three buys that pass the default limits one by one trade
9.875 million three times over, and both legs are booked. -/
theorem three_crosses_exceed_cap :
    ¬(Transition.run step (new {}) (List.replicate 3 (millionShares 1 ++
        millionShares 0)).flatten).1.notionalExposure.le
      ({} : RiskLimits).maxNotionalExposure = true := by
  decide +kernel

/-- One such pair stays under the cap. -/
theorem run_exposure_cap_one_cross :
    (Transition.run step (new {}) (millionShares 1 ++ millionShares 0)).1.notionalExposure =
        .finite 19750000 ∧
      (Transition.run step (new {}) (millionShares 1 ++
        millionShares 0)).1.notionalExposure.le ({} : RiskLimits).maxNotionalExposure = true := by
  refine ⟨by decide +kernel, run_exposure_cap (by decide +kernel) ?_⟩
  refine ⟨rfl, ?_, rfl, ?_, trivial⟩ <;> decide +kernel

end ClientSystem

end OrderBookExchange
