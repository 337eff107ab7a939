import OrderBookExchange.BookRepresentation
import OrderBookExchange.ExchangeRefinement
import OrderBookExchange.SweepOutcome

/-!
# Clean books

While an order is being matched the book may be crossed and may hold filled
orders.  Between calls it is clean: only limit orders rest, at positive finite
prices, with something left to fill, and the two sides do not cross.  Every
call of the engine re-establishes this, for every way in which the matching
loop can stop.
-/

namespace OrderBookExchange

/-- What may rest on a book. -/
structure Order.Clean (order : Order) : Prop where
  limit : order.type = .limit
  positive : 0 < order.price
  finite : order.price.isFinite = true
  unfilled : order.remainingQty ≠ 0
  atMost : order.remainingQty.toNat ≤ order.quantity.toNat

theorem Order.Clean.shrunk {order older : Order} (clean : older.Clean)
    (shrunk : ShrunkFrom order older) : order.Clean where
  limit := by
    rw [shrunk.same]
    exact clean.limit
  positive := by
    rw [shrunk.same]
    exact clean.positive
  finite := by
    rw [shrunk.same]
    exact clean.finite
  unfilled := shrunk.unfilled clean.unfilled
  atMost := by
    have quantityEq : order.quantity = older.quantity := by rw [shrunk.same]
    rw [quantityEq]
    exact shrunk.atMost.trans clean.atMost

/-- The incoming price fails to reach a resting price exactly when the resting
side ranks it ahead of that price. -/
theorem priceMatch_eq (incoming resting : Order) (incomingNum : incoming.price ≠ .nan)
    (restingNum : resting.price ≠ .nan) :
    priceMatch incoming resting =
      !better (!incoming.side.isBuy) incoming.price resting.price := by
  rw [Bool.eq_iff_iff]
  cases buy : incoming.side.isBuy
  · simp only [priceMatch, buy, Bool.not_false, better, Bool.not_eq_true',
      Bool.false_eq_true, if_false]
    rw [Double.le_eq_true_iff incomingNum restingNum, Double.lt_eq_false_iff restingNum incomingNum]
  · simp only [priceMatch, buy, Bool.not_true, better, Bool.not_eq_true', if_true]
    rw [Double.le_eq_true_iff restingNum incomingNum, Double.lt_eq_false_iff incomingNum restingNum]

namespace PriorityBook

/-- The order of prices across the two sides is the priority of the opposite
side: every own price comes before every opposite one. -/
structure Clean (book : PriorityBook) : Prop where
  orders : ∀ buy, ∀ order ∈ book.queue buy, order.Clean
  uncrossed : ∀ buy, ∀ own ∈ book.queue buy, ∀ opposite ∈ book.queue (!buy),
    better (!buy) own.price opposite.price = true

/-- The two sides do not cross, whatever else is wrong with the book. -/
def Uncrossed (book : PriorityBook) : Prop :=
  ∀ buy, ∀ own ∈ book.queue buy, ∀ opposite ∈ book.queue (!buy),
    better (!buy) own.price opposite.price = true

theorem uncrossed_of_side {book : PriorityBook} (side : Bool)
    (apart : ∀ own ∈ book.queue side, ∀ opposite ∈ book.queue (!side),
      better (!side) own.price opposite.price = true) : book.Uncrossed := by
  intro buy own ownMem opposite oppositeMem
  by_cases same : buy = side
  · subst same
    exact apart own ownMem opposite oppositeMem
  · obtain rfl := Bool.eq_not_of_ne same
    rw [Bool.not_not] at oppositeMem ⊢
    have flipped := apart opposite oppositeMem own ownMem
    cases side <;> simpa [better] using flipped

theorem Uncrossed.shrunk {book next : PriorityBook} (uncrossed : book.Uncrossed)
    (shrunk : ∀ buy, ∀ order ∈ next.queue buy, ∃ older ∈ book.queue buy,
      ShrunkFrom order older) : next.Uncrossed := by
  intro buy own ownMem opposite oppositeMem
  obtain ⟨olderOwn, olderOwnMem, ownFrom⟩ := shrunk buy own ownMem
  obtain ⟨olderOpposite, olderOppositeMem, oppositeFrom⟩ := shrunk (!buy) opposite oppositeMem
  rw [ownFrom.same, oppositeFrom.same]
  exact uncrossed buy olderOwn olderOwnMem olderOpposite olderOppositeMem

theorem clean_empty : empty.Clean where
  orders := by
    intro buy order member
    simp [empty] at member
  uncrossed := by
    intro buy own ownMem
    simp [empty] at ownMem

/-- A book whose orders all shrank from orders of a clean one is clean. -/
theorem Clean.shrunk {book next : PriorityBook} (clean : book.Clean)
    (shrunk : ∀ buy, ∀ order ∈ next.queue buy, ∃ older ∈ book.queue buy,
      ShrunkFrom order older) : next.Clean where
  orders := by
    intro buy order member
    obtain ⟨older, olderMem, from_⟩ := shrunk buy order member
    exact (clean.orders buy older olderMem).shrunk from_
  uncrossed := Uncrossed.shrunk clean.uncrossed shrunk

variable {book : PriorityBook}

theorem shrunk_drop (book : PriorityBook) (id : Nat) :
    ∀ buy, ∀ order ∈ (book.drop id).queue buy, ∃ older ∈ book.queue buy,
      ShrunkFrom order older := by
  intro buy order member
  exact ⟨order, (mem_dropOrder.mp member).1, .refl order⟩

theorem shrunk_cancelOrder (book : PriorityBook) (id : Nat) :
    ∀ buy, ∀ order ∈ (book.cancelOrder id).1.queue buy, ∃ older ∈ book.queue buy,
      ShrunkFrom order older := by
  unfold PriorityBook.cancelOrder
  split
  · exact fun _ order member => ⟨order, member, .refl order⟩
  · exact shrunk_drop book id

theorem shrunk_reduceOrder (ordered : book.Ordered) (id : Nat) (newQuantity : Quantity) :
    ∀ buy, ∀ order ∈ (book.reduceOrder id newQuantity).1.queue buy, ∃ older ∈ book.queue buy,
      ShrunkFrom order older := by
  unfold PriorityBook.reduceOrder
  split
  · exact fun _ order member => ⟨order, member, .refl order⟩
  · next order found =>
      obtain ⟨-, orderBuy, orderMem⟩ := mem_of_find? found
      split
      · exact fun _ order member => ⟨order, member, .refl order⟩
      · next smaller =>
          split
          · exact shrunk_drop book id
          · next nonzero =>
              intro buy updated member
              obtain ⟨other, otherMem, rfl⟩ := List.mem_map.mp member
              refine ⟨other, otherMem, ?_⟩
              split
              · next same =>
                  -- identifiers are unique, so the rewritten order is the one found
                  have otherEq := ordered.unique _ _ other otherMem order orderMem same
                  subst otherEq
                  refine ⟨rfl, ?_, fun _ => nonzero⟩
                  rw [UInt32.le_iff_toNat_le] at smaller
                  exact le_of_lt (not_le.mp smaller)
              · exact .refl other

theorem Clean.cancelOrder (clean : book.Clean) (id : Nat) :
    (book.cancelOrder id).1.Clean :=
  clean.shrunk (shrunk_cancelOrder book id)

theorem Clean.reduceOrder (clean : book.Clean) (ordered : book.Ordered) (id : Nat)
    (newQuantity : Quantity) : (book.reduceOrder id newQuantity).1.Clean :=
  clean.shrunk (shrunk_reduceOrder ordered id newQuantity)

section Accept

variable {clock : Clock} {side : Side} {type : OrderType} {price : Price}
  {quantity : Quantity}

/-- The remainder of an accepted order, as it would rest. -/
def remainder (book : PriorityBook) (clock : Clock) (side : Side) (type : OrderType)
    (price : Price) (quantity : Quantity) : Order :=
  { (book.matching clock side type price quantity).incoming with
    status := OrderBook.matchedStatus (book.matching clock side type price quantity).incoming }

theorem matching_incoming (book : PriorityBook) (clock : Clock) (side : Side)
    (type : OrderType) (price : Price) (quantity : Quantity) :
    (book.matching clock side type price quantity).incoming =
      { book.incoming clock side type price quantity with
        remainingQty :=
          (book.matching clock side type price quantity).incoming.remainingQty } :=
  sweep_incoming clock 2 _ _

/-- An order on the book after a submission was there before, with at least as
much left, or is the remainder of the submitted order. -/
theorem mem_queue_acceptOrder {buy : Bool} {order : Order}
    (member : order ∈ (book.acceptOrder clock side type price quantity).1.queue buy) :
    (buy = side.isBuy ∧ order = book.remainder clock side type price quantity ∧
        rests type (book.matching clock side type price quantity).incoming = true) ∨
      (buy = side.isBuy ∧ order ∈ book.queue buy) ∨
      (buy = !side.isBuy ∧ order ∈ (book.matching clock side type price quantity).queue) := by
  simp only [acceptOrder] at member
  by_cases own : buy = side.isBuy
  · rw [if_pos own] at member
    split at member
    · next resting =>
        rcases mem_insertOrder.mp member with rfl | old
        · exact Or.inl ⟨own, rfl, resting⟩
        · exact Or.inr (Or.inl ⟨own, old⟩)
    · exact Or.inr (Or.inl ⟨own, member⟩)
  · rw [if_neg own] at member
    exact Or.inr (Or.inr ⟨(Bool.eq_not_of_ne own), member⟩)

theorem remainder_clean (declared : type.Declared) (finite : price.isFinite = true)
    (accepted : ¬rejects type price quantity = true)
    (resting : rests type (book.matching clock side type
      (effectivePrice side type price) quantity).incoming = true) :
    (book.remainder clock side type (effectivePrice side type price) quantity).Clean ∧
      type = .limit := by
  have balance := sweep_incoming_balance clock 2
    (book.incoming clock side type (effectivePrice side type price) quantity)
    (book.queue (!side.isBuy))
  have incomingEq := matching_incoming book clock side type
    (effectivePrice side type price) quantity
  simp only [rests, Bool.and_eq_true, Bool.not_eq_true', Bool.or_eq_false_iff,
    beq_eq_false_iff_ne] at resting
  obtain ⟨unfilled, notMarket, notIoc⟩ := resting
  have isLimit : type = .limit := by
    rcases declared with limit | market | ioc
    · exact limit
    · exact absurd market notMarket
    · exact absurd ioc notIoc
  subst isLimit
  have positive : (0 : Price) < price := by
    have priceNum := Double.ne_nan_of_isFinite finite
    simp only [rejects, Bool.or_eq_true, Bool.and_eq_true, beq_iff_eq, true_and,
      not_or] at accepted
    rw [Double.le_eq_true_iff priceNum (by simp), not_le] at accepted
    exact accepted.2
  refine ⟨⟨?_, ?_, ?_, ?_, ?_⟩, rfl⟩
  · rw [remainder, incomingEq]
    rfl
  · rw [remainder, incomingEq]
    exact positive
  · rw [remainder, incomingEq]
    exact finite
  · intro filled
    rw [Order.isFilled, beq_eq_false_iff_ne] at unfilled
    exact unfilled filled
  · have quantityEq : (book.remainder clock side .limit
        (effectivePrice side .limit price) quantity).quantity = quantity := by
      rw [remainder, incomingEq]
      rfl
    rw [quantityEq]
    exact Nat.le.intro balance

theorem remainder_uncrossed (ordered : book.Ordered) (priceNum : price ≠ .nan)
    (unfilled : (book.matching clock side type price quantity).incoming.remainingQty ≠ 0)
    {opposite : Order}
    (member : opposite ∈ (book.matching clock side type price quantity).queue) :
    better (!side.isBuy) price opposite.price = true := by
  have prior : (book.matching clock side type price quantity).queue.Pairwise
      (Prior (!side.isBuy)) := sweep_queue_prior clock (ordered.prior (!side.isBuy))
  have num : ∀ order ∈ (book.matching clock side type price quantity).queue,
      order.price ≠ .nan := by
    intro order orderMem
    obtain ⟨older, olderMem, shrunk⟩ := sweep_queue_shrunk clock orderMem
    rw [shrunk.same]
    exact ordered.num (!side.isBuy) older olderMem
  rcases sweep_stops clock 2 (book.incoming clock side type price quantity)
      (book.queue (!side.isBuy)) with filled | empty | ⟨head, tail, shape, outOfReach⟩
  · exact absurd filled unfilled
  · rw [matching, empty] at member
    simp at member
  · rw [matching, shape] at member prior num
    have headNum := num head (by simp)
    rw [priceMatch_eq _ _ priceNum headNum, Bool.not_eq_false'] at outOfReach
    rcases List.mem_cons.mp member with rfl | inTail
    · exact outOfReach
    · -- the queue only gets worse behind its head
      rw [List.pairwise_cons] at prior
      rcases prior.1 opposite inTail with worse | ⟨same, -⟩
      · exact (better_strictOn (!side.isBuy)).trans priceNum headNum
          (num opposite (by simp [inTail])) outOfReach worse
      · rw [← same]
        exact outOfReach

/-- A submission does not cross a book, whatever becomes of its remainder. -/
theorem Uncrossed.acceptOrder (uncrossed : book.Uncrossed) (ordered : book.Ordered)
    (priceNum : price ≠ .nan) :
    (book.acceptOrder clock side type price quantity).1.Uncrossed := by
  apply uncrossed_of_side side.isBuy
  intro own ownMem opposite oppositeMem
  have swept : opposite ∈ (book.matching clock side type price quantity).queue := by
    simpa [PriorityBook.acceptOrder] using oppositeMem
  rcases mem_queue_acceptOrder ownMem with ⟨-, rfl, resting⟩ | ⟨-, old⟩ | ⟨flipped, -⟩
  · have remainderPrice : (book.remainder clock side type price quantity).price = price := by
      rw [remainder, matching_incoming]
      rfl
    simp only [rests, Order.isFilled, Bool.and_eq_true, Bool.not_eq_true',
      beq_eq_false_iff_ne] at resting
    rw [remainderPrice]
    exact remainder_uncrossed ordered priceNum resting.1 swept
  · obtain ⟨older, olderMem, shrunk⟩ := sweep_queue_shrunk clock swept
    rw [shrunk.same]
    exact uncrossed side.isBuy own old older olderMem
  · simp at flipped

theorem Clean.acceptOrder (clean : book.Clean) (ordered : book.Ordered)
    (declared : type.Declared) (finite : price.isFinite = true)
    (accepted : ¬rejects type price quantity = true) :
    (book.acceptOrder clock side type (effectivePrice side type price) quantity).1.Clean where
  orders := by
    intro buy order member
    rcases mem_queue_acceptOrder member with ⟨-, rfl, resting⟩ | ⟨-, old⟩ | ⟨flipped, swept⟩
    · exact (remainder_clean declared finite accepted resting).1
    · exact clean.orders buy order old
    · obtain ⟨older, olderMem, shrunk⟩ := sweep_queue_shrunk clock swept
      exact (clean.orders _ older olderMem).shrunk shrunk
  uncrossed := Uncrossed.acceptOrder clean.uncrossed ordered
    (effectivePrice_num side (Or.inr (Double.ne_nan_of_isFinite finite)))

end Accept

end PriorityBook

end OrderBookExchange
