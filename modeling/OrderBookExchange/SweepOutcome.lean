import OrderBookExchange.MatchingRefinement

/-!
# What a sweep leaves behind

A sweep eats orders off the head of a queue.  What is left is a suffix of the
queue whose first order may have shrunk, and the sweep stops because the
incoming order is filled, because nothing is left, or because the next price
is out of reach.
-/

namespace OrderBookExchange

theorem minQuantity_toNat (first second : Quantity) :
    (minQuantity first second).toNat = min first.toNat second.toNat := by
  unfold minQuantity
  split
  · next less =>
      rw [UInt32.lt_iff_toNat_lt] at less
      omega
  · next notLess =>
      rw [UInt32.lt_iff_toNat_lt] at notLess
      omega

/-- The subtractions of a match never wrap: what it takes from either party is
the quantity of its trade. -/
theorem executeMatch_balance (incoming resting : Order) (now : Nat) :
    (executeMatch incoming resting now).incoming.remainingQty.toNat +
        (executeMatch incoming resting now).trade.quantity.toNat =
      incoming.remainingQty.toNat ∧
    (executeMatch incoming resting now).resting.remainingQty.toNat +
        (executeMatch incoming resting now).trade.quantity.toNat =
      resting.remainingQty.toNat := by
  have fill := minQuantity_toNat incoming.remainingQty resting.remainingQty
  have incomingEnough :
      minQuantity incoming.remainingQty resting.remainingQty ≤ incoming.remainingQty := by
    rw [UInt32.le_iff_toNat_le]
    omega
  have restingEnough :
      minQuantity incoming.remainingQty resting.remainingQty ≤ resting.remainingQty := by
    rw [UInt32.le_iff_toNat_le]
    omega
  simp only [executeMatch]
  rw [UInt32.toNat_sub_of_le _ _ incomingEnough, UInt32.toNat_sub_of_le _ _ restingEnough]
  omega

/-- An order that differs from an older state of it only by having less left,
though not by having lost everything. -/
structure ShrunkFrom (order older : Order) : Prop where
  same : order = { older with remainingQty := order.remainingQty }
  atMost : order.remainingQty.toNat ≤ older.remainingQty.toNat
  unfilled : older.remainingQty ≠ 0 → order.remainingQty ≠ 0

theorem ShrunkFrom.refl (order : Order) : ShrunkFrom order order where
  same := rfl
  atMost := le_rfl
  unfilled := id

theorem executeMatch_shrunk {incoming resting : Order} {now : Nat}
    (unfilled : ¬(executeMatch incoming resting now).resting.isFilled = true) :
    ShrunkFrom (executeMatch incoming resting now).resting resting where
  same := rfl
  atMost := by
    have balance := (executeMatch_balance incoming resting now).2
    omega
  unfilled := by
    intro _ filled
    exact unfilled (Order.isFilled_eq_true.mpr filled)

section Sweep

variable (clock : Clock)

/-- What is left of a queue is one of its suffixes with a shrunk head. -/
theorem sweep_queue (count : Nat) (incoming : Order) (queue : List Order) :
    (sweep clock count incoming queue).queue = [] ∨
      ∃ older tail head, older :: tail <:+ queue ∧ ShrunkFrom head older ∧
        (sweep clock count incoming queue).queue = head :: tail := by
  induction queue generalizing count incoming with
  | nil => exact Or.inl rfl
  | cons resting rest ih =>
      unfold sweep
      split
      · exact Or.inr ⟨resting, rest, resting, List.suffix_rfl, .refl resting, rfl⟩
      · split
        · dsimp only
          split
          · rcases ih (count + 1) (executeMatch incoming resting (clock count)).incoming with
              empty | ⟨older, tail, head, suffix, shrunk, shape⟩
            · exact Or.inl empty
            · exact Or.inr ⟨older, tail, head, suffix.trans (List.suffix_cons _ _), shrunk, shape⟩
          · next unfilled =>
              exact Or.inr ⟨resting, rest, _, List.suffix_rfl, executeMatch_shrunk unfilled, rfl⟩
        · exact Or.inr ⟨resting, rest, resting, List.suffix_rfl, .refl resting, rfl⟩

theorem sweep_queue_shrunk {count : Nat} {incoming : Order} {queue : List Order}
    {order : Order} (member : order ∈ (sweep clock count incoming queue).queue) :
    ∃ older ∈ queue, ShrunkFrom order older := by
  rcases sweep_queue clock count incoming queue with
    empty | ⟨older, tail, head, suffix, shrunk, shape⟩
  · rw [empty] at member
    simp at member
  · rw [shape, List.mem_cons] at member
    rcases member with rfl | inTail
    · exact ⟨older, suffix.mem (by simp), shrunk⟩
    · exact ⟨order, suffix.mem (by simp [inTail]), .refl order⟩

/-- A relation between prices and identifiers that orders the queue still
orders what is left of it. -/
theorem sweep_queue_prior {buy : Bool} {count : Nat} {incoming : Order}
    {queue : List Order} (prior : queue.Pairwise (Prior buy)) :
    (sweep clock count incoming queue).queue.Pairwise (Prior buy) := by
  rcases sweep_queue clock count incoming queue with
    empty | ⟨older, tail, head, suffix, shrunk, shape⟩
  · rw [empty]
    exact List.Pairwise.nil
  · have suffixPrior := prior.sublist suffix.sublist
    rw [List.pairwise_cons] at suffixPrior
    rw [shape, List.pairwise_cons]
    refine ⟨?_, suffixPrior.2⟩
    intro later inTail
    have olderPrior := suffixPrior.1 later inTail
    rw [shrunk.same]
    exact olderPrior

theorem sweep_stops (count : Nat) (incoming : Order) (queue : List Order) :
    (sweep clock count incoming queue).incoming.remainingQty = 0 ∨
      (sweep clock count incoming queue).queue = [] ∨
      ∃ head tail, (sweep clock count incoming queue).queue = head :: tail ∧
        priceMatch incoming head = false := by
  induction queue generalizing count incoming with
  | nil => exact Or.inr (Or.inl rfl)
  | cons resting rest ih =>
      unfold sweep
      split
      · next filled => exact Or.inl filled
      · split
        · dsimp only
          split
          · exact ih (count + 1) (executeMatch incoming resting (clock count)).incoming
          · next stays => exact Or.inl (executeMatch_fills stays)
        · next outOfReach =>
            exact Or.inr (Or.inr ⟨resting, rest, rfl, Bool.eq_false_of_not_eq_true outOfReach⟩)

theorem sweep_incoming_balance (count : Nat) (incoming : Order) (queue : List Order) :
    (sweep clock count incoming queue).incoming.remainingQty.toNat +
        ((sweep clock count incoming queue).trades.map fun trade =>
          trade.quantity.toNat).sum =
      incoming.remainingQty.toNat := by
  induction queue generalizing count incoming with
  | nil => simp [sweep]
  | cons resting rest ih =>
      have balance := (executeMatch_balance incoming resting (clock count)).1
      unfold sweep
      split
      · simp
      · split
        · dsimp only
          split
          · have later := ih (count + 1) (executeMatch incoming resting (clock count)).incoming
            simp only [List.map_cons, List.sum_cons]
            omega
          · simpa using balance
        · simp

end Sweep

namespace PriorityBook

/-- The parts of a priority book that make its queues priority queues. -/
structure Ordered (book : PriorityBook) : Prop where
  prior : ∀ buy, (book.queue buy).Pairwise (Prior buy)
  side : ∀ buy, ∀ order ∈ book.queue buy, order.side.isBuy = buy
  num : ∀ buy, ∀ order ∈ book.queue buy, order.price ≠ .nan
  bounds : ∀ buy, ∀ order ∈ book.queue buy, 1 ≤ order.id ∧ order.id < book.nextOrderId
  unique : ∀ firstBuy secondBuy, ∀ first ∈ book.queue firstBuy,
    ∀ second ∈ book.queue secondBuy, first.id = second.id → first = second

theorem mem_of_find? {book : PriorityBook} {id : Nat} {order : Order}
    (found : book.find? id = some order) :
    order.id = id ∧ ∃ buy, order ∈ book.queue buy := by
  have idEq := List.find?_some found
  have member := List.mem_of_find?_eq_some found
  refine ⟨of_decide_eq_true idEq, ?_⟩
  rcases List.mem_append.mp member with bid | ask
  · exact ⟨true, bid⟩
  · exact ⟨false, ask⟩

end PriorityBook

theorem OrderBook.Valid.ordered {book : OrderBook} (valid : book.Valid) :
    book.view.Ordered where
  prior := valid.queue_prior
  side := fun _ _ member => valid.side_of_mem_queue member
  num := fun _ _ member => valid.price_num_of_mem_queue member
  bounds := fun _ _ member => valid.id_bounds_of_mem_queue member
  unique := fun _ _ _ firstMem _ secondMem same => valid.eq_of_id_eq firstMem secondMem same

end OrderBookExchange
