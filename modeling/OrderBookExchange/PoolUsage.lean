import OrderBookExchange.OrderFate

/-!
# How many slots a book uses

A call takes at most one slot from the pool, when it adds its order, and from
then on rewrites orders and releases the slots of orders that the index forgets.
Every slot is therefore free or belongs to an indexed order, and the pool grows
exactly when more orders are on the book at once than ever before.
-/

namespace OrderBookExchange

namespace OrderBook

/-- What is done to a book without adding an order: orders are rewritten, and
indexed orders are unlinked and released. -/
inductive Settles (book : OrderBook) : OrderBook → Prop
  | refl : Settles book book
  | store {next : OrderBook} (settles : Settles book next) (ptr : Nat) (order : Order) :
      Settles book (next.store ptr order)
  | unlink {next : OrderBook} (settles : Settles book next) {id : Nat}
      {location : OrderLocation} (found : next.orderLookup.lookup id = some location)
      (ptr : Nat) : Settles book (next.unlink id location ptr)

namespace Settles

variable {book next last : OrderBook}

theorem trans (first : Settles book next) (second : Settles next last) : Settles book last := by
  induction second with
  | refl => exact first
  | store _ ptr order ih => exact ih.store ptr order
  | unlink _ found ptr ih => exact ih.unlink found ptr

theorem removeOrder (settles : Settles book next) (ptr : Nat) :
    Settles book (next.removeOrder ptr) := by
  unfold OrderBook.removeOrder
  dsimp only
  cases found : next.orderLookup.lookup (next.load ptr).id with
  | none => exact settles
  | some location => exact settles.unlink found ptr

theorem cancelOrder (id : Nat) : Settles book (book.cancelOrder id).1 := by
  unfold OrderBook.cancelOrder
  cases found : book.orderLookup.lookup id with
  | none => exact .refl
  | some location => exact (refl.store _ _).unlink found _

theorem reduceOrder (id : Nat) (newQuantity : Quantity) :
    Settles book (book.reduceOrder id newQuantity).1 := by
  unfold OrderBook.reduceOrder
  cases book.orderLookup.lookup id with
  | none => exact .refl
  | some location =>
      dsimp only
      split
      · exact .refl
      · split
        · exact cancelOrder id
        · exact refl.store _ _

theorem afterMatch (incoming resting now : Nat) :
    Settles book (book.afterMatch incoming resting now) := by
  unfold OrderBook.afterMatch
  dsimp only
  split
  · exact (((refl.store _ _).store _ _).store _ _).removeOrder resting
  · exact (refl.store _ _).store _ _

theorem matchLoop (clock : Clock) (incoming fuel : Nat) (trades : List Trade) :
    Settles book (OrderBook.matchLoop clock incoming fuel book trades).1 := by
  induction fuel generalizing book trades with
  | zero => exact .refl
  | succ fuel ih =>
      rw [matchLoop_succ]
      cases book.nextMatch incoming with
      | none => exact .refl
      | some resting => exact (afterMatch incoming resting _).trans (ih _)

theorem matchOrder (clock : Clock) (incoming : Nat) :
    Settles book (book.matchOrder clock incoming).1 :=
  (matchLoop clock incoming _ []).store _ _

theorem postMatch (incoming : Nat) (type : OrderType) :
    Settles book (book.postMatch incoming type) := by
  unfold OrderBook.postMatch
  dsimp only
  split
  · exact refl.removeOrder incoming
  · split
    · exact (refl.store _ _).removeOrder incoming
    · exact .refl

theorem acceptOrder (clock : Clock) (side : Side) (type : OrderType) (price : Price)
    (quantity : Quantity) :
    Settles (book.addOrder side type price quantity (clock 1)).1
      (book.acceptOrder clock side type price quantity).1 :=
  (matchOrder clock _).trans (postMatch _ type)

end Settles

/-! ### Counting slots -/

/-- Every slot is free or belongs to an indexed order. -/
def Counted (book : OrderBook) : Prop :=
  book.orderPool.freeList.length + book.orderCount = book.orderPool.capacity

variable {book next : OrderBook}

theorem counted_new (symbol : Symbol) (poolSize : Nat) : (new symbol poolSize).Counted := by
  have free : (ObjectPool.initialFreeList poolSize).length = poolSize := by
    induction poolSize with
    | zero => rfl
    | succ size ih => rw [ObjectPool.initialFreeList, List.length_cons, ih]
  exact free

theorem Counted.activeCount (counted : book.Counted) :
    book.orderPool.activeCount = book.orderCount := by
  rw [Counted] at counted
  rw [ObjectPool.activeCount]
  omega

theorem orderCount_unlink {id : Nat} {location : OrderLocation}
    (found : book.orderLookup.lookup id = some location) (ptr : Nat) :
    (book.unlink id location ptr).orderCount + 1 = book.orderCount := by
  have indexed : id ∈ book.orderLookup.keys :=
    Finmap.mem_keys.mpr (Finmap.mem_of_lookup_eq_some found)
  rw [orderCount, orderLookup_unlink, Finmap.keys_erase]
  exact Finset.card_erase_add_one indexed

theorem Settles.capacity (settles : Settles book next) :
    next.orderPool.capacity = book.orderPool.capacity := by
  induction settles with
  | refl => rfl
  | store _ ptr order ih => exact ih
  | unlink _ found ptr ih =>
      rw [orderPool_unlink]
      exact ih

theorem Settles.counted (settles : Settles book next) (counted : book.Counted) :
    next.Counted := by
  induction settles with
  | refl => exact counted
  | store _ ptr order ih => exact ih
  | unlink _ found ptr ih =>
      have fewer := orderCount_unlink found ptr
      rw [Counted] at ih ⊢
      rw [orderPool_unlink, ObjectPool.release]
      dsimp only
      rw [List.length_cons]
      omega

section Add

variable (side : Side) (type : OrderType) (price : Price) (quantity : Quantity) (now : Nat)

theorem orderCount_addOrder (linked : book.Linked) :
    (book.addOrder side type price quantity now).1.orderCount = book.orderCount + 1 := by
  have unissued : book.nextOrderId ∉ book.orderLookup.keys := by
    rw [Finmap.mem_keys, ← Finmap.lookup_eq_none]
    cases found : book.orderLookup.lookup book.nextOrderId with
    | none => rfl
    | some location => exact absurd (linked.below _ location found) (lt_irrefl _)
  have keysEq : (book.addOrder side type price quantity now).1.orderLookup.keys =
      insert book.nextOrderId book.orderLookup.keys := by
    ext id
    rw [orderLookup_addOrder, Finmap.mem_keys, Finmap.mem_insert, Finset.mem_insert,
      Finmap.mem_keys]
  rw [orderCount, keysEq, Finset.card_insert_of_notMem unissued, orderCount]

/-- The pool grows if and only if all its slots are taken. -/
theorem Counted.addOrder (counted : book.Counted) (linked : book.Linked) :
    (book.addOrder side type price quantity now).1.Counted ∧
      (book.addOrder side type price quantity now).1.orderPool.capacity =
        max book.orderPool.capacity (book.orderCount + 1) := by
  have more := orderCount_addOrder side type price quantity now linked
  have poolEq : (book.addOrder side type price quantity now).1.orderPool =
      book.orderPool.acquire.2.store book.orderPool.acquire.1
        (book.addedOrder side type price quantity now) := rfl
  rw [Counted] at counted ⊢
  rw [poolEq, more, ObjectPool.store, ObjectPool.acquire]
  cases free : book.orderPool.freeList with
  | nil =>
      rw [free, List.length_nil] at counted
      dsimp only
      rw [List.length_nil]
      omega
  | cons ptr rest =>
      rw [free, List.length_cons] at counted
      dsimp only
      omega

end Add

/-! ### The largest number of slots in use -/

/-- The most slots in use at any time during a call.  An accepted order takes
its slot before the call releases any. -/
def usedDuring (book : OrderBook) : EngineOp → Nat
  | .submit clock _ side type price quantity =>
      if rejects type price quantity then book.orderPool.activeCount
      else (book.addOrder side type (effectivePrice side type price) quantity
        (clock 1)).1.orderPool.activeCount
  | _ => book.orderPool.activeCount

/-- The most slots in use at any time during a run. -/
def peakUse : OrderBook → List EngineOp → Nat
  | book, [] => book.orderPool.activeCount
  | book, op :: ops => max (book.usedDuring op) (peakUse (book.step op).1 ops)

theorem Counted.step (counted : book.Counted) (linked : book.Linked) (op : EngineOp) :
    (book.step op).1.Counted ∧
      (book.step op).1.orderPool.capacity =
        max book.orderPool.capacity (book.usedDuring op) := by
  have inUse : book.orderPool.activeCount ≤ book.orderPool.capacity := Nat.sub_le _ _
  have unchanged {next : OrderBook} (settles : Settles book next) :
      next.Counted ∧ next.orderPool.capacity =
        max book.orderPool.capacity book.orderPool.activeCount :=
    ⟨settles.counted counted, by rw [settles.capacity, Nat.max_eq_left inUse]⟩
  cases op with
  | submit clock symbol side type price quantity =>
      by_cases rejected : rejects type price quantity = true
      · rw [step_submit_of_rejects book clock symbol side rejected, usedDuring, if_pos rejected]
        exact unchanged .refl
      · obtain ⟨addedCounted, grown⟩ := counted.addOrder side type
          (effectivePrice side type price) quantity (clock 1) linked
        have settles : Settles
            (book.addOrder side type (effectivePrice side type price) quantity (clock 1)).1
            (book.acceptOrder clock side type (effectivePrice side type price) quantity).1 :=
          .acceptOrder clock side type _ quantity
        rw [step_submit_of_accepts book clock symbol side rejected, usedDuring, if_neg rejected,
          addedCounted.activeCount, orderCount_addOrder _ _ _ _ _ linked]
        exact ⟨settles.counted addedCounted, settles.capacity.trans grown⟩
  | cancel symbol orderId => exact unchanged (.cancelOrder orderId)
  | reduce symbol orderId newQuantity => exact unchanged (.reduceOrder orderId newQuantity)

/-- The pool is as large as it was or as large as it had to be. -/
theorem Counted.run (counted : book.Counted) (linked : book.Linked) (unfilled : book.Unfilled)
    (ops : List EngineOp) :
    (Transition.run OrderBook.step book ops).1.Counted ∧
      (Transition.run OrderBook.step book ops).1.orderPool.capacity =
        max book.orderPool.capacity (peakUse book ops) := by
  induction ops generalizing book with
  | nil =>
      have inUse : book.orderPool.activeCount ≤ book.orderPool.capacity := Nat.sub_le _ _
      exact ⟨counted, (Nat.max_eq_left inUse).symm⟩
  | cons op ops ih =>
      obtain ⟨stepCounted, stepCapacity⟩ := counted.step linked op
      obtain ⟨stepLinked, stepUnfilled⟩ := linked_step linked unfilled op
      obtain ⟨runCounted, runCapacity⟩ := ih stepCounted stepLinked stepUnfilled
      refine ⟨runCounted, ?_⟩
      rw [Transition.run_cons, runCapacity, stepCapacity, peakUse, max_assoc]

end OrderBook

end OrderBookExchange
