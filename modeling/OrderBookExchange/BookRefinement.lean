import OrderBookExchange.OrderBookQueue
import OrderBookExchange.PriorityBook

/-!
# The order book refines the priority book

Forgetting pointers, levels and the index turns a valid order book into a
priority book.  Every operation of the order book keeps validity and is the
operation of the same name on the priority book.  The matching loop is the
delicate one: the incoming order sits on its own side while the head of the
opposite side is rewritten and unlinked.
-/

namespace OrderBookExchange.OrderBook

/-- The priority book an order book represents. -/
def view (book : OrderBook) : PriorityBook where
  queue := book.queue
  nextOrderId := book.nextOrderId

@[simp]
theorem view_queue (book : OrderBook) : book.view.queue = book.queue :=
  rfl

theorem view_new (symbol : Symbol) (poolSize : Nat) :
    (new symbol poolSize).view = PriorityBook.empty := by
  have queueNil : (new symbol poolSize).queue = fun _ => [] := by
    funext buy
    cases buy <;> rfl
  rw [view, queueNil]
  rfl

section Lookup

variable {book : OrderBook} {id : Nat}

theorem Valid.find?_of_lookup_none (valid : book.Valid)
    (absent : book.orderLookup.lookup id = none) : book.view.find? id = none := by
  rw [PriorityBook.find?, List.find?_eq_none]
  intro order member idEq
  rw [decide_eq_true_eq] at idEq
  have onQueue : ∃ buy, ∃ order ∈ book.queue buy, order.id = id := by
    rcases List.mem_append.mp member with bid | ask
    · exact ⟨true, order, bid, idEq⟩
    · exact ⟨false, order, ask, idEq⟩
  obtain ⟨location, found⟩ := valid.lookup_isSome_iff.mpr onQueue
  rw [absent] at found
  cases found

theorem Valid.find?_of_mem (valid : book.Valid) {buy : Bool} {order : Order}
    (member : order ∈ book.queue buy) : book.view.find? order.id = some order := by
  have onBook : order ∈ book.queue true ++ book.queue false := by
    cases buy <;> simp [member]
  cases found : book.view.find? order.id with
  | none =>
      rw [PriorityBook.find?, List.find?_eq_none] at found
      simpa using found order onBook
  | some other =>
      have otherId : other.id = order.id := by
        simpa using List.find?_some found
      have otherMem := List.mem_of_find?_eq_some found
      rcases List.mem_append.mp otherMem with bid | ask
      · rw [valid.eq_of_id_eq bid member otherId]
      · rw [valid.eq_of_id_eq ask member otherId]

theorem Valid.find?_of_lookup (valid : book.Valid) {location : OrderLocation}
    (found : book.orderLookup.lookup id = some location) :
    book.view.find? id = some (book.load location.iterator) := by
  obtain ⟨onLevel, idEq⟩ := valid.indexed id location found
  have member : book.load location.iterator ∈ book.queue location.side.isBuy :=
    mem_queue.mpr ⟨_, _, onLevel, rfl⟩
  have := valid.find?_of_mem member
  rwa [idEq] at this

end Lookup

/-! ### Removing, cancelling and reducing -/

section Operations

variable {book : OrderBook}

theorem view_store {ptr : Nat} (valid : book.Valid) (live : book.Live ptr)
    (order : Order) (idEq : order.id = (book.load ptr).id) :
    (book.store ptr order).view = book.view.replace order := by
  rw [view, funext (queue_store valid live order idEq), nextOrderId_store]
  rfl

theorem Valid.withStatus {ptr : Nat} (valid : book.Valid) (live : book.Live ptr)
    (status : OrderStatus) :
    (book.store ptr { book.load ptr with status }).Valid ∧
      (book.store ptr { book.load ptr with status }).Live ptr :=
  ⟨valid.store ptr _ rfl rfl rfl, live_store ptr { book.load ptr with status } rfl rfl rfl live⟩

theorem view_unlink {id : Nat} {location : OrderLocation} (valid : book.Valid)
    (found : book.orderLookup.lookup id = some location) (ptr : Nat) :
    (book.unlink id location ptr).view = book.view.drop id := by
  have queueEq : (book.unlink id location ptr).queue =
      fun buy => dropOrder id (book.queue buy) :=
    funext fun buy => queue_unlink valid found ptr buy
  rw [view, queueEq, nextOrderId_unlink]
  rfl

theorem removeOrder_of_live {ptr : Nat} (live : book.Live ptr) :
    book.removeOrder ptr =
      book.unlink (book.load ptr).id
        ⟨(book.load ptr).side, (book.load ptr).price, ptr⟩ ptr := by
  rw [removeOrder, live]

theorem Valid.removeOrder {ptr : Nat} (valid : book.Valid) (live : book.Live ptr) :
    (book.removeOrder ptr).Valid := by
  rw [removeOrder_of_live live]
  exact valid.unlink live

theorem view_removeOrder {ptr : Nat} (valid : book.Valid) (live : book.Live ptr) :
    (book.removeOrder ptr).view = book.view.drop (book.load ptr).id := by
  rw [removeOrder_of_live live]
  exact view_unlink valid live ptr

theorem cancelOrder_refines (valid : book.Valid) (id : Nat) :
    (book.cancelOrder id).1.Valid ∧
      (book.cancelOrder id).1.view = (book.view.cancelOrder id).1 ∧
      (book.cancelOrder id).2 = (book.view.cancelOrder id).2 := by
  unfold OrderBook.cancelOrder PriorityBook.cancelOrder
  cases found : book.orderLookup.lookup id with
  | none =>
      rw [valid.find?_of_lookup_none found]
      exact ⟨valid, rfl, rfl⟩
  | some location =>
      rw [valid.find?_of_lookup found]
      have live := valid.live_of_lookup found
      have idEq := (valid.lookup_location found).1
      -- the status is rewritten first; that keeps the index entry
      let cancelled := { book.load location.iterator with status := .cancelled }
      have markedValid : (book.store location.iterator cancelled).Valid :=
        (valid.withStatus live .cancelled).1
      have markedFound :
          (book.store location.iterator cancelled).orderLookup.lookup id =
            some location := found
      refine ⟨markedValid.unlink markedFound, ?_, rfl⟩
      change ((book.store location.iterator cancelled).unlink id location
        location.iterator).view = book.view.drop id
      rw [view_unlink markedValid markedFound, view_store valid live cancelled rfl]
      simp only [PriorityBook.drop, PriorityBook.replace,
        dropOrder_replaceOrder (show cancelled.id = id from idEq)]

theorem reduceOrder_refines (valid : book.Valid) (id : Nat) (newQuantity : Quantity) :
    (book.reduceOrder id newQuantity).1.Valid ∧
      (book.reduceOrder id newQuantity).1.view =
        (book.view.reduceOrder id newQuantity).1 ∧
      (book.reduceOrder id newQuantity).2 = (book.view.reduceOrder id newQuantity).2 := by
  unfold OrderBook.reduceOrder PriorityBook.reduceOrder
  cases found : book.orderLookup.lookup id with
  | none =>
      rw [valid.find?_of_lookup_none found]
      exact ⟨valid, rfl, rfl⟩
  | some location =>
      rw [valid.find?_of_lookup found]
      have live := valid.live_of_lookup found
      dsimp only
      split
      · exact ⟨valid, rfl, rfl⟩
      · split
        · have cancelled := cancelOrder_refines valid id
          rw [PriorityBook.cancelOrder, valid.find?_of_lookup found] at cancelled
          exact cancelled
        · exact ⟨valid.store _ _ rfl rfl rfl, view_store valid live _ rfl, rfl⟩

end Operations

end OrderBookExchange.OrderBook
