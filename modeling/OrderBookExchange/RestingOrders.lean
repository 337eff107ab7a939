import OrderBookExchange.ShareLedger

/-!
# What every resting order satisfies

The side, type, price and submitted quantity of an order never change while it
is on the book.  A property of these terms therefore holds of all resting
orders as soon as it holds of each order that a submission may leave behind.
-/

namespace OrderBookExchange

namespace OrderBook

variable {book : OrderBook} {allowed : Order → Prop}

/-- Every order on the book satisfies a property. -/
def AllResting (book : OrderBook) (allowed : Order → Prop) : Prop :=
  ∀ id order, book.orderAt id = some order → allowed order

/-- An order on the book after a submission was there before it, or is the
submitted one and of a type that may rest. -/
theorem acceptOrder_terms (clock : Clock) (side : Side) (type : OrderType) (price : Price)
    (quantity : Quantity) (linked : book.Linked) (unfilled : book.Unfilled) {id : Nat}
    {order : Order}
    (found : (book.acceptOrder clock side type price quantity).1.orderAt id = some order) :
    (∃ older, book.orderAt id = some older ∧ older.SameTerms order) ∨
      (book.addedOrder side type price quantity (clock 1)).SameTerms order ∧
        ¬(type = .market ∨ type = .ioc) := by
  have matched := matched_from clock side type price quantity linked unfilled
  obtain ⟨-, -, outcome⟩ := postMatch_cases matched.linked matched.live type
  have addedOrders := orderAt_addOrder side type price quantity (clock 1) linked id
  rw [acceptOrder_eq] at found
  have onMatched : (book.matched clock side type price quantity).1.orderAt id = some order ∧
      (id = book.nextOrderId → ¬(type = .market ∨ type = .ioc)) := by
    rcases outcome with ⟨orders, -⟩ | ⟨unchanged, -, rests⟩
    · rw [orders, matched.idEq] at found
      split at found
      · simp at found
      · next other => exact ⟨found, fun own => absurd own other⟩
    · rw [unchanged] at found
      exact ⟨found, fun _ => rests⟩
  obtain ⟨older, olderFound, terms⟩ := matched.older id order onMatched.1
  rw [addedOrders] at olderFound
  split at olderFound
  · next own =>
      rw [Option.some.injEq] at olderFound
      exact Or.inr ⟨olderFound ▸ terms, onMatched.2 own⟩
  · exact Or.inl ⟨older, olderFound, terms⟩

theorem id_of_added {clock : Clock} {side : Side} {type : OrderType} {price : Price}
    {quantity : Quantity} (linked : book.Linked) (unfilled : book.Unfilled) {id : Nat}
    {order : Order}
    (found : (book.acceptOrder clock side type price quantity).1.orderAt id = some order)
    (terms : (book.addedOrder side type price quantity (clock 1)).SameTerms order) :
    id = book.nextOrderId := by
  have afterLinked := (acceptOrder_conserved clock side type price quantity linked unfilled).1
  exact (afterLinked.id_of_orderAt found).symm.trans terms.id.symm

section Operations

variable (stable : ∀ {older order : Order}, older.SameTerms order → allowed older → allowed order)
include stable

theorem AllResting.acceptOrder (all : book.AllResting allowed) (linked : book.Linked)
    (unfilled : book.Unfilled) (clock : Clock) (side : Side) (type : OrderType) (price : Price)
    (quantity : Quantity)
    (added : ¬(type = .market ∨ type = .ioc) →
      allowed (book.addedOrder side type price quantity (clock 1))) :
    (book.acceptOrder clock side type price quantity).1.AllResting allowed := by
  intro id order found
  rcases acceptOrder_terms clock side type price quantity linked unfilled found with
    ⟨older, olderFound, terms⟩ | ⟨terms, rests⟩
  · exact stable terms (all id older olderFound)
  · exact stable terms (added rests)

end Operations

theorem AllResting.cancelOrder (all : book.AllResting allowed) (linked : book.Linked)
    (unfilled : book.Unfilled) (id : Nat) : (book.cancelOrder id).1.AllResting allowed := by
  obtain ⟨-, -, -, -, orders⟩ := cancelOrder_conserved linked unfilled id
  intro other order found
  rw [orders] at found
  split at found
  · simp at found
  · exact all other order found

end OrderBook

namespace MatchingEngine

/-- Every book is linked, and all orders on it satisfy a property. -/
structure AllResting (engine : MatchingEngine) (allowed : Order → Prop) : Prop where
  linked : engine.Linked
  all : ∀ symbol, (engine.book symbol).AllResting allowed

variable {engine : MatchingEngine} {allowed : Order → Prop}

theorem allResting_new : MatchingEngine.new.AllResting allowed := by
  refine ⟨linked_new, ?_⟩
  intro symbol id order found
  rw [book_new, OrderBook.orderAt_new] at found
  simp at found

/-- A submission keeps the property if the order it may leave behind has it. -/
theorem AllResting.submitOrder (all : engine.AllResting allowed)
    (stable : ∀ {older order : Order}, older.SameTerms order → allowed older → allowed order)
    (clock : Clock) (symbol : Symbol) (side : Side) (type : OrderType) (price : Price)
    (quantity : Quantity)
    (added : ¬rejects type price quantity = true → ¬(type = .market ∨ type = .ioc) →
      allowed (Order.new (engine.book symbol).nextOrderId side type price quantity (clock 1))) :
    (engine.submitOrder clock symbol side type price quantity).1.AllResting allowed := by
  refine ⟨all.linked.step (.submit clock symbol side type price quantity), ?_⟩
  intro other
  rw [book_submitOrder]
  split
  · next applies =>
      obtain ⟨linked, unfilled⟩ := all.linked symbol
      refine (all.all symbol).acceptOrder stable linked unfilled clock side type _ quantity ?_
      intro rests
      have priceEq : effectivePrice side type price = price := by
        unfold effectivePrice
        exact if_neg fun market => rests (Or.inl market)
      rw [priceEq]
      exact added applies.2 rests
  · exact all.all other

theorem AllResting.cancelOrder (all : engine.AllResting allowed) (symbol : Symbol) (id : Nat) :
    (engine.cancelOrder symbol id).1.AllResting allowed := by
  refine ⟨all.linked.step (.cancel symbol id), ?_⟩
  intro other
  rw [(book_cancelOrder engine symbol other id).1]
  split
  · exact (all.all symbol).cancelOrder (all.linked symbol).1 (all.linked symbol).2 id
  · exact all.all other

theorem AllResting.reduceOrder (all : engine.AllResting allowed)
    (stable : ∀ {older order : Order}, older.SameTerms order → allowed older → allowed order)
    (symbol : Symbol) (id : Nat) (newQuantity : Quantity) :
    (engine.reduceOrder symbol id newQuantity).1.AllResting allowed := by
  refine ⟨all.linked.step (.reduce symbol id newQuantity), ?_⟩
  intro other
  rw [(book_reduceOrder engine symbol other id newQuantity).1]
  split
  · intro orderId order found
    obtain ⟨older, olderFound, orderEq⟩ :=
      OrderBook.orderAt_reduceOrder (all.linked symbol).1 found
    have terms : older.SameTerms order := by
      rw [orderEq]
      exact ⟨rfl, rfl, rfl, rfl, rfl⟩
    exact stable terms (all.all symbol orderId older olderFound)
  · exact all.all other

theorem AllResting.of_node (all : engine.AllResting allowed) {symbol : Symbol} {buy : Bool}
    {ptr : Nat} (node : ptr ∈ (engine.book symbol).nodePtrs buy) :
    allowed ((engine.book symbol).load ptr) :=
  all.all symbol _ _ ((all.linked symbol).1.orderAt_of_mem node)

/-! ### Identifiers are never zero -/

/-- No order, present or to come, has the identifier zero that stands for a
rejected submission. -/
structure Numbered (engine : MatchingEngine) : Prop where
  resting : engine.AllResting fun order => order.id ≠ 0
  counters : ∀ symbol, (engine.book symbol).nextOrderId ≠ 0

theorem numbered_new : MatchingEngine.new.Numbered where
  resting := allResting_new
  counters := by
    intro symbol
    rw [book_new]
    exact one_ne_zero

theorem nextOrderId_step_ne_zero (numbered : engine.Numbered) (op : EngineOp) (symbol : Symbol) :
    ((engine.step op).1.book symbol).nextOrderId ≠ 0 := by
  have grows := (step_balance numbered.resting.linked op symbol 0).nextLe
  exact Nat.ne_of_gt (lt_of_lt_of_le (Nat.pos_of_ne_zero (numbered.counters symbol)) grows)

theorem Numbered.submitOrder (numbered : engine.Numbered) (clock : Clock) (symbol : Symbol)
    (side : Side) (type : OrderType) (price : Price) (quantity : Quantity) :
    (engine.submitOrder clock symbol side type price quantity).1.Numbered where
  resting := numbered.resting.submitOrder (fun terms nonzero => terms.id ▸ nonzero) clock symbol
    side type price quantity fun _ _ => numbered.counters symbol
  counters := nextOrderId_step_ne_zero numbered (.submit clock symbol side type price quantity)

theorem Numbered.cancelOrder (numbered : engine.Numbered) (symbol : Symbol) (id : Nat) :
    (engine.cancelOrder symbol id).1.Numbered where
  resting := numbered.resting.cancelOrder symbol id
  counters := nextOrderId_step_ne_zero numbered (.cancel symbol id)

theorem Numbered.orderAt_zero (numbered : engine.Numbered) (symbol : Symbol) :
    (engine.book symbol).orderAt 0 = none := by
  cases found : (engine.book symbol).orderAt 0 with
  | none => rfl
  | some order =>
      have nonzero := numbered.resting.all symbol 0 order found
      exact absurd ((numbered.resting.linked symbol).1.id_of_orderAt found) nonzero

end MatchingEngine

end OrderBookExchange
