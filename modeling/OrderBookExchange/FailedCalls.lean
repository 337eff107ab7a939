import OrderBookExchange.OrderFate
import OrderBookExchange.StatsBalance

/-!
# Calls that fail

A refused submission returns the identifier zero, a cancel or a reduction that
finds nothing to do returns false.  A failed cancel or reduction leaves the
engine as it was.  A refused submission counts itself and nothing else, but by
then it has looked up the book of its symbol, and the lookup creates a book for
a symbol that has none.
-/

namespace OrderBookExchange

namespace OrderBook

variable {book : OrderBook} {id : Nat}

theorem cancelOrder_of_false (failed : (book.cancelOrder id).2 = false) :
    (book.cancelOrder id).1 = book := by
  unfold cancelOrder at failed ⊢
  cases indexed : book.orderLookup.lookup id with
  | none => rfl
  | some location => simp [indexed] at failed

theorem reduceOrder_of_false {newQuantity : Quantity}
    (failed : (book.reduceOrder id newQuantity).2 = false) :
    (book.reduceOrder id newQuantity).1 = book := by
  unfold reduceOrder at failed ⊢
  cases indexed : book.orderLookup.lookup id with
  | none => rfl
  | some location =>
      simp only [indexed] at failed ⊢
      split at failed
      · next refused => rw [if_pos refused]
      · next smaller =>
          rw [if_neg smaller]
          split at failed
          · next zero =>
              rw [if_pos zero]
              exact cancelOrder_of_false failed
          · simp at failed

end OrderBook

namespace MatchingEngine

variable {engine : MatchingEngine} {symbol : Symbol}

theorem withBook_of_lookup {book : OrderBook} (found : engine.books.lookup symbol = some book) :
    engine.withBook symbol book = engine := by
  have inserted : engine.books.insert symbol book = engine.books := by
    apply Finmap.ext_lookup
    intro other
    by_cases same : other = symbol
    · subst same
      rw [Finmap.lookup_insert, found]
    · rw [Finmap.lookup_insert_of_ne _ same]
  rw [withBook, inserted]

theorem getOrderBook_of_mem (known : symbol ∈ engine.books) :
    engine.getOrderBook symbol = engine := by
  rw [getOrderBook, if_pos known]

theorem cancelOrder_of_false {id : Nat} (failed : (engine.cancelOrder symbol id).2 = false) :
    (engine.cancelOrder symbol id).1 = engine := by
  unfold cancelOrder at failed ⊢
  cases found : engine.books.lookup symbol with
  | none => rfl
  | some book =>
      simp only [found] at failed
      dsimp only
      rw [failed, OrderBook.cancelOrder_of_false failed, withBook_of_lookup found]
      rfl

theorem lookup_getOrderBook (symbol : Symbol) :
    (engine.getOrderBook symbol).books.lookup symbol = some (engine.book symbol) := by
  unfold getOrderBook book
  by_cases known : symbol ∈ engine.books
  · obtain ⟨existing, found⟩ := Finmap.mem_iff.mp known
    rw [if_pos known, found]
    rfl
  · rw [if_neg known, Finmap.lookup_insert, Finmap.lookup_eq_none.mpr known]
    rfl

theorem lookup_getOrderBook_of_ne {other : Symbol} (different : other ≠ symbol) :
    (engine.getOrderBook symbol).books.lookup other = engine.books.lookup other := by
  unfold getOrderBook
  split
  · rfl
  · exact Finmap.lookup_insert_of_ne _ different

/-- All that is left of a failed reduction is the lookup of its book. -/
theorem reduceOrder_of_false {id : Nat} {newQuantity : Quantity}
    (failed : (engine.reduceOrder symbol id newQuantity).2 = false) :
    (engine.reduceOrder symbol id newQuantity).1 = engine.getOrderBook symbol := by
  unfold reduceOrder at failed ⊢
  dsimp only at failed ⊢
  rw [book_getOrderBook] at failed ⊢
  rw [OrderBook.reduceOrder_of_false failed]
  exact withBook_of_lookup (lookup_getOrderBook symbol)

theorem rejects_of_id_zero (positive : (engine.book symbol).nextOrderId ≠ 0) {clock : Clock}
    {side : Side} {type : OrderType} {price : Price} {quantity : Quantity}
    (refused : (engine.submitOrder clock symbol side type price quantity).2.1 = 0) :
    rejects type price quantity = true := by
  by_contra accepted
  rw [submitOrder_id engine clock symbol side accepted] at refused
  exact positive refused

/-- A refused submission counts itself; its trade callback is not called. -/
theorem submitOrderTo_of_rejects {Listener : Type} (callback : Listener → Trade → Listener)
    (listener : Listener) (clock : Clock) (side : Side) {type : OrderType} {price : Price}
    {quantity : Quantity} (rejected : rejects type price quantity = true) :
    engine.submitOrderTo callback listener clock symbol side type price quantity =
      (({ engine.getOrderBook symbol with
          stats := { engine.stats with
            totalOrders := engine.stats.totalOrders + 1
            totalRejects := engine.stats.totalRejects + 1 } }, listener), 0, []) := by
  unfold submitOrderTo
  rw [if_pos rejected, stats_getOrderBook]

/-- In every reachable state, a submission that returns zero leaves every book
as it was, adds an empty book for its symbol exactly if there was none, calls no
callback and counts one order and one reject.  A cancel that returns false
leaves the whole engine as it was, a reduction that returns false its book. -/
theorem failed_calls_leave_books (ops : List EngineOp) :
    let engine := (Transition.run step .new ops).1
    (∀ (Listener : Type) (callback : Listener → Trade → Listener) (listener : Listener)
        (clock : Clock) (symbol : Symbol) (side : Side) (type : OrderType) (price : Price)
        (quantity : Quantity),
      let after := engine.submitOrderTo callback listener clock symbol side type price quantity
      after.2.1 = 0 →
        (∀ other ≠ symbol, after.1.1.books.lookup other = engine.books.lookup other) ∧
        (symbol ∈ engine.books → after.1.1.books = engine.books) ∧
        (symbol ∉ engine.books →
          after.1.1.books.lookup symbol = some (.new symbol defaultPoolSize)) ∧
        after.1.2 = listener ∧ after.2.2 = [] ∧
        after.1.1.stats = { engine.stats with
          totalOrders := engine.stats.totalOrders + 1
          totalRejects := engine.stats.totalRejects + 1 }) ∧
      (∀ symbol id, (engine.cancelOrder symbol id).2 = false →
        (engine.cancelOrder symbol id).1 = engine) ∧
      ∀ symbol id newQuantity,
        (((engine.book symbol).reduceOrder id newQuantity).2 = false →
          ((engine.book symbol).reduceOrder id newQuantity).1 = engine.book symbol) ∧
        ((engine.reduceOrder symbol id newQuantity).2 = false →
          (engine.reduceOrder symbol id newQuantity).1 = engine.getOrderBook symbol) := by
  intro engine
  refine ⟨?_, ?_, ?_⟩
  · intro Listener callback listener clock symbol side type price quantity after refused
    have positive : (engine.book symbol).nextOrderId ≠ 0 := by
      rw [book_run_new]
      exact OrderBook.nextOrderId_run_ne_zero _ _ _
    have returned := submitOrderTo_eq callback engine listener clock symbol side type price quantity
    have rejected : rejects type price quantity = true := by
      apply rejects_of_id_zero positive
      rw [← congrArg (fun result => result.2.1) returned]
      exact refused
    have afterEq : after = _ := submitOrderTo_of_rejects callback listener clock side rejected
    rw [afterEq]
    refine ⟨?_, ?_, ?_, rfl, rfl, rfl⟩
    · intro other different
      exact lookup_getOrderBook_of_ne different
    · intro known
      have opened : (engine.getOrderBook symbol).books = engine.books := by
        rw [getOrderBook_of_mem known]
      exact opened
    · intro absent
      rw [lookup_getOrderBook, book, Finmap.lookup_eq_none.mpr absent]
      rfl
  · intro symbol id failed
    exact cancelOrder_of_false failed
  · intro symbol id newQuantity
    exact ⟨OrderBook.reduceOrder_of_false, reduceOrder_of_false⟩

/-- An engine on which one order rests refuses a limit order for no shares, and does
not find the order that a cancel names. -/
theorem failed_calls_leave_books_zero_quantity :
    let offers : List EngineOp := [.submit (fun _ => 0) [65] .sell .limit (.finite 100) 5]
    let engine := (Transition.run step .new offers).1
    let refused := engine.submitOrder (fun _ => 0) [66] .buy .limit (.finite 100) 0
    let missed := engine.cancelOrder [65] 2
    ((engine.book [65]).queue false).length = 1 ∧ refused.2.1 = 0 ∧ missed.2 = false ∧
      refused.1.books.lookup [65] = engine.books.lookup [65] ∧
      missed.1.books = engine.books := by
  intro offers engine refused missed
  have untouched := failed_calls_leave_books offers
  have submits := untouched.1 Unit (fun _ _ => ()) () (fun _ => 0) [66] .buy .limit
    (.finite 100) 0
  simp only [submitOrderTo_eq] at submits
  have noOrder : refused.2.1 = 0 := rfl
  have notFound : missed.2 = false := by decide +kernel
  have unchanged : missed.1 = engine := untouched.2.1 [65] 2 notFound
  exact ⟨by decide +kernel, noOrder, notFound, (submits noOrder).1 [65] (by decide),
    congrArg books unchanged⟩

/-- The refused first order of a symbol leaves a book behind. -/
theorem rejected_submission_opens_book :
    let after := MatchingEngine.new.submitOrder (fun _ => 0) [65] .buy .limit (.finite 100) 0
    after.2.1 = 0 ∧ [65] ∉ MatchingEngine.new.books ∧ [65] ∈ after.1.books := by
  refine ⟨rfl, Finmap.notMem_empty, ?_⟩
  have opened : [65] ∈ (MatchingEngine.new.getOrderBook [65]).books :=
    Finmap.mem_of_lookup_eq_some (lookup_getOrderBook [65])
  exact opened

end MatchingEngine

end OrderBookExchange
