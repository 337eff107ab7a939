import OrderBookExchange.MatchingRefinement

/-!
# The engine refines one priority book per symbol

The engine keeps lazily created books in a map together with its statistics.
Seen from outside it is a priority book for every symbol, empty until the
symbol is first used.  Every call on the engine is the same call on the book of
its symbol, as long as no NaN reaches a price map.
-/

namespace OrderBookExchange

/-- The books of the exchange without pools, levels and statistics. -/
abbrev PriorityExchange := Symbol → PriorityBook

namespace PriorityExchange

def empty : PriorityExchange :=
  fun _ => PriorityBook.empty

def step (books : PriorityExchange) : EngineOp → PriorityExchange × EngineOutput
  | .submit clock symbol side type price quantity =>
      if rejects type price quantity then (books, .submitted 0 [])
      else
        let result := (books symbol).acceptOrder clock side type
          (effectivePrice side type price) quantity
        (Function.update books symbol result.1, .submitted result.2.1 result.2.2)
  | .cancel symbol orderId =>
      let result := (books symbol).cancelOrder orderId
      (Function.update books symbol result.1, .cancelled result.2)
  | .reduce symbol orderId newQuantity =>
      let result := (books symbol).reduceOrder orderId newQuantity
      (Function.update books symbol result.1, .reduced result.2)

theorem step_cancel (books : PriorityExchange) (symbol : Symbol) (orderId : Nat) :
    books.step (.cancel symbol orderId) =
      (Function.update books symbol ((books symbol).cancelOrder orderId).1,
        .cancelled ((books symbol).cancelOrder orderId).2) :=
  rfl

theorem step_reduce (books : PriorityExchange) (symbol : Symbol) (orderId : Nat)
    (newQuantity : Quantity) :
    books.step (.reduce symbol orderId newQuantity) =
      (Function.update books symbol ((books symbol).reduceOrder orderId newQuantity).1,
        .reduced ((books symbol).reduceOrder orderId newQuantity).2) :=
  rfl

theorem step_submit_of_rejects (books : PriorityExchange) (clock : Clock)
    (symbol : Symbol) (side : Side) {type : OrderType} {price : Price}
    {quantity : Quantity} (rejected : rejects type price quantity = true) :
    books.step (.submit clock symbol side type price quantity) =
      (books, .submitted 0 []) := by
  simp [step, rejected]

theorem step_submit_of_accepts (books : PriorityExchange) (clock : Clock)
    (symbol : Symbol) (side : Side) {type : OrderType} {price : Price}
    {quantity : Quantity} (accepted : ¬rejects type price quantity = true) :
    books.step (.submit clock symbol side type price quantity) =
      (Function.update books symbol ((books symbol).acceptOrder clock side type
          (effectivePrice side type price) quantity).1,
        .submitted
          ((books symbol).acceptOrder clock side type
            (effectivePrice side type price) quantity).2.1
          ((books symbol).acceptOrder clock side type
            (effectivePrice side type price) quantity).2.2) := by
  simp [step, accepted]

end PriorityExchange

/-- No NaN reaches a price map: only market orders may carry one. -/
def EngineOp.NanFree : EngineOp → Prop
  | .submit _ _ _ type price _ => type = .market ∨ price ≠ .nan
  | _ => True

theorem effectivePrice_num (side : Side) {type : OrderType} {price : Price}
    (nanFree : type = .market ∨ price ≠ .nan) : effectivePrice side type price ≠ .nan := by
  unfold effectivePrice
  by_cases market : type = .market
  · rw [if_pos market]
    split <;> simp
  · rw [if_neg market]
    exact nanFree.resolve_left market

namespace MatchingEngine

/-- Every book of the engine satisfies the representation invariant. -/
def Valid (engine : MatchingEngine) : Prop :=
  ∀ symbol, (engine.book symbol).Valid

def view (engine : MatchingEngine) : PriorityExchange :=
  fun symbol => (engine.book symbol).view

theorem book_new (symbol : Symbol) :
    MatchingEngine.new.book symbol = .new symbol defaultPoolSize := by
  simp [book, new]

theorem valid_new : MatchingEngine.new.Valid := by
  intro symbol
  rw [book_new]
  exact OrderBook.valid_new symbol defaultPoolSize

theorem view_new : MatchingEngine.new.view = PriorityExchange.empty := by
  funext symbol
  rw [view, book_new]
  exact OrderBook.view_new symbol defaultPoolSize

section Books

variable (engine : MatchingEngine)

@[simp]
theorem book_getOrderBook (symbol other : Symbol) :
    (engine.getOrderBook symbol).book other = engine.book other := by
  unfold getOrderBook
  split
  · rfl
  · next absent =>
      unfold book
      by_cases same : other = symbol
      · subst same
        rw [Finmap.lookup_insert, Finmap.lookup_eq_none.mpr absent]
        rfl
      · rw [Finmap.lookup_insert_of_ne _ same]

@[simp]
theorem stats_getOrderBook (symbol : Symbol) :
    (engine.getOrderBook symbol).stats = engine.stats := by
  unfold getOrderBook
  split <;> rfl

theorem book_insert (stats : EngineStats) (symbol other : Symbol) (book : OrderBook) :
    MatchingEngine.book ⟨engine.books.insert symbol book, stats⟩ other =
      if other = symbol then book else engine.book other := by
  unfold MatchingEngine.book
  by_cases same : other = symbol
  · subst same
    rw [if_pos rfl, Finmap.lookup_insert]
    rfl
  · rw [if_neg same, Finmap.lookup_insert_of_ne _ same]

variable {engine}

theorem valid_insert (valid : engine.Valid) (stats : EngineStats) {symbol : Symbol}
    {book : OrderBook} (bookValid : book.Valid) :
    MatchingEngine.Valid ⟨engine.books.insert symbol book, stats⟩ := by
  intro other
  rw [book_insert]
  split
  · exact bookValid
  · exact valid other

theorem view_insert (stats : EngineStats) (symbol : Symbol) (book : OrderBook) :
    MatchingEngine.view ⟨engine.books.insert symbol book, stats⟩ =
      Function.update engine.view symbol book.view := by
  funext other
  rw [view, book_insert]
  by_cases same : other = symbol
  · subst same
    simp
  · rw [if_neg same, Function.update_of_ne same]
    rfl

theorem valid_getOrderBook (valid : engine.Valid) (symbol : Symbol) :
    (engine.getOrderBook symbol).Valid := by
  intro other
  rw [book_getOrderBook]
  exact valid other

theorem view_getOrderBook (symbol : Symbol) :
    (engine.getOrderBook symbol).view = engine.view := by
  funext other
  simp [view]

end Books

variable {engine : MatchingEngine}

theorem submitOrder_refines (valid : engine.Valid) (clock : Clock) (symbol : Symbol)
    (side : Side) {type : OrderType} {price : Price} (quantity : Quantity)
    (nanFree : type = .market ∨ price ≠ .nan) :
    (engine.submitOrder clock symbol side type price quantity).1.Valid ∧
      (engine.submitOrder clock symbol side type price quantity).1.view =
        (engine.view.step (.submit clock symbol side type price quantity)).1 ∧
      EngineOutput.submitted
          (engine.submitOrder clock symbol side type price quantity).2.1
          (engine.submitOrder clock symbol side type price quantity).2.2 =
        (engine.view.step (.submit clock symbol side type price quantity)).2 := by
  have opened := valid_getOrderBook valid symbol
  have openedView : (engine.getOrderBook symbol).view = engine.view :=
    view_getOrderBook symbol
  unfold submitOrder
  by_cases rejected : rejects type price quantity = true
  · rw [PriorityExchange.step_submit_of_rejects _ _ _ _ rejected]
    simp only [rejected, if_true]
    exact ⟨opened, openedView, trivial⟩
  · rw [PriorityExchange.step_submit_of_accepts _ _ _ _ rejected]
    simp only [rejected, if_false, Bool.false_eq_true, withBook]
    obtain ⟨accepted, viewEq, resultEq⟩ :=
      OrderBook.acceptOrder_refines clock side type quantity (opened symbol)
        (effectivePrice_num side nanFree)
    refine ⟨valid_insert opened _ accepted, ?_, ?_⟩
    · rw [view_insert, openedView, viewEq, book_getOrderBook]
      rfl
    · rw [resultEq, book_getOrderBook]
      rfl

theorem cancelOrder_refines (valid : engine.Valid) (symbol : Symbol) (orderId : Nat) :
    (engine.cancelOrder symbol orderId).1.Valid ∧
      (engine.cancelOrder symbol orderId).1.view =
        (engine.view.step (.cancel symbol orderId)).1 ∧
      EngineOutput.cancelled (engine.cancelOrder symbol orderId).2 =
        (engine.view.step (.cancel symbol orderId)).2 := by
  rw [PriorityExchange.step_cancel]
  unfold cancelOrder
  cases found : engine.books.lookup symbol with
  | none =>
      have unopened : engine.view symbol = PriorityBook.empty := by
        rw [view, book, found]
        exact OrderBook.view_new symbol defaultPoolSize
      have untouched : Function.update engine.view symbol PriorityBook.empty =
          engine.view := by
        rw [← unopened, Function.update_eq_self]
      rw [unopened]
      exact ⟨valid, untouched.symm, rfl⟩
  | some book =>
      have bookEq : engine.book symbol = book := by
        rw [MatchingEngine.book, found]
        rfl
      have symbolView : engine.view symbol = book.view := by
        rw [view, bookEq]
      obtain ⟨cancelled, viewEq, resultEq⟩ :=
        OrderBook.cancelOrder_refines (bookEq ▸ valid symbol) orderId
      rw [symbolView]
      refine ⟨valid_insert valid _ cancelled, ?_, ?_⟩
      · dsimp only
        rw [withBook, view_insert, viewEq]
      · dsimp only
        rw [resultEq]

theorem reduceOrder_refines (valid : engine.Valid) (symbol : Symbol) (orderId : Nat)
    (newQuantity : Quantity) :
    (engine.reduceOrder symbol orderId newQuantity).1.Valid ∧
      (engine.reduceOrder symbol orderId newQuantity).1.view =
        (engine.view.step (.reduce symbol orderId newQuantity)).1 ∧
      EngineOutput.reduced (engine.reduceOrder symbol orderId newQuantity).2 =
        (engine.view.step (.reduce symbol orderId newQuantity)).2 := by
  have opened := valid_getOrderBook valid symbol
  obtain ⟨reduced, viewEq, resultEq⟩ :=
    OrderBook.reduceOrder_refines (opened symbol) orderId newQuantity
  rw [PriorityExchange.step_reduce]
  unfold reduceOrder
  refine ⟨valid_insert opened _ reduced, ?_, ?_⟩
  · dsimp only
    rw [withBook, view_insert, viewEq, view_getOrderBook, book_getOrderBook]
    rfl
  · dsimp only
    rw [resultEq, book_getOrderBook]
    rfl

/-- One call on the engine is the same call on its view. -/
theorem step_refines (valid : engine.Valid) {op : EngineOp} (nanFree : op.NanFree) :
    (engine.step op).1.Valid ∧ (engine.step op).1.view = (engine.view.step op).1 ∧
      (engine.step op).2 = (engine.view.step op).2 := by
  cases op with
  | submit clock symbol side type price quantity =>
      exact submitOrder_refines valid clock symbol side quantity nanFree
  | cancel symbol orderId => exact cancelOrder_refines valid symbol orderId
  | reduce symbol orderId newQuantity =>
      exact reduceOrder_refines valid symbol orderId newQuantity

/-- A run of the engine is the same run of its view, output by output. -/
theorem run_refines (valid : engine.Valid) {ops : List EngineOp}
    (nanFree : ∀ op ∈ ops, op.NanFree) :
    (Transition.run step engine ops).1.Valid ∧
      (Transition.run step engine ops).1.view =
        (Transition.run PriorityExchange.step engine.view ops).1 ∧
      (Transition.run step engine ops).2 =
        (Transition.run PriorityExchange.step engine.view ops).2 := by
  have simulates : ∀ (engine : MatchingEngine) (books : PriorityExchange)
      (op : EngineOp), engine.Valid ∧ engine.view = books → op.NanFree →
        ((engine.step op).1.Valid ∧ (engine.step op).1.view = (books.step op).1) ∧
          id (engine.step op).2 = id (books.step op).2 := by
    rintro engine books op ⟨valid, rfl⟩ nanFree
    obtain ⟨nextValid, viewEq, outputEq⟩ := step_refines valid nanFree
    exact ⟨⟨nextValid, viewEq⟩, outputEq⟩
  obtain ⟨⟨finalValid, viewEq⟩, outputsEq⟩ := Transition.run_simulation simulates
    ⟨valid, rfl⟩ (Transition.along_of_forall nanFree engine)
  rw [List.map_id, List.map_id] at outputsEq
  exact ⟨finalValid, viewEq, outputsEq⟩

end MatchingEngine

end OrderBookExchange
