import OrderBookExchange.ShareLedger
import OrderBookExchange.TransitionHistory

/-!
# The engine as independent books

A call on the engine is a call on the book of the symbol it names.  No other
book sees it, so the book of a symbol runs as if the calls on it were the only
ones.  What is proved here of one book under arbitrary calls therefore holds of
every book of an engine, and the pool of a single book may have any size.
-/

namespace OrderBookExchange

/-- The symbol a call names. -/
def EngineOp.symbol : EngineOp → Symbol
  | .submit _ symbol _ _ _ _ => symbol
  | .cancel symbol _ => symbol
  | .reduce symbol _ _ => symbol

/-- Whether a call creates the book of its symbol if there is none. -/
def EngineOp.opensBook : EngineOp → Bool
  | .cancel _ _ => false
  | _ => true

/-- The trades a call reported. -/
def EngineOutput.trades : EngineOutput → List Trade
  | .submitted _ trades => trades
  | _ => []

/-- The calls of a list that name a symbol. -/
def callsOn (symbol : Symbol) (ops : List EngineOp) : List EngineOp :=
  ops.filter fun op => op.symbol = symbol

theorem callsOn_callsOn (symbol : Symbol) (ops : List EngineOp) :
    callsOn symbol (callsOn symbol ops) = callsOn symbol ops := by
  rw [callsOn, callsOn, List.filter_filter]
  simp only [Bool.and_self]

namespace OrderBook

/-- What the engine does with the book of a call's symbol. -/
def step (book : OrderBook) : EngineOp → OrderBook × EngineOutput
  | .submit clock _ side type price quantity =>
      if rejects type price quantity then (book, .submitted 0 [])
      else
        let result := book.acceptOrder clock side type (effectivePrice side type price) quantity
        (result.1, .submitted result.2.1 result.2.2)
  | .cancel _ orderId =>
      let result := book.cancelOrder orderId
      (result.1, .cancelled result.2)
  | .reduce _ orderId newQuantity =>
      let result := book.reduceOrder orderId newQuantity
      (result.1, .reduced result.2)

variable (book : OrderBook)

theorem step_submit_of_rejects (clock : Clock) (symbol : Symbol) (side : Side)
    {type : OrderType} {price : Price} {quantity : Quantity}
    (rejected : rejects type price quantity = true) :
    book.step (.submit clock symbol side type price quantity) = (book, .submitted 0 []) := by
  rw [step, if_pos rejected]

theorem step_submit_of_accepts (clock : Clock) (symbol : Symbol) (side : Side)
    {type : OrderType} {price : Price} {quantity : Quantity}
    (accepted : ¬rejects type price quantity = true) :
    book.step (.submit clock symbol side type price quantity) =
      ((book.acceptOrder clock side type (effectivePrice side type price) quantity).1,
        .submitted book.nextOrderId
          (book.acceptOrder clock side type (effectivePrice side type price) quantity).2.2) := by
  rw [step, if_neg accepted]
  dsimp only
  rw [acceptOrder_eq]

theorem step_cancel (symbol : Symbol) (orderId : Nat) :
    book.step (.cancel symbol orderId) =
      ((book.cancelOrder orderId).1, .cancelled (book.cancelOrder orderId).2) :=
  rfl

theorem step_reduce (symbol : Symbol) (orderId : Nat) (newQuantity : Quantity) :
    book.step (.reduce symbol orderId newQuantity) =
      ((book.reduceOrder orderId newQuantity).1,
        .reduced (book.reduceOrder orderId newQuantity).2) :=
  rfl

variable {book}

theorem linked_step (linked : book.Linked) (unfilled : book.Unfilled) (op : EngineOp) :
    (book.step op).1.Linked ∧ (book.step op).1.Unfilled := by
  cases op with
  | submit clock symbol side type price quantity =>
      by_cases rejected : rejects type price quantity = true
      · rw [step_submit_of_rejects book clock symbol side rejected]
        exact ⟨linked, unfilled⟩
      · rw [step_submit_of_accepts book clock symbol side rejected]
        obtain ⟨nextLinked, nextUnfilled, -⟩ := acceptOrder_conserved clock side type
          (effectivePrice side type price) quantity linked unfilled
        exact ⟨nextLinked, nextUnfilled⟩
  | cancel symbol orderId =>
      obtain ⟨nextLinked, nextUnfilled, -⟩ := cancelOrder_conserved linked unfilled orderId
      exact ⟨nextLinked, nextUnfilled⟩
  | reduce symbol orderId newQuantity =>
      obtain ⟨nextLinked, nextUnfilled, -⟩ :=
        reduceOrder_conserved linked unfilled orderId newQuantity
      exact ⟨nextLinked, nextUnfilled⟩

end OrderBook

namespace MatchingEngine

variable (engine : MatchingEngine)

theorem book_step (op : EngineOp) (symbol : Symbol) :
    (engine.step op).1.book symbol =
      if symbol = op.symbol then ((engine.book op.symbol).step op).1
      else engine.book symbol := by
  cases op with
  | submit clock named side type price quantity =>
      change (engine.submitOrder clock named side type price quantity).1.book symbol = _
      rw [book_submitOrder, EngineOp.symbol]
      by_cases rejected : rejects type price quantity = true
      · rw [if_neg fun applies => applies.2 rejected,
          OrderBook.step_submit_of_rejects _ _ _ _ rejected]
        split
        · next same => rw [same]
        · rfl
      · rw [OrderBook.step_submit_of_accepts _ _ _ _ rejected]
        simp only [rejected, Bool.false_eq_true, not_false_eq_true, and_true]
  | cancel named orderId => exact (book_cancelOrder engine named symbol orderId).1
  | reduce named orderId newQuantity =>
      exact (book_reduceOrder engine named symbol orderId newQuantity).1

theorem output_step (op : EngineOp) :
    (engine.step op).2 = ((engine.book op.symbol).step op).2 := by
  cases op with
  | submit clock named side type price quantity =>
      rw [step, EngineOp.symbol]
      by_cases rejected : rejects type price quantity = true
      · rw [OrderBook.step_submit_of_rejects _ _ _ _ rejected]
        simp [submitOrder, rejected]
      · rw [OrderBook.step_submit_of_accepts _ _ _ _ rejected,
          submitOrder_result engine clock named side rejected, OrderBook.acceptOrder_eq]
  | cancel named orderId =>
      rw [step, (book_cancelOrder engine named named orderId).2]
      rfl
  | reduce named orderId newQuantity =>
      rw [step, (book_reduceOrder engine named named orderId newQuantity).2]
      rfl

/-- The books of an engine do not see each other. -/
theorem books_independent :
    Transition.Independent step book EngineOp.symbol OrderBook.step where
  own := by
    intro engine op
    rw [book_step, if_pos rfl]
  other := by
    intro engine op other different
    rw [book_step, if_neg different]
  output := output_step

theorem book_run (ops : List EngineOp) (symbol : Symbol) :
    (Transition.run step engine ops).1.book symbol =
      (Transition.run OrderBook.step (engine.book symbol) (callsOn symbol ops)).1 :=
  books_independent.part_run engine ops symbol

theorem history_on (ops : List EngineOp) (symbol : Symbol) :
    (Transition.history step engine ops).filter (fun entry => entry.1.symbol = symbol) =
      Transition.history OrderBook.step (engine.book symbol) (callsOn symbol ops) :=
  books_independent.history_filter engine ops symbol

theorem mem_books_step (op : EngineOp) (symbol : Symbol) :
    symbol ∈ (engine.step op).1.books ↔
      symbol ∈ engine.books ∨ op.opensBook = true ∧ op.symbol = symbol := by
  have opened : ∀ named, symbol ∈ (engine.getOrderBook named).books ↔
      symbol ∈ engine.books ∨ named = symbol := by
    intro named
    unfold getOrderBook
    split
    · next present =>
        refine ⟨Or.inl, ?_⟩
        rintro (member | rfl)
        · exact member
        · exact present
    · rw [Finmap.mem_insert, or_comm, eq_comm]
  cases op with
  | submit clock named side type price quantity =>
      simp only [step, submitOrder, EngineOp.opensBook, EngineOp.symbol, true_and]
      by_cases rejected : rejects type price quantity = true
      · simp only [rejected, if_true, opened]
      · simp only [rejected, Bool.false_eq_true, if_false, withBook, Finmap.mem_insert, opened]
        tauto
  | cancel named orderId =>
      simp only [step, cancelOrder, EngineOp.opensBook, Bool.false_eq_true, false_and, or_false]
      cases found : engine.books.lookup named with
      | none => rfl
      | some book =>
          have present : named ∈ engine.books := Finmap.mem_of_lookup_eq_some found
          simp only [withBook, Finmap.mem_insert]
          refine ⟨?_, Or.inr⟩
          rintro (rfl | member)
          · exact present
          · exact member
  | reduce named orderId newQuantity =>
      simp only [step, reduceOrder, withBook, EngineOp.opensBook, EngineOp.symbol, true_and,
        Finmap.mem_insert, opened]
      tauto

theorem mem_books_run (ops : List EngineOp) (symbol : Symbol) :
    symbol ∈ (Transition.run step engine ops).1.books ↔
      symbol ∈ engine.books ∨ ∃ op ∈ ops, op.opensBook = true ∧ op.symbol = symbol := by
  induction ops generalizing engine with
  | nil => simp
  | cons op ops ih =>
      rw [Transition.run_cons, ih, mem_books_step, List.exists_mem_cons_iff, or_assoc]

end MatchingEngine

end OrderBookExchange
