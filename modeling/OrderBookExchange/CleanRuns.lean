import OrderBookExchange.CleanBook

/-!
# Clean books over whole runs

The engine starts with clean books and every call keeps them clean, so the
best prices, the spread and the mid price of every book reached by a run make
sense: a zero stands for an empty side and for nothing else.
-/

namespace OrderBookExchange

/-- A call whose order type is one of the enumerators and whose price is
finite. -/
def EngineOp.Regular : EngineOp → Prop
  | .submit _ _ _ type price _ => type.Declared ∧ price.isFinite = true
  | _ => True

instance : (op : EngineOp) → Decidable op.Regular
  | .submit .. => inferInstanceAs (Decidable (_ ∧ _))
  | .cancel .. => .isTrue trivial
  | .reduce .. => .isTrue trivial

theorem EngineOp.Regular.nanFree {op : EngineOp} (regular : op.Regular) : op.NanFree := by
  cases op with
  | submit clock symbol side type price quantity =>
      exact Or.inr (Double.ne_nan_of_isFinite regular.2)
  | cancel symbol orderId => trivial
  | reduce symbol orderId newQuantity => trivial

namespace PriorityExchange

def Clean (books : PriorityExchange) : Prop :=
  ∀ symbol, (books symbol).Clean

theorem forall_update {property : PriorityBook → Prop} {books : PriorityExchange}
    (all : ∀ symbol, property (books symbol)) {symbol : Symbol} {book : PriorityBook}
    (replaced : property book) (other : Symbol) :
    property (Function.update books symbol book other) := by
  by_cases same : other = symbol
  · subst same
    rw [Function.update_self]
    exact replaced
  · rw [Function.update_of_ne same]
    exact all other

theorem Clean.step {books : PriorityExchange} (clean : books.Clean)
    (ordered : ∀ symbol, (books symbol).Ordered) {op : EngineOp} (regular : op.Regular) :
    Clean (books.step op).1 := by
  cases op with
  | submit clock symbol side type price quantity =>
      by_cases rejected : rejects type price quantity = true
      · rw [step_submit_of_rejects _ _ _ _ rejected]
        exact clean
      · rw [step_submit_of_accepts _ _ _ _ rejected]
        exact forall_update clean
          ((clean symbol).acceptOrder (ordered symbol) regular.1 regular.2 rejected)
  | cancel symbol orderId =>
      rw [step_cancel]
      exact forall_update clean ((clean symbol).cancelOrder orderId)
  | reduce symbol orderId newQuantity =>
      rw [step_reduce]
      exact forall_update clean ((clean symbol).reduceOrder (ordered symbol) orderId newQuantity)

end PriorityExchange

namespace MatchingEngine

theorem Valid.ordered {engine : MatchingEngine} (valid : engine.Valid) (symbol : Symbol) :
    (engine.view symbol).Ordered :=
  (valid symbol).ordered

/-- The engine's invariant between calls. -/
structure Sound (engine : MatchingEngine) : Prop where
  valid : engine.Valid
  clean : engine.view.Clean

theorem sound_new : MatchingEngine.new.Sound where
  valid := valid_new
  clean := by
    rw [view_new]
    intro symbol
    exact PriorityBook.clean_empty

theorem Sound.step {engine : MatchingEngine} (sound : engine.Sound) {op : EngineOp}
    (regular : op.Regular) : (engine.step op).1.Sound := by
  obtain ⟨nextValid, viewEq, -⟩ := step_refines sound.valid regular.nanFree
  refine ⟨nextValid, ?_⟩
  rw [viewEq]
  exact sound.clean.step sound.valid.ordered regular

theorem run_sound {ops : List EngineOp} (regular : ∀ op ∈ ops, op.Regular) :
    (Transition.run MatchingEngine.step MatchingEngine.new ops).1.Sound :=
  Transition.run_invariant Sound (fun _ _ sound regular => sound.step regular) sound_new
    (Transition.along_of_forall regular MatchingEngine.new)

end MatchingEngine

namespace OrderBook

variable {book : OrderBook}

theorem bestPrice_of_clean (valid : book.Valid) (clean : book.view.Clean) (buy : Bool)
    (nonempty : book.levels buy ≠ []) :
    ∃ value > 0, book.bestPrice buy = .finite value ∧
      ∃ order ∈ book.queue buy, order.price = .finite value := by
  have occupied : book.queue buy ≠ [] :=
    fun empty => nonempty ((valid.queue_eq_nil_iff buy).mp empty)
  obtain ⟨⟨order, member, priceEq⟩, -⟩ := valid.bestPrice_extreme occupied
  have orderClean := clean.orders buy order member
  have positive := orderClean.positive
  have finite := orderClean.finite
  cases priceShape : order.price with
  | finite value =>
      rw [priceShape, Double.zero_def, Double.finite_lt_finite] at positive
      exact ⟨value, positive, by rw [← priceEq, priceShape], order, member, priceShape⟩
  | nan => simp [priceShape, Double.isFinite] at finite
  | negInf => simp [priceShape, Double.isFinite] at finite
  | posInf => simp [priceShape, Double.isFinite] at finite

theorem bestPrice_eq_zero_iff (valid : book.Valid) (clean : book.view.Clean) (buy : Bool) :
    book.bestPrice buy = 0 ↔ book.levels buy = [] := by
  constructor
  · intro zero
    by_contra nonempty
    obtain ⟨value, positive, bestEq, -⟩ := bestPrice_of_clean valid clean buy nonempty
    rw [bestEq, Double.zero_def, Double.finite.injEq] at zero
    exact absurd zero (ne_of_gt positive)
  · intro empty
    rw [bestPrice, empty]

theorem prices_of_clean (valid : book.Valid) (clean : book.view.Clean)
    (bids : book.bids ≠ []) (asks : book.asks ≠ []) :
    book.bestBid.lt book.bestAsk = true ∧ (0 : Price).lt book.spread = true ∧
      book.bestBid.lt book.midPrice = true ∧ book.midPrice.lt book.bestAsk = true := by
  obtain ⟨bid, bidPositive, bidEq, bidOrder, bidMem, bidPrice⟩ :=
    bestPrice_of_clean valid clean true bids
  obtain ⟨ask, askPositive, askEq, askOrder, askMem, askPrice⟩ :=
    bestPrice_of_clean valid clean false asks
  have apart : bid < ask := by
    have uncrossed := clean.uncrossed true bidOrder bidMem askOrder askMem
    rw [bidPrice, askPrice] at uncrossed
    simpa [better, Double.lt] using uncrossed
  have bidNonzero : bid ≠ 0 := ne_of_gt bidPositive
  have askNonzero : ask ≠ 0 := ne_of_gt askPositive
  simp only [spread, midPrice, bestBid, bestAsk, bidEq, askEq, Double.eq, Double.zero_def,
    Double.finite.injEq, bidNonzero, askNonzero, decide_false, Bool.or_self,
    Bool.false_eq_true, if_false, Double.sub, Double.neg, Double.add, Double.half,
    Double.lt, decide_eq_true_eq]
  refine ⟨apart, ?_, ?_, ?_⟩ <;> linarith

end OrderBook

/-- Every book reached by a run of the engine is clean. -/
theorem MatchingEngine.run_books_clean {ops : List EngineOp}
    (regular : ∀ op ∈ ops, op.Regular) (symbol : Symbol) :
    let book := (Transition.run MatchingEngine.step MatchingEngine.new ops).1.book symbol
    (∀ buy, ∀ order ∈ book.queue buy, order.type = .limit ∧
        (0 : Price).lt order.price = true ∧ 0 < order.remainingQty ∧
        order.remainingQty ≤ order.quantity) ∧
      (book.bids ≠ [] → book.asks ≠ [] →
        book.bestBid.lt book.bestAsk = true ∧ (0 : Price).lt book.spread = true ∧
          book.bestBid.lt book.midPrice = true ∧ book.midPrice.lt book.bestAsk = true) ∧
      (book.bestBid = 0 ↔ book.bids = []) ∧ (book.bestAsk = 0 ↔ book.asks = []) := by
  intro book
  have sound := run_sound regular
  have valid : book.Valid := sound.valid symbol
  have clean : book.view.Clean := sound.clean symbol
  refine ⟨?_, OrderBook.prices_of_clean valid clean,
    OrderBook.bestPrice_eq_zero_iff valid clean true,
    OrderBook.bestPrice_eq_zero_iff valid clean false⟩
  intro buy order member
  have orderClean := clean.orders buy order member
  refine ⟨orderClean.limit, ?_, ?_, ?_⟩
  · have num := Double.ne_nan_of_isFinite orderClean.finite
    exact (Double.lt_eq_true_iff (by simp) num).mpr orderClean.positive
  · exact UInt32.pos_iff_ne_zero.mpr orderClean.unfilled
  · exact UInt32.le_iff_toNat_le.mpr orderClean.atMost

/-- A bid and an ask that do not cross, and an IOC order at a negative price. -/
theorem MatchingEngine.run_books_clean_two_sided :
    let ops : List EngineOp :=
      [.submit id [65] .buy .limit (.finite 100) 10, .submit id [65] .sell .limit (.finite 101) 5,
        .submit id [65] .sell .ioc (.finite (-1)) 3]
    let book := (Transition.run MatchingEngine.step MatchingEngine.new ops).1.book [65]
    book.bestBid.lt book.bestAsk = true ∧ (0 : Price).lt book.spread = true := by
  intro ops book
  have regular : ∀ op ∈ ops, op.Regular := by decide +kernel
  have bids : book.bids ≠ [] := by decide +kernel
  have asks : book.asks ≠ [] := by decide +kernel
  obtain ⟨-, prices, -, -⟩ := MatchingEngine.run_books_clean regular [65]
  exact ⟨(prices bids asks).1, (prices bids asks).2.1⟩

end OrderBookExchange
