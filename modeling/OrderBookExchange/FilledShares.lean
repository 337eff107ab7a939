import OrderBookExchange.LimitProtection
import OrderBookExchange.OrderCensus

/-!
# Filled shares of a resting order

An order does not record its fills.  What counts as filled is the difference
between its quantity and what remains of it, and a reduction lowers the latter
as a trade does.  So the difference is the sum of the order's trades and of what
reductions took, and it is the sum of the trades exactly if no call shrank it.
-/

namespace OrderBookExchange

namespace OrderBook

variable {book : OrderBook} {id : Nat}

/-- The shares that a call takes off an order without trading them, the order
staying on the book. -/
def takenQty (book : OrderBook) (id : Nat) : EngineOp → Nat
  | .reduce _ orderId newQuantity =>
      if orderId = id then book.remainingOf id - newQuantity.toNat else 0
  | _ => 0

/-- A reduction of an order to less than what remains of it. -/
def Shrinks (book : OrderBook) (id : Nat) (op : EngineOp) : Prop :=
  ∃ symbol newQuantity, op = .reduce symbol id newQuantity ∧
    newQuantity.toNat < book.remainingOf id

/-- The shares that the calls of a run take off an order. -/
def takenAlong (id : Nat) : OrderBook → List EngineOp → Nat
  | _, [] => 0
  | book, op :: ops => book.takenQty id op + takenAlong id (book.step op).1 ops

theorem takenQty_eq_zero_iff {op : EngineOp} :
    book.takenQty id op = 0 ↔ ¬book.Shrinks id op := by
  unfold Shrinks takenQty
  cases op with
  | submit clock symbol side type price quantity => simp
  | cancel symbol orderId => simp
  | reduce symbol orderId newQuantity =>
      by_cases named : orderId = id
      · simp [named, Nat.sub_eq_zero_iff_le]
      · simp [named]

theorem takenAlong_eq_zero_iff {ops : List EngineOp} :
    takenAlong id book ops = 0 ↔
      Transition.Along step (fun book op => ¬book.Shrinks id op) book ops := by
  induction ops generalizing book with
  | nil => simp [takenAlong]
  | cons op ops ih =>
      rw [takenAlong, Nat.add_eq_zero_iff, takenQty_eq_zero_iff, ih, Transition.along_cons]

/-! ### One call -/

theorem le_of_reduceOrder_false {newQuantity : Quantity} {order : Order}
    (found : book.orderAt id = some order)
    (failed : (book.reduceOrder id newQuantity).2 = false) :
    book.remainingOf id ≤ newQuantity.toNat := by
  rw [remainingOf_of_some found]
  unfold orderAt at found
  unfold reduceOrder at failed
  cases indexed : book.orderLookup.lookup id with
  | none => simp [indexed] at found
  | some location =>
      rw [indexed, Option.map_some, Option.some.injEq] at found
      simp only [indexed, found] at failed
      split at failed
      · next grows => exact UInt32.le_iff_toNat_le.mp grows
      · split at failed
        · simp [cancelOrder, indexed] at failed
        · simp at failed

/-- An order on the book after a call was there before it, with what the call
traded and took off in addition, or it has just been submitted. -/
theorem step_remaining (linked : book.Linked) (unfilled : book.Unfilled) (op : EngineOp)
    {order : Order} (found : (book.step op).1.orderAt id = some order) :
    (∃ older, book.orderAt id = some older ∧ older.quantity = order.quantity ∧
      older.remainingQty.toNat =
        order.remainingQty.toNat + tradedQty (book.step op).2.trades id +
          book.takenQty id op) ∨
      id = book.nextOrderId ∧ op.Accepted ∧
        order.quantity.toNat =
          order.remainingQty.toNat + tradedQty (book.step op).2.trades id := by
  have left := remainingOf_of_some found
  cases op with
  | submit clock symbol side type price quantity =>
      by_cases rejected : rejects type price quantity = true
      · rw [step_submit_of_rejects book clock symbol side rejected] at found ⊢
        exact Or.inl ⟨order, found, rfl, rfl⟩
      · rw [step_submit_of_accepts book clock symbol side rejected] at found left ⊢
        obtain ⟨-, -, -, balance⟩ := acceptOrder_conserved clock side type
          (effectivePrice side type price) quantity linked unfilled
        have balanced := balance id
        rcases acceptOrder_terms clock side type _ quantity linked unfilled found with
          ⟨older, olderFound, terms⟩ | ⟨terms, rests⟩
        · have old : id ≠ book.nextOrderId := (linked.lt_of_orderAt olderFound).ne
          rw [if_neg old, if_neg old, left, remainingOf_of_some olderFound] at balanced
          exact Or.inl ⟨older, olderFound, terms.quantity, balanced⟩
        · have own : id = book.nextOrderId := id_of_added linked unfilled found terms
          have fresh := remainingOf_of_none (linked.orderAt_none_of_le (le_refl book.nextOrderId))
          rw [if_pos own, if_pos own, discardedQty, if_neg rests, left, own, fresh] at balanced
          refine Or.inr ⟨own, rejected, ?_⟩
          rw [← terms.quantity, own]
          exact (Nat.zero_add _).symm.trans balanced
  | cancel symbol orderId =>
      obtain ⟨-, -, -, -, orders⟩ := cancelOrder_conserved linked unfilled orderId
      rw [step_cancel, orders] at found
      split at found
      · simp at found
      · exact Or.inl ⟨order, found, rfl, rfl⟩
  | reduce symbol orderId newQuantity =>
      obtain ⟨older, olderFound, terms⟩ := reduceOrder_terms linked found
      obtain ⟨-, -, -, others, outcome⟩ :=
        reduceOrder_conserved linked unfilled orderId newQuantity
      refine Or.inl ⟨older, olderFound, terms.quantity, ?_⟩
      rw [step_reduce] at left ⊢
      rw [← remainingOf_of_some olderFound, ← left, takenQty]
      change book.remainingOf id =
        (book.reduceOrder orderId newQuantity).1.remainingOf id + 0 + _
      by_cases named : orderId = id
      · subst named
        rw [if_pos rfl]
        rcases outcome with ⟨-, leftEq, smaller⟩ | ⟨failed, unchanged⟩
        · omega
        · have refused : book.remainingOf orderId ≤ newQuantity.toNat :=
            le_of_reduceOrder_false olderFound failed
          rw [unchanged]
          omega
      · rw [if_neg named, remainingOf_of_orderAt (others id fun same => named same.symm)]
        omega

/-! ### Whole runs -/

/-- A call moves nothing of an identifier that has yet to be issued. -/
theorem unissued_step (linked : book.Linked) (unfilled : book.Unfilled) (op : EngineOp)
    (unissued : (book.step op).1.nextOrderId ≤ id) :
    tradedQty (book.step op).2.trades id = 0 ∧ book.takenQty id op = 0 := by
  have old := nextOrderId_le_step linked unfilled op
  have gone := remainingOf_of_none (linked.orderAt_none_of_le (old.trans unissued))
  cases op with
  | submit clock symbol side type price quantity =>
      refine ⟨?_, rfl⟩
      by_cases rejected : rejects type price quantity = true
      · rw [step_submit_of_rejects book clock symbol side rejected]
        rfl
      · rw [step_submit_of_accepts book clock symbol side rejected] at unissued ⊢
        obtain ⟨-, -, nextEq, balance⟩ := acceptOrder_conserved clock side type
          (effectivePrice side type price) quantity linked unfilled
        have balanced := balance id
        dsimp only at unissued
        rw [if_neg (by omega), if_neg (by omega), gone] at balanced
        change tradedQty (book.acceptOrder clock side type (effectivePrice side type price)
          quantity).2.2 id = 0
        omega
  | cancel symbol orderId => exact ⟨rfl, rfl⟩
  | reduce symbol orderId newQuantity =>
      refine ⟨rfl, ?_⟩
      rw [takenQty, gone, Nat.zero_sub, ite_self]

/-- An order on the book after a run was there before it, with what the run
traded and took off in addition, or it was submitted since. -/
theorem run_remaining (linked : book.Linked) (unfilled : book.Unfilled) (ops : List EngineOp)
    {order : Order} (found : (Transition.run step book ops).1.orderAt id = some order) :
    let traded := tradedQty (reportedTrades (Transition.history step book ops)) id
    (∃ older, book.orderAt id = some older ∧ older.quantity = order.quantity ∧
      older.remainingQty.toNat =
        order.remainingQty.toNat + traded + takenAlong id book ops) ∨
      book.nextOrderId ≤ id ∧
        order.quantity.toNat = order.remainingQty.toNat + traded + takenAlong id book ops := by
  induction ops generalizing book with
  | nil => exact Or.inl ⟨order, found, rfl, rfl⟩
  | cons op ops ih =>
      obtain ⟨nextLinked, nextUnfilled⟩ := linked_step linked unfilled op
      have grows := nextOrderId_le_step linked unfilled op
      dsimp only
      rw [Transition.history_cons, reportedTrades_cons, tradedQty_append, takenAlong]
      dsimp only
      rcases ih nextLinked nextUnfilled found with
        ⟨middle, middleFound, sameQuantity, rest⟩ | ⟨unissued, rest⟩
      · rcases step_remaining linked unfilled op middleFound with
          ⟨older, olderFound, quantityEq, first⟩ | ⟨own, accepted, first⟩
        · refine Or.inl ⟨older, olderFound, quantityEq.trans sameQuantity, ?_⟩
          omega
        · have untaken : book.takenQty id op = 0 := by
            cases op with
            | submit clock symbol side type price quantity => rfl
            | cancel symbol orderId => rfl
            | reduce symbol orderId newQuantity => exact accepted.elim
          refine Or.inr ⟨own.ge, ?_⟩
          rw [← sameQuantity]
          omega
      · obtain ⟨untraded, untaken⟩ := unissued_step linked unfilled op unissued
        refine Or.inr ⟨grows.trans unissued, ?_⟩
        omega

theorem filledQty_toNat {order : Order} (within : order.remainingQty.toNat ≤ order.quantity.toNat) :
    order.filledQty.toNat = order.quantity.toNat - order.remainingQty.toNat := by
  rw [Order.filledQty, UInt32.toNat_sub_of_le _ _ (UInt32.le_iff_toNat_le.mpr within)]

/-- What counts as filled of a resting order is what it traded and what calls
took off it. -/
theorem filledQty_run_new (symbol : Symbol) (poolSize : Nat) (ops : List EngineOp) {order : Order}
    (found : (Transition.run step (new symbol poolSize) ops).1.orderAt id = some order) :
    order.filledQty.toNat =
      tradedQty (reportedTrades (Transition.history step (new symbol poolSize) ops)) id +
        takenAlong id (new symbol poolSize) ops := by
  rcases run_remaining (linked_new symbol poolSize) (unfilled_new symbol poolSize) ops found with
    ⟨older, olderFound, -⟩ | ⟨-, balance⟩
  · simp at olderFound
  · rw [filledQty_toNat (by omega)]
    omega

end OrderBook

namespace MatchingEngine

/-- In every run, what counts as filled of a resting order is the sum of its
trades if and only if no call has reduced it to less than what remained of it. -/
theorem filledQty_eq_traded_iff (ops : List EngineOp) (symbol : Symbol) (id : Nat) (order : Order)
    (found : ((Transition.run step .new ops).1.book symbol).orderAt id = some order) :
    order.filledQty.toNat =
        tradedQty (reportedTrades (historyOn symbol (Transition.history step .new ops))) id ↔
      Transition.Along step
        (fun engine op => op.symbol = symbol → ¬(engine.book symbol).Shrinks id op) .new ops := by
  rw [book_run_new] at found
  have onBook := books_independent.along_part (fun book op => ¬book.Shrinks id op) new ops symbol
  rw [book_new] at onBook
  rw [historyOn_new, OrderBook.filledQty_run_new symbol defaultPoolSize _ found, Nat.add_eq_left,
    OrderBook.takenAlong_eq_zero_iff]
  exact onBook.symm

/-- A buy order for ten shares, and what a later call makes of it. -/
def tenShares (later : EngineOp) : List EngineOp :=
  [.submit (fun _ => 0) [65] .buy .limit (.finite 100) 10, later]

/-- Four of the ten shares are sold to it. -/
theorem filledQty_eq_traded_four :
    ∃ order, ((Transition.run step .new (tenShares (.submit (fun _ => 0) [65] .sell .limit
        (.finite 100) 4))).1.book [65]).orderAt 1 = some order ∧
      order.filledQty.toNat = tradedQty (reportedTrades (historyOn [65] (Transition.history step
        .new (tenShares (.submit (fun _ => 0) [65] .sell .limit (.finite 100) 4))))) 1 := by
  obtain ⟨order, found⟩ := Option.isSome_iff_exists.mp (show (((Transition.run step .new
    (tenShares (.submit (fun _ => 0) [65] .sell .limit (.finite 100) 4))).1.book
      [65]).orderAt 1).isSome = true by decide +kernel)
  refine ⟨order, found, (filledQty_eq_traded_iff _ [65] 1 order found).mpr ?_⟩
  refine ⟨?_, ?_, trivial⟩
  · rintro - ⟨symbol, newQuantity, shape, -⟩
    simp at shape
  · rintro - ⟨symbol, newQuantity, shape, -⟩
    simp at shape

/-- An order reduced from ten shares to four counts as filled by six, and it
has not traded. -/
theorem reduced_order_counts_as_filled :
    let ops := tenShares (.reduce [65] 1 4)
    (((Transition.run step .new ops).1.book [65]).orderAt 1).map Order.filledQty = some 6 ∧
      reportedTrades (Transition.history step .new ops) = [] := by
  decide +kernel

end MatchingEngine

end OrderBookExchange
