import OrderBookExchange.OrderHistory

/-!
# What becomes of an order

The account of an order that its calls and their results give is followed over
whole runs.  An order that has left the book is never seen again: identifiers
are issued once, so a call that still names it finds nothing, whoever holds its
former place in the pool.
-/

namespace OrderBookExchange

/-- An identifier was returned for a resting order which, going by the results
since, was neither cancelled nor completely filled nor reduced to zero. -/
def LiveIn (calls : List (EngineOp × EngineOutput)) (id : Nat) : Prop :=
  ∃ earlier entry later submission, calls = earlier ++ entry :: later ∧
    submissionOf entry = some submission ∧ submission.id = id ∧
    (submission.type = .limit ∨ ¬submission.type.Declared) ∧
    (∀ other ∈ later, cancels id other = false) ∧
    openQty id (submission.quantity.toNat - tradedQty entry.2.trades id) later ≠ 0

namespace OrderBook

variable {book : OrderBook}

theorem linked_run (linked : book.Linked) (unfilled : book.Unfilled) (ops : List EngineOp) :
    (Transition.run step book ops).1.Linked ∧ (Transition.run step book ops).1.Unfilled :=
  Transition.run_of_preserved (fun book : OrderBook => book.Linked ∧ book.Unfilled)
    (fun _ op both => linked_step both.1 both.2 op) ⟨linked, unfilled⟩ ops

/-! ### Identifiers are issued in sequence -/

theorem submissionOf_submit (positive : book.nextOrderId ≠ 0) (clock : Clock) (symbol : Symbol)
    (side : Side) {type : OrderType} {price : Price} {quantity : Quantity}
    (accepted : ¬rejects type price quantity = true) :
    submissionOf (.submit clock symbol side type price quantity,
        (book.step (.submit clock symbol side type price quantity)).2) =
      some ⟨symbol, book.nextOrderId, side, type, price, quantity⟩ := by
  rw [step_submit_of_accepts book clock symbol side accepted, submissionOf, if_neg positive]

theorem accepted_of_traded {op : EngineOp} {trade : Trade}
    (traded : trade ∈ (book.step op).2.trades) : op.Accepted := by
  cases op with
  | submit clock symbol side type price quantity =>
      intro rejected
      rw [step_submit_of_rejects book clock symbol side rejected] at traded
      simp [EngineOutput.trades] at traded
  | cancel symbol orderId => simp [step_cancel, EngineOutput.trades] at traded
  | reduce symbol orderId newQuantity => simp [step_reduce, EngineOutput.trades] at traded

theorem submissionOf_step (linked : book.Linked) (unfilled : book.Unfilled)
    (positive : book.nextOrderId ≠ 0) (op : EngineOp) :
    (submissionOf (op, (book.step op).2) = none ∧
        (book.step op).1.nextOrderId = book.nextOrderId) ∨
      ∃ clock symbol side type price quantity,
        op = .submit clock symbol side type price quantity ∧
          ¬rejects type price quantity = true ∧
          submissionOf (op, (book.step op).2) =
            some ⟨symbol, book.nextOrderId, side, type, price, quantity⟩ ∧
          (book.step op).1.nextOrderId = book.nextOrderId + 1 := by
  cases op with
  | submit clock symbol side type price quantity =>
      by_cases rejected : rejects type price quantity = true
      · left
        rw [step_submit_of_rejects book clock symbol side rejected]
        exact ⟨rfl, rfl⟩
      · right
        obtain ⟨-, -, nextEq, -⟩ := acceptOrder_conserved clock side type
          (effectivePrice side type price) quantity linked unfilled
        refine ⟨clock, symbol, side, type, price, quantity, rfl, rejected,
          submissionOf_submit positive clock symbol side rejected, ?_⟩
        rw [step_submit_of_accepts book clock symbol side rejected]
        exact nextEq
  | cancel symbol orderId =>
      exact Or.inl ⟨rfl, (cancelOrder_conserved linked unfilled orderId).2.2.1⟩
  | reduce symbol orderId newQuantity =>
      exact Or.inl ⟨rfl, (reduceOrder_conserved linked unfilled orderId newQuantity).2.2.1⟩

/-- A run issues the identifiers between the counters before and after it, in
order. -/
theorem ids_run (linked : book.Linked) (unfilled : book.Unfilled)
    (positive : book.nextOrderId ≠ 0) (ops : List EngineOp) :
    (Transition.run step book ops).1.nextOrderId =
        book.nextOrderId + (submissions (Transition.history step book ops)).length ∧
      (submissions (Transition.history step book ops)).map Submission.id =
        List.range' book.nextOrderId
          (submissions (Transition.history step book ops)).length := by
  induction ops generalizing book with
  | nil => exact ⟨rfl, rfl⟩
  | cons op ops ih =>
      obtain ⟨nextLinked, nextUnfilled⟩ := linked_step linked unfilled op
      have grows := nextOrderId_le_step linked unfilled op
      obtain ⟨counted, issued⟩ := ih nextLinked nextUnfilled (by omega)
      rw [Transition.run_cons, Transition.history_cons, submissions, List.filterMap_cons]
      rw [submissions] at counted issued
      rcases submissionOf_step linked unfilled positive op with
        ⟨nothing, same⟩ | ⟨clock, symbol, side, type, price, quantity, -, -, issues, next⟩
      · rw [nothing]
        rw [same] at counted issued
        exact ⟨counted, issued⟩
      · rw [issues]
        rw [next] at counted issued
        dsimp only
        rw [List.length_cons, List.map_cons, issued, counted, List.range'_succ]
        exact ⟨by omega, rfl⟩

/-- A recorded submission was made, and accepted, when the counter stood at its
identifier. -/
theorem submission_split (linked : book.Linked) (unfilled : book.Unfilled)
    (positive : book.nextOrderId ≠ 0) {ops : List EngineOp}
    {earlier later : List (EngineOp × EngineOutput)} {entry : EngineOp × EngineOutput}
    (shape : Transition.history step book ops = earlier ++ entry :: later)
    {submission : Submission} (recorded : submissionOf entry = some submission) :
    ∃ before clock after,
      let reached := (Transition.run step book before).1
      let submitted := reached.step (.submit clock submission.symbol submission.side
        submission.type submission.price submission.quantity)
      ops = before ++ .submit clock submission.symbol submission.side submission.type
          submission.price submission.quantity :: after ∧
        ¬rejects submission.type submission.price submission.quantity = true ∧
        reached.nextOrderId = submission.id ∧
        earlier = Transition.history step book before ∧ entry.2 = submitted.2 ∧
        later = Transition.history step submitted.1 after := by
  obtain ⟨op, output⟩ := entry
  obtain ⟨before, after, opsEq, earlierEq, outputEq, laterEq⟩ :=
    Transition.history_eq_append shape
  obtain ⟨reachedLinked, reachedUnfilled⟩ := linked_run linked unfilled before
  have reachedPositive : (Transition.run step book before).1.nextOrderId ≠ 0 := by
    rw [(ids_run linked unfilled positive before).1]
    omega
  dsimp only at opsEq outputEq laterEq
  rw [outputEq] at recorded
  rcases submissionOf_step reachedLinked reachedUnfilled reachedPositive op with
    ⟨nothing, -⟩ | ⟨clock, symbol, side, type, price, quantity, rfl, accepted, issues, -⟩
  · rw [nothing] at recorded
    simp at recorded
  · rw [issues, Option.some.injEq] at recorded
    subst recorded
    exact ⟨before, clock, after, opsEq, accepted, rfl, earlierEq, outputEq, laterEq⟩

/-! ### Orders over a run -/

section Follow

variable {id : Nat}

/-- An order that has left the book stays away, and no call finds it. -/
theorem untouched_run (linked : book.Linked) (unfilled : book.Unfilled)
    (old : id < book.nextOrderId) (gone : book.orderAt id = none) (ops : List EngineOp) :
    (Transition.run step book ops).1.orderAt id = none ∧
      ∀ entry ∈ Transition.history step book ops,
        (∀ trade ∈ entry.2.trades, ¬trade.Names id) ∧ cancels id entry = false ∧
          ∀ symbol newQuantity, entry.1 = .reduce symbol id newQuantity →
            entry.2 = .reduced false := by
  induction ops generalizing book with
  | nil => exact ⟨gone, by simp⟩
  | cons op ops ih =>
      obtain ⟨nextLinked, nextUnfilled⟩ := linked_step linked unfilled op
      obtain ⟨stillGone, first⟩ := untouched_step linked unfilled old gone op
      obtain ⟨finallyGone, rest⟩ := ih nextLinked nextUnfilled
        (old.trans_le (nextOrderId_le_step linked unfilled op)) stillGone
      refine ⟨finallyGone, ?_⟩
      intro entry member
      rcases List.mem_cons.mp member with rfl | later
      · exact first
      · exact rest entry later

/-- What the results of a run leave open of an order accepted before it is what
the book holds of it at the end. -/
theorem remainingOf_run (linked : book.Linked) (unfilled : book.Unfilled)
    (old : id < book.nextOrderId) (ops : List EngineOp) :
    (Transition.run step book ops).1.remainingOf id =
      if ∀ entry ∈ Transition.history step book ops, cancels id entry = false then
        openQty id (book.remainingOf id) (Transition.history step book ops)
      else 0 := by
  induction ops generalizing book with
  | nil => simp [openQty]
  | cons op ops ih =>
      obtain ⟨nextLinked, nextUnfilled⟩ := linked_step linked unfilled op
      have nextOld := old.trans_le (nextOrderId_le_step linked unfilled op)
      have stepEq := remainingOf_step linked unfilled old op
      rw [Transition.run_cons, Transition.history_cons]
      by_cases cancelled : cancels id (op, (book.step op).2) = true
      · rw [if_pos cancelled, remainingOf_eq_zero_iff nextUnfilled] at stepEq
        rw [if_neg (by simp [cancelled])]
        exact remainingOf_of_none (untouched_run nextLinked nextUnfilled nextOld stepEq ops).1
      · rw [if_neg cancelled] at stepEq
        simp only [List.forall_mem_cons, cancelled, true_and]
        rw [ih nextLinked nextUnfilled nextOld, stepEq]
        rfl

/-- What a run leaves of an order submitted at its start. -/
theorem remainingOf_since (linked : book.Linked) (unfilled : book.Unfilled) (clock : Clock)
    (symbol : Symbol) (side : Side) {type : OrderType} {price : Price} {quantity : Quantity}
    (accepted : ¬rejects type price quantity = true) (after : List EngineOp) :
    let submitted := book.step (.submit clock symbol side type price quantity)
    let later := Transition.history step submitted.1 after
    (Transition.run step submitted.1 after).1.remainingOf book.nextOrderId =
      if type.Rests ∧ ∀ entry ∈ later, cancels book.nextOrderId entry = false then
        openQty book.nextOrderId
          (quantity.toNat - tradedQty submitted.2.trades book.nextOrderId) later
      else 0 := by
  intro submitted later
  obtain ⟨nextLinked, nextUnfilled⟩ :=
    linked_step linked unfilled (.submit clock symbol side type price quantity)
  obtain ⟨-, -, nextEq, -⟩ := acceptOrder_conserved clock side type
    (effectivePrice side type price) quantity linked unfilled
  have shape : submitted = _ := step_submit_of_accepts book clock symbol side accepted
  have old : book.nextOrderId < submitted.1.nextOrderId := by
    rw [shape]
    exact nextEq ▸ Nat.lt_succ_self _
  by_cases rests : type.Rests
  · have left : submitted.1.remainingOf book.nextOrderId =
        quantity.toNat - tradedQty submitted.2.trades book.nextOrderId := by
      rw [shape]
      exact acceptOrder_new_rests clock side type _ quantity linked unfilled rests
    rw [remainingOf_run nextLinked nextUnfilled old, left]
    simp only [rests, true_and]
    rfl
  · have gone : submitted.1.orderAt book.nextOrderId = none := by
      rw [shape]
      exact acceptOrder_new_gone clock side type _ quantity linked unfilled rests
    rw [if_neg fun both => rests both.1]
    exact remainingOf_of_none (untouched_run nextLinked nextUnfilled old gone after).1

/-- What a run leaves of an order, by the account of the calls since its
submission. -/
theorem remainingOf_of_split (linked : book.Linked) (unfilled : book.Unfilled)
    (positive : book.nextOrderId ≠ 0) {ops : List EngineOp}
    {earlier later : List (EngineOp × EngineOutput)} {entry : EngineOp × EngineOutput}
    (shape : Transition.history step book ops = earlier ++ entry :: later)
    {submission : Submission} (recorded : submissionOf entry = some submission) :
    (Transition.run step book ops).1.remainingOf submission.id =
      if submission.type.Rests ∧ ∀ other ∈ later, cancels submission.id other = false then
        openQty submission.id
          (submission.quantity.toNat - tradedQty entry.2.trades submission.id) later
      else 0 := by
  obtain ⟨before, clock, after, opsEq, accepted, counter, -, outputEq, laterEq⟩ :=
    submission_split linked unfilled positive shape recorded
  obtain ⟨reachedLinked, reachedUnfilled⟩ := linked_run linked unfilled before
  have since := remainingOf_since reachedLinked reachedUnfilled clock submission.symbol
    submission.side accepted after
  rw [opsEq, Transition.run_append, Transition.run_cons, outputEq, laterEq, ← counter]
  exact since

theorem cancels_once (linked : book.Linked) (unfilled : book.Unfilled) (ops : List EngineOp) :
    (Transition.history step book ops).countP (cancels id) ≤ 1 := by
  induction ops generalizing book with
  | nil => simp
  | cons op ops ih =>
      obtain ⟨nextLinked, nextUnfilled⟩ := linked_step linked unfilled op
      rw [Transition.history_cons]
      by_cases cancelled : cancels id (op, (book.step op).2) = true
      · have old : id < book.nextOrderId := by
          by_contra fresh
          exact orderAt_of_cancels linked unfilled cancelled
            (linked.orderAt_none_of_le (not_lt.mp fresh))
        have stepEq := remainingOf_step linked unfilled old op
        rw [if_pos cancelled, remainingOf_eq_zero_iff nextUnfilled] at stepEq
        have untouched := (untouched_run nextLinked nextUnfilled
          (old.trans_le (nextOrderId_le_step linked unfilled op)) stepEq ops).2
        have noMore : (Transition.history step (book.step op).1 ops).countP (cancels id) = 0 := by
          rw [List.countP_eq_zero]
          intro entry member
          rw [(untouched entry member).2.1]
          exact Bool.false_ne_true
        rw [List.countP_cons_of_pos cancelled, noMore]
      · rw [List.countP_cons_of_neg cancelled]
        exact ih nextLinked nextUnfilled

end Follow

/-! ### From the first call on -/

section FromNew

variable (symbol : Symbol) (poolSize : Nat)

theorem unfilled_new : (new symbol poolSize).Unfilled := by
  intro id order found
  simp at found

theorem linked_run_new (ops : List EngineOp) :
    (Transition.run step (new symbol poolSize) ops).1.Linked ∧
      (Transition.run step (new symbol poolSize) ops).1.Unfilled :=
  linked_run (linked_new symbol poolSize) (unfilled_new symbol poolSize) ops

theorem ids_run_new (ops : List EngineOp) :
    (Transition.run step (new symbol poolSize) ops).1.nextOrderId =
        1 + (submissions (Transition.history step (new symbol poolSize) ops)).length ∧
      (submissions (Transition.history step (new symbol poolSize) ops)).map Submission.id =
        List.range' 1
          (submissions (Transition.history step (new symbol poolSize) ops)).length :=
  ids_run (linked_new symbol poolSize) (unfilled_new symbol poolSize) one_ne_zero ops

theorem nextOrderId_run_ne_zero (ops : List EngineOp) :
    (Transition.run step (new symbol poolSize) ops).1.nextOrderId ≠ 0 := by
  rw [(ids_run_new symbol poolSize ops).1]
  omega

theorem mem_ids_run_new (ops : List EngineOp) (id : Nat) :
    (∃ submission ∈ submissions (Transition.history step (new symbol poolSize) ops),
        submission.id = id) ↔
      id ≠ 0 ∧ id < (Transition.run step (new symbol poolSize) ops).1.nextOrderId := by
  obtain ⟨counted, issued⟩ := ids_run_new symbol poolSize ops
  have listed := congrArg (id ∈ ·) issued
  simp only [List.mem_map, List.mem_range'_1] at listed
  rw [propext_iff] at listed
  rw [listed, counted]
  omega

theorem submission_unique (ops : List EngineOp) {first second : Submission}
    (firstMem : first ∈ submissions (Transition.history step (new symbol poolSize) ops))
    (secondMem : second ∈ submissions (Transition.history step (new symbol poolSize) ops))
    (same : first.id = second.id) : first = second := by
  have nodup : ((submissions (Transition.history step (new symbol poolSize) ops)).map
      Submission.id).Nodup := by
    rw [(ids_run_new symbol poolSize ops).2]
    exact List.nodup_range'
  exact List.inj_on_of_nodup_map nodup firstMem secondMem same

/-- The orders on the book are the ones that the results of all calls so far
leave alive. -/
theorem orderAt_ne_none_iff (ops : List EngineOp) (id : Nat) :
    (Transition.run step (new symbol poolSize) ops).1.orderAt id ≠ none ↔
      LiveIn (Transition.history step (new symbol poolSize) ops) id := by
  obtain ⟨finalLinked, finalUnfilled⟩ := linked_run_new symbol poolSize ops
  constructor
  · intro present
    have issued : ∃ submission ∈ submissions
        (Transition.history step (new symbol poolSize) ops), submission.id = id := by
      rw [mem_ids_run_new]
      refine ⟨?_, ?_⟩
      · rintro rfl
        exact present (untouched_run (linked_new symbol poolSize)
          (unfilled_new symbol poolSize) Nat.zero_lt_one (orderAt_new symbol poolSize 0) ops).1
      · by_contra fresh
        exact present (finalLinked.orderAt_none_of_le (not_lt.mp fresh))
    obtain ⟨submission, member, rfl⟩ := issued
    obtain ⟨entry, inHistory, recorded⟩ := List.mem_filterMap.mp member
    obtain ⟨earlier, later, shape⟩ := List.append_of_mem inHistory
    rw [ne_eq, ← remainingOf_eq_zero_iff finalUnfilled, remainingOf_of_split
      (linked_new symbol poolSize) (unfilled_new symbol poolSize) one_ne_zero shape
      recorded] at present
    split at present
    · next alive =>
        exact ⟨earlier, entry, later, submission, shape, recorded, rfl,
          (OrderType.rests_iff _).mp alive.1, alive.2, present⟩
    · exact absurd rfl present
  · rintro ⟨earlier, entry, later, submission, shape, recorded, rfl, rests, uncancelled, left⟩
    rw [ne_eq, ← remainingOf_eq_zero_iff finalUnfilled, remainingOf_of_split
      (linked_new symbol poolSize) (unfilled_new symbol poolSize) one_ne_zero shape recorded,
      if_pos ⟨(OrderType.rests_iff _).mpr rests, uncancelled⟩]
    exact left

end FromNew

end OrderBook

namespace MatchingEngine

theorem historyOn_new (ops : List EngineOp) (symbol : Symbol) :
    historyOn symbol (Transition.history step .new ops) =
      Transition.history OrderBook.step (.new symbol defaultPoolSize) (callsOn symbol ops) := by
  rw [← book_new]
  exact history_on .new ops symbol

theorem book_run_new (ops : List EngineOp) (symbol : Symbol) :
    (Transition.run step .new ops).1.book symbol =
      (Transition.run OrderBook.step (.new symbol defaultPoolSize) (callsOn symbol ops)).1 := by
  rw [← book_new]
  exact book_run .new ops symbol

theorem submission_unique (ops : List EngineOp) {first second : Submission}
    (firstMem : first ∈ submissions (Transition.history step .new ops))
    (secondMem : second ∈ submissions (Transition.history step .new ops))
    (sameSymbol : first.symbol = second.symbol) (sameId : first.id = second.id) :
    first = second := by
  have firstOn := mem_submissions_historyOn.mpr ⟨firstMem, sameSymbol⟩
  have secondOn := mem_submissions_historyOn.mpr ⟨secondMem, rfl⟩
  rw [historyOn_new] at firstOn secondOn
  exact OrderBook.submission_unique _ _ _ firstOn secondOn sameId

theorem cancelOrder_eq_true_iff {engine : MatchingEngine} (linked : engine.Linked)
    (symbol : Symbol) (id : Nat) :
    (engine.cancelOrder symbol id).2 = true ↔ (engine.book symbol).orderAt id ≠ none := by
  obtain ⟨bookLinked, bookUnfilled⟩ := linked symbol
  rw [(book_cancelOrder engine symbol symbol id).2,
    (OrderBook.cancelOrder_conserved bookLinked bookUnfilled id).2.2.2.1]
  exact Option.isSome_iff_ne_none

/-- A cancel succeeds exactly for an order that an earlier call on the symbol
left resting and that no call since has filled, cancelled or reduced to zero.
It succeeds at most once, and once an accepted order has left the book no trade
names it again and no cancel or reduction of it succeeds. -/
theorem dead_orders_stay_dead (ops : List EngineOp) (symbol : Symbol) (id : Nat) :
    let engine := (Transition.run step .new ops).1
    let calls := historyOn symbol (Transition.history step .new ops)
    ((engine.cancelOrder symbol id).2 = true ↔ LiveIn calls id) ∧
      calls.countP (cancels id) ≤ 1 ∧
      ((∃ submission ∈ submissions calls, submission.id = id) → ¬LiveIn calls id →
        ∀ more, ∀ entry ∈ historyOn symbol (Transition.history step engine more),
          (∀ trade ∈ entry.2.trades, ¬trade.Names id) ∧ cancels id entry = false ∧
            ∀ newQuantity, entry.1 = .reduce symbol id newQuantity →
              entry.2 = .reduced false) := by
  intro engine calls
  have callsEq : calls = _ := historyOn_new ops symbol
  have bookEq : engine.book symbol = _ := book_run_new ops symbol
  have alive : (engine.book symbol).orderAt id ≠ none ↔ LiveIn calls id := by
    rw [bookEq, callsEq]
    exact OrderBook.orderAt_ne_none_iff symbol defaultPoolSize (callsOn symbol ops) id
  refine ⟨(cancelOrder_eq_true_iff (linked_new.run ops) symbol id).trans alive, ?_, ?_⟩
  · rw [callsEq]
    exact OrderBook.cancels_once (OrderBook.linked_new symbol defaultPoolSize)
      (OrderBook.unfilled_new symbol defaultPoolSize) (callsOn symbol ops)
  · intro issued dead more entry member
    obtain ⟨bookLinked, bookUnfilled⟩ := linked_new.run ops symbol
    have gone : (engine.book symbol).orderAt id = none := not_not.mp (mt alive.mp dead)
    rw [callsEq, OrderBook.mem_ids_run_new, ← bookEq] at issued
    rw [historyOn, history_on] at member
    obtain ⟨unnamed, uncancelled, unreduced⟩ := (OrderBook.untouched_run bookLinked bookUnfilled
      issued.2 gone (callsOn symbol more)).2 entry member
    exact ⟨unnamed, uncancelled, unreduced symbol⟩

/-- A bid that is sold out: it was live, the sale ends it, and neither a cancel
nor a reduction finds it afterwards. -/
theorem dead_orders_stay_dead_sold :
    let ops : List EngineOp :=
      [.submit id [65] .buy .limit (.finite 100) 4, .submit id [65] .sell .ioc (.finite 99) 4]
    let engine := (Transition.run step .new ops).1
    (MatchingEngine.cancelOrder (Transition.run step .new (ops.take 1)).1 [65] 1).2 = true ∧
      (engine.cancelOrder [65] 1).2 = false ∧
      ∀ more, ∀ entry ∈ historyOn [65] (Transition.history step engine more),
        (∀ trade ∈ entry.2.trades, ¬trade.Names 1) ∧ cancels 1 entry = false ∧
          ∀ newQuantity, entry.1 = .reduce [65] 1 newQuantity → entry.2 = .reduced false := by
  intro ops engine
  obtain ⟨found, -, untouched⟩ := dead_orders_stay_dead ops [65] 1
  have refused : (engine.cancelOrder [65] 1).2 = false := by decide +kernel
  refine ⟨by decide +kernel, refused, untouched ?_ ?_⟩
  · decide +kernel
  · rw [← found]
    exact Bool.eq_false_iff.mp refused

end MatchingEngine

end OrderBookExchange
