import OrderBookExchange.ListCounts
import OrderBookExchange.OrderFate

/-!
# A census of the accepted orders

In a run without reductions every accepted order ends in exactly one of four
ways: it rests, it was completely filled, it was cancelled, or it was a market
or IOC order whose remainder was discarded.  Counting the accepted orders of a
book by their ends gives the number of orders on it.
-/

namespace OrderBookExchange

/-- Submissions and cancels, but no reductions. -/
def EngineOp.NoReduce : EngineOp → Prop
  | .reduce _ _ _ => False
  | _ => True

instance EngineOp.decidableNoReduce : (op : EngineOp) → Decidable op.NoReduce
  | .submit .. => .isTrue trivial
  | .cancel .. => .isTrue trivial
  | .reduce .. => .isFalse id

/-- The trades of a submission add up to its quantity. -/
def filledIn (history : List (EngineOp × EngineOutput)) (submission : Submission) : Bool :=
  tradedQty (reportedTrades history) submission.id = submission.quantity.toNat

/-- A market or IOC order that was not filled. -/
def discardedIn (history : List (EngineOp × EngineOutput)) (submission : Submission) : Bool :=
  (submission.type = .market ∨ submission.type = .ioc) ∧
    tradedQty (reportedTrades history) submission.id ≠ submission.quantity.toNat

theorem tradedQty_eq_zero {trades : List Trade} {id : Nat}
    (unnamed : ∀ trade ∈ trades, ¬trade.Names id) : tradedQty trades id = 0 := by
  have none : (trades.filter fun trade => trade.Names id) = [] := by
    rw [List.filter_eq_nil_iff]
    intro trade member
    simpa using unnamed trade member
  rw [tradedQty, none]
  rfl

namespace OrderBook

variable {book : OrderBook} {id : Nat}

theorem quiet_of_untouched {history : List (EngineOp × EngineOutput)}
    (untouched : ∀ entry ∈ history,
      (∀ trade ∈ entry.2.trades, ¬trade.Names id) ∧ cancels id entry = false) :
    history.countP (cancels id) = 0 ∧ tradedQty (reportedTrades history) id = 0 := by
  constructor
  · rw [List.countP_eq_zero]
    intro entry member
    rw [(untouched entry member).2]
    exact Bool.false_ne_true
  · apply tradedQty_eq_zero
    intro trade member
    obtain ⟨entry, inHistory, traded⟩ := List.mem_flatMap.mp member
    exact (untouched entry inHistory).1 trade traded

/-- What a call that reduces nothing does to an order accepted before it. -/
theorem follow_step (linked : book.Linked) (unfilled : book.Unfilled)
    (old : id < book.nextOrderId) {op : EngineOp} (plain : op.NoReduce)
    (uncancelled : cancels id (op, (book.step op).2) = false) :
    (book.step op).1.remainingOf id + tradedQty (book.step op).2.trades id =
      book.remainingOf id := by
  cases op with
  | submit clock symbol side type price quantity =>
      by_cases rejected : rejects type price quantity = true
      · rw [step_submit_of_rejects book clock symbol side rejected]
        rfl
      · rw [step_submit_of_accepts book clock symbol side rejected]
        obtain ⟨-, -, -, balance⟩ := acceptOrder_conserved clock side type
          (effectivePrice side type price) quantity linked unfilled
        have balanced := balance id
        rw [if_neg (Nat.ne_of_lt old), if_neg (Nat.ne_of_lt old)] at balanced
        exact balanced.symm
  | cancel symbol orderId =>
      have stepEq := remainingOf_step linked unfilled old (.cancel symbol orderId)
      rw [uncancelled, if_neg Bool.false_ne_true] at stepEq
      rw [stepEq]
      rfl
  | reduce symbol orderId newQuantity => exact plain.elim

/-- An order accepted before a run is cancelled in it with something left, or
keeps what its trades do not take. -/
theorem follow_run (linked : book.Linked) (unfilled : book.Unfilled)
    (old : id < book.nextOrderId) {ops : List EngineOp} (plain : ∀ op ∈ ops, op.NoReduce) :
    let history := Transition.history step book ops
    let final := (Transition.run step book ops).1
    (history.countP (cancels id) = 0 ∧
        final.remainingOf id + tradedQty (reportedTrades history) id = book.remainingOf id) ∨
      (history.countP (cancels id) = 1 ∧ final.remainingOf id = 0 ∧
        tradedQty (reportedTrades history) id < book.remainingOf id) := by
  induction ops generalizing book with
  | nil => exact Or.inl ⟨rfl, rfl⟩
  | cons op ops ih =>
      obtain ⟨nextLinked, nextUnfilled⟩ := linked_step linked unfilled op
      have nextOld := old.trans_le (nextOrderId_le_step linked unfilled op)
      simp only [Transition.history_cons, Transition.run_cons, reportedTrades_cons,
        tradedQty_append]
      by_cases cancelled : cancels id (op, (book.step op).2) = true
      · -- The cancel finds the order, and nothing happens to it afterwards.
        right
        have stepEq := remainingOf_step linked unfilled old op
        rw [if_pos cancelled, remainingOf_eq_zero_iff nextUnfilled] at stepEq
        have present : book.remainingOf id ≠ 0 := by
          rw [ne_eq, remainingOf_eq_zero_iff unfilled]
          exact orderAt_of_cancels linked unfilled cancelled
        obtain ⟨gone, untouched⟩ := untouched_run nextLinked nextUnfilled nextOld stepEq ops
        obtain ⟨noCancels, noTrades⟩ := quiet_of_untouched fun entry member =>
          ⟨(untouched entry member).1, (untouched entry member).2.1⟩
        have ownTrades : tradedQty (book.step op).2.trades id = 0 := by
          cases op with
          | submit clock symbol side type price quantity => simp [cancels] at cancelled
          | cancel symbol orderId => rfl
          | reduce symbol orderId newQuantity => rfl
        rw [List.countP_cons_of_pos cancelled, noCancels, noTrades, ownTrades,
          remainingOf_of_none gone]
        exact ⟨rfl, rfl, by omega⟩
      · rw [List.countP_cons_of_neg cancelled]
        have first := follow_step linked unfilled old (plain op List.mem_cons_self)
          (Bool.eq_false_iff.mpr cancelled)
        rcases ih nextLinked nextUnfilled nextOld
            (fun other member => plain other (List.mem_cons_of_mem _ member)) with
          ⟨noCancels, kept⟩ | ⟨oneCancel, gone, part⟩
        · exact Or.inl ⟨noCancels, by omega⟩
        · exact Or.inr ⟨oneCancel, gone, by omega⟩

theorem nextOrderId_le_run (linked : book.Linked) (unfilled : book.Unfilled)
    (ops : List EngineOp) :
    book.nextOrderId ≤ (Transition.run step book ops).1.nextOrderId := by
  induction ops generalizing book with
  | nil => exact le_rfl
  | cons op ops ih =>
      obtain ⟨nextLinked, nextUnfilled⟩ := linked_step linked unfilled op
      exact (nextOrderId_le_step linked unfilled op).trans (ih nextLinked nextUnfilled)

theorem below_of_touched (linked : book.Linked) (unfilled : book.Unfilled) {op : EngineOp}
    (touched : (∃ trade ∈ (book.step op).2.trades, trade.Names id) ∨
      cancels id (op, (book.step op).2) = true) :
    id < (book.step op).1.nextOrderId := by
  have grows := nextOrderId_le_step linked unfilled op
  have below : book.orderAt id ≠ none → id < book.nextOrderId := by
    intro present
    by_contra fresh
    exact present (linked.orderAt_none_of_le (not_lt.mp fresh))
  rcases touched with ⟨trade, traded, named⟩ | cancelled
  · have accepted := accepted_of_traded traded
    cases op with
    | cancel symbol orderId => exact accepted.elim
    | reduce symbol orderId newQuantity => exact accepted.elim
    | submit clock symbol side type price quantity =>
        rw [step_submit_of_accepts book clock symbol side accepted] at traded grows ⊢
        obtain ⟨-, -, nextEq, -⟩ := acceptOrder_conserved clock side type
          (effectivePrice side type price) quantity linked unfilled
        rcases acceptOrder_names clock side type _ quantity linked unfilled traded named with
          own | present
        · rw [own, nextEq]
          exact Nat.lt_succ_self _
        · exact (below present).trans_le grows
  · exact (below (orderAt_of_cancels linked unfilled cancelled)).trans_le grows

theorem unissued_run (linked : book.Linked) (unfilled : book.Unfilled) (ops : List EngineOp)
    (unissued : (Transition.run step book ops).1.nextOrderId ≤ id) :
    ∀ entry ∈ Transition.history step book ops,
      (∀ trade ∈ entry.2.trades, ¬trade.Names id) ∧ cancels id entry = false := by
  intro entry member
  obtain ⟨op, output⟩ := entry
  obtain ⟨before, after, rfl, outputEq⟩ := Transition.exists_of_mem_history member
  dsimp only at outputEq
  subst outputEq
  obtain ⟨reachedLinked, reachedUnfilled⟩ := linked_run linked unfilled before
  obtain ⟨nextLinked, nextUnfilled⟩ := linked_step reachedLinked reachedUnfilled op
  have grows := nextOrderId_le_run nextLinked nextUnfilled after
  rw [Transition.run_append, Transition.run_cons] at unissued
  have untouched := mt (below_of_touched reachedLinked reachedUnfilled)
    (not_lt.mpr (grows.trans unissued))
  rw [not_or] at untouched
  refine ⟨?_, Bool.eq_false_iff.mpr untouched.2⟩
  intro trade traded named
  exact untouched.1 ⟨trade, traded, named⟩

/-- What becomes of an order submitted at the start of a run. -/
theorem follow_submit (linked : book.Linked) (unfilled : book.Unfilled) (clock : Clock)
    (symbol : Symbol) (side : Side) {type : OrderType} {price : Price} {quantity : Quantity}
    (accepted : ¬rejects type price quantity = true) (after : List EngineOp)
    (plain : ∀ op ∈ after, op.NoReduce) :
    let submitted := book.step (.submit clock symbol side type price quantity)
    let later := Transition.history step submitted.1 after
    let remaining := (Transition.run step submitted.1 after).1.remainingOf book.nextOrderId
    let traded := tradedQty submitted.2.trades book.nextOrderId +
      tradedQty (reportedTrades later) book.nextOrderId
    (type.Rests ∧
        (later.countP (cancels book.nextOrderId) = 0 ∧ remaining + traded = quantity.toNat ∨
          later.countP (cancels book.nextOrderId) = 1 ∧ remaining = 0 ∧
            traded < quantity.toNat)) ∨
      (¬type.Rests ∧ later.countP (cancels book.nextOrderId) = 0 ∧ remaining = 0) := by
  intro submitted later remaining traded
  obtain ⟨nextLinked, nextUnfilled⟩ :=
    linked_step linked unfilled (.submit clock symbol side type price quantity)
  obtain ⟨-, -, nextEq, balance⟩ := acceptOrder_conserved clock side type
    (effectivePrice side type price) quantity linked unfilled
  have shape : submitted = _ := step_submit_of_accepts book clock symbol side accepted
  have old : book.nextOrderId < submitted.1.nextOrderId := by
    rw [shape]
    exact nextEq ▸ Nat.lt_succ_self _
  by_cases rests : type.Rests
  · left
    refine ⟨rests, ?_⟩
    have started : submitted.1.remainingOf book.nextOrderId +
        tradedQty submitted.2.trades book.nextOrderId = quantity.toNat := by
      have balanced := balance book.nextOrderId
      rw [if_pos rfl, if_pos rfl, discardedQty, if_neg rests,
        remainingOf_of_none (linked.orderAt_none_of_le le_rfl), Nat.zero_add,
        Nat.add_zero] at balanced
      rw [shape]
      exact balanced.symm
    have followed : later.countP (cancels book.nextOrderId) = 0 ∧
          remaining + tradedQty (reportedTrades later) book.nextOrderId =
            submitted.1.remainingOf book.nextOrderId ∨
        later.countP (cancels book.nextOrderId) = 1 ∧ remaining = 0 ∧
          tradedQty (reportedTrades later) book.nextOrderId <
            submitted.1.remainingOf book.nextOrderId :=
      follow_run nextLinked nextUnfilled old plain
    rcases followed with ⟨noCancels, kept⟩ | ⟨oneCancel, gone, part⟩
    · exact Or.inl ⟨noCancels, by omega⟩
    · exact Or.inr ⟨oneCancel, gone, by omega⟩
  · right
    have absent : submitted.1.orderAt book.nextOrderId = none := by
      rw [shape]
      exact acceptOrder_new_gone clock side type _ quantity linked unfilled rests
    obtain ⟨gone, untouched⟩ := untouched_run nextLinked nextUnfilled old absent after
    obtain ⟨noCancels, -⟩ := quiet_of_untouched fun entry member =>
      ⟨(untouched entry member).1, (untouched entry member).2.1⟩
    exact ⟨rests, noCancels, remainingOf_of_none gone⟩

/-- What became of an accepted order, over the whole history of its book. -/
theorem submission_outcome (symbol : Symbol) (poolSize : Nat) {ops : List EngineOp}
    (plain : ∀ op ∈ ops, op.NoReduce) {submission : Submission}
    (member : submission ∈ submissions (Transition.history step (new symbol poolSize) ops)) :
    let history := Transition.history step (new symbol poolSize) ops
    let remaining := (Transition.run step (new symbol poolSize) ops).1.remainingOf submission.id
    let traded := tradedQty (reportedTrades history) submission.id
    (submission.type.Rests ∧
        (history.countP (cancels submission.id) = 0 ∧
            remaining + traded = submission.quantity.toNat ∨
          history.countP (cancels submission.id) = 1 ∧ remaining = 0 ∧
            traded < submission.quantity.toNat)) ∨
      (¬submission.type.Rests ∧ history.countP (cancels submission.id) = 0 ∧
        remaining = 0) := by
  intro history remaining traded
  obtain ⟨entry, inHistory, recorded⟩ := List.mem_filterMap.mp member
  obtain ⟨earlier, later, shape⟩ := List.append_of_mem inHistory
  obtain ⟨before, clock, after, opsEq, accepted, counter, earlierEq, outputEq, laterEq⟩ :=
    submission_split (linked_new symbol poolSize) (unfilled_new symbol poolSize) one_ne_zero shape
      recorded
  obtain ⟨reachedLinked, reachedUnfilled⟩ := linked_run_new symbol poolSize before
  -- Nothing before the submission concerns it, and what follows it is one run.
  obtain ⟨noEarlierCancels, noEarlierTrades⟩ := quiet_of_untouched (unissued_run
    (linked_new symbol poolSize) (unfilled_new symbol poolSize) before counter.le)
  rw [← earlierEq] at noEarlierCancels noEarlierTrades
  have followed := follow_submit reachedLinked reachedUnfilled clock submission.symbol
    submission.side accepted after fun op inAfter => plain op (by simp [opsEq, inAfter])
  have finalEq : (Transition.run step (new symbol poolSize) ops).1 =
      (Transition.run step ((Transition.run step (new symbol poolSize)
        before).1.step (.submit clock submission.symbol submission.side submission.type
          submission.price submission.quantity)).1 after).1 := by
    rw [opsEq, Transition.run_append, Transition.run_cons]
  dsimp only at followed
  rw [counter, ← outputEq, ← laterEq, ← finalEq] at followed
  obtain ⟨submitClock, isSubmit, -⟩ := submissionOf_eq_some recorded
  have cancelsEq : history.countP (cancels submission.id) =
      later.countP (cancels submission.id) := by
    have notCancel : ¬cancels submission.id entry = true := by
      rw [← Prod.mk.eta (p := entry), isSubmit]
      simp [cancels]
    rw [show history = _ from shape, List.countP_append, noEarlierCancels,
      List.countP_cons_of_neg notCancel, Nat.zero_add]
  have tradedEq : traded = tradedQty entry.2.trades submission.id +
      tradedQty (reportedTrades later) submission.id := by
    rw [show traded = tradedQty (reportedTrades history) submission.id from rfl,
      show history = _ from shape, reportedTrades_append, tradedQty_append, noEarlierTrades,
      reportedTrades_cons, tradedQty_append, Nat.zero_add]
  rw [cancelsEq, tradedEq]
  exact followed

/-- An accepted order ends in exactly one way. -/
theorem one_end (symbol : Symbol) (poolSize : Nat) {ops : List EngineOp}
    (plain : ∀ op ∈ ops, op.NoReduce) {submission : Submission}
    (member : submission ∈ submissions (Transition.history step (new symbol poolSize) ops)) :
    let history := Transition.history step (new symbol poolSize) ops
    let final := (Transition.run step (new symbol poolSize) ops).1
    (if (final.orderAt submission.id).isSome then 1 else 0) +
        (if filledIn history submission then 1 else 0) +
        (if discardedIn history submission then 1 else 0) +
        history.countP (cancels submission.id) = 1 := by
  intro history final
  obtain ⟨-, finalUnfilled⟩ := linked_run_new symbol poolSize ops
  have restsEq : (final.orderAt submission.id).isSome = true ↔
      final.remainingOf submission.id ≠ 0 := by
    rw [Option.isSome_iff_ne_none, ne_eq, ne_eq, remainingOf_eq_zero_iff finalUnfilled]
  simp only [filledIn, discardedIn, restsEq, decide_eq_true_eq]
  set remaining := final.remainingOf submission.id
  set traded := tradedQty (reportedTrades history) submission.id
  rcases submission_outcome symbol poolSize plain member with
    ⟨rests, ⟨noCancels, (kept : remaining + traded = submission.quantity.toNat)⟩ |
      ⟨oneCancel, gone, part⟩⟩ | ⟨immediate, noCancels, gone⟩
  · have notDiscarded : ¬((submission.type = .market ∨ submission.type = .ioc) ∧
        traded ≠ submission.quantity.toNat) := fun both => rests both.1
    rw [noCancels, if_neg notDiscarded]
    by_cases filled : traded = submission.quantity.toNat
    · rw [if_pos filled, if_neg (by omega)]
    · rw [if_neg filled, if_pos (by omega)]
  · have notDiscarded : ¬((submission.type = .market ∨ submission.type = .ioc) ∧
        traded ≠ submission.quantity.toNat) := fun both => rests both.1
    rw [oneCancel, if_neg notDiscarded, if_neg (not_not.mpr gone), if_neg part.ne]
  · rw [noCancels, if_neg (not_not.mpr gone)]
    by_cases filled : traded = submission.quantity.toNat
    · rw [if_pos filled, if_neg fun both => both.2 filled]
    · rw [if_neg filled, if_pos ⟨not_not.mp immediate, filled⟩]

/-! ### Counting a whole book -/

section Census

variable (symbol : Symbol) (poolSize : Nat)

theorem issued_of_cancels (ops : List EngineOp) {entry : EngineOp × EngineOutput}
    (member : entry ∈ Transition.history step (new symbol poolSize) ops)
    (cancelled : cancels id entry = true) :
    ∃ submission ∈ submissions (Transition.history step (new symbol poolSize) ops),
      submission.id = id := by
  rw [mem_ids_run_new]
  constructor
  · rintro rfl
    obtain ⟨-, untouched⟩ := untouched_run (linked_new symbol poolSize)
      (unfilled_new symbol poolSize) Nat.zero_lt_one (orderAt_new symbol poolSize 0) ops
    exact absurd cancelled (Bool.eq_false_iff.mp (untouched entry member).2.1)
  · by_contra unissued
    have untouched := unissued_run (linked_new symbol poolSize) (unfilled_new symbol poolSize)
      ops (not_lt.mp unissued)
    exact absurd cancelled (Bool.eq_false_iff.mp (untouched entry member).2)

theorem countP_resting (ops : List EngineOp) :
    let final := (Transition.run step (new symbol poolSize) ops).1
    (submissions (Transition.history step (new symbol poolSize) ops)).countP
        (fun submission => (final.orderAt submission.id).isSome) = final.orderCount := by
  intro final
  set ids := (submissions (Transition.history step (new symbol poolSize) ops)).map Submission.id
    with idsEq
  have nodup : ids.Nodup := by
    rw [idsEq, (ids_run_new symbol poolSize ops).2]
    exact List.nodup_range'
  have onBook : (ids.filter fun id => (final.orderAt id).isSome).toFinset =
      final.orderLookup.keys := by
    ext id
    have present : (final.orderAt id).isSome = true ↔ id ∈ final.orderLookup.keys := by
      rw [orderAt, Option.isSome_map, Finmap.mem_keys, Finmap.lookup_isSome]
    rw [List.mem_toFinset, List.mem_filter, present, and_iff_right_iff_imp, ← present]
    intro found
    obtain ⟨earlier, entry, later, submission, shape, recorded, rfl, -⟩ :=
      (orderAt_ne_none_iff symbol poolSize ops id).mp (Option.isSome_iff_ne_none.mp found)
    exact List.mem_map_of_mem (List.mem_filterMap.mpr ⟨entry, by simp [shape], recorded⟩)
  rw [orderCount, ← onBook, List.toFinset_card_of_nodup (nodup.filter _),
    ← List.countP_eq_length_filter, idsEq, List.countP_map]
  rfl

/-- The accepted orders of a book, counted by their ends. -/
theorem census (ops : List EngineOp) (plain : ∀ op ∈ ops, op.NoReduce) :
    let history := Transition.history step (new symbol poolSize) ops
    (Transition.run step (new symbol poolSize) ops).1.orderCount +
        (submissions history).countP (filledIn history) +
        (submissions history).countP (discardedIn history) +
        history.countP (fun entry => (cancelledId entry).isSome) =
      (submissions history).length := by
  intro history
  have nodup : ((submissions history).map Submission.id).Nodup := by
    rw [(ids_run_new symbol poolSize ops).2]
    exact List.nodup_range'
  have known : ∀ entry ∈ history, ∀ named, cancelledId entry = some named →
      named ∈ (submissions history).map Submission.id := by
    intro entry member named namedEq
    have cancelled : cancels named entry = true := by
      rw [cancels_eq, namedEq]
      simp
    obtain ⟨submission, submitted, rfl⟩ := issued_of_cancels symbol poolSize ops member cancelled
    exact List.mem_map_of_mem submitted
  have cancelled : ((submissions history).map fun submission =>
      history.countP (cancels submission.id)).sum =
        history.countP fun entry => (cancelledId entry).isSome := by
    have named := ListCounts.sum_countP_named cancelledId Submission.id nodup known
    simp only [← cancels_eq] at named
    exact named
  have ends : ((submissions history).map fun submission =>
      (if ((Transition.run step (new symbol poolSize) ops).1.orderAt submission.id).isSome
          then 1 else 0) +
        (if filledIn history submission then 1 else 0) +
        (if discardedIn history submission then 1 else 0) +
        history.countP (cancels submission.id)).sum = (submissions history).length := by
    rw [List.map_congr_left fun submission member => one_end symbol poolSize plain member,
      List.map_const', List.sum_replicate, smul_eq_mul, mul_one]
  simp only [List.sum_map_add, ListCounts.sum_map_indicator, cancelled] at ends
  rw [← countP_resting symbol poolSize ops]
  exact ends

end Census

end OrderBook

end OrderBookExchange
