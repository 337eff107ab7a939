import OrderBookExchange.LimitProtection

/-!
# What an order identifier identifies

Identifiers are issued by the books, and every book starts at one.  A trade
carries two identifiers and no symbol, so it names its orders only in an engine
all of whose accepted orders are for one symbol.
-/

namespace OrderBookExchange

namespace MatchingEngine

theorem exists_submission_iff (ops : List EngineOp) (symbol : Symbol) :
    (∃ submission ∈ submissions (Transition.history step .new ops),
        submission.symbol = symbol) ↔
      ∃ op ∈ ops, op.Accepted ∧ op.symbol = symbol := by
  constructor
  · rintro ⟨submission, member, rfl⟩
    have onSymbol := mem_submissions_historyOn.mpr ⟨member, rfl⟩
    rw [historyOn_new] at onSymbol
    obtain ⟨entry, inHistory, recorded⟩ := List.mem_filterMap.mp onSymbol
    obtain ⟨earlier, later, shape⟩ := List.append_of_mem inHistory
    obtain ⟨before, clock, after, callsEq, accepted, -⟩ := OrderBook.submission_split
      (OrderBook.linked_new _ _) (OrderBook.unfilled_new _ _) one_ne_zero shape recorded
    have called : _ ∈ callsOn submission.symbol ops :=
      callsEq ▸ List.mem_append_right before List.mem_cons_self
    exact ⟨_, (List.mem_filter.mp called).1, accepted, rfl⟩
  · rintro ⟨op, member, accepted, rfl⟩
    have called : op ∈ callsOn op.symbol ops := List.mem_filter.mpr ⟨member, by simp⟩
    obtain ⟨before, after, callsEq⟩ := List.append_of_mem called
    have historyEq := historyOn_new ops op.symbol
    rw [callsEq, Transition.history_append, Transition.history_cons] at historyEq
    have positive := OrderBook.nextOrderId_run_ne_zero op.symbol defaultPoolSize before
    cases op with
    | cancel symbol orderId => exact accepted.elim
    | reduce symbol orderId newQuantity => exact accepted.elim
    | submit clock symbol side type price quantity =>
        have issues := OrderBook.submissionOf_submit positive clock symbol side accepted
        have recorded : Submission.mk symbol _ side type price quantity ∈
            submissions (historyOn symbol (Transition.history step .new ops)) :=
          historyEq ▸ List.mem_filterMap.mpr
            ⟨_, List.mem_append_right _ List.mem_cons_self, issues⟩
        exact ⟨_, (mem_submissions_historyOn.mp recorded).1, rfl⟩

theorem first_id (ops : List EngineOp) {submission : Submission}
    (member : submission ∈ submissions (Transition.history step .new ops)) :
    ∃ first ∈ submissions (Transition.history step .new ops),
      first.symbol = submission.symbol ∧ first.id = 1 := by
  have onSymbol := mem_submissions_historyOn.mpr ⟨member, rfl⟩
  rw [historyOn_new] at onSymbol
  have issued : ∃ first ∈ submissions (Transition.history OrderBook.step
      (.new submission.symbol defaultPoolSize) (callsOn submission.symbol ops)),
        first.id = 1 := by
    rw [OrderBook.mem_ids_run_new, (OrderBook.ids_run_new _ _ _).1]
    have positive := List.length_pos_of_mem onSymbol
    exact ⟨one_ne_zero, by omega⟩
  obtain ⟨first, firstMem, idEq⟩ := issued
  rw [← historyOn_new, mem_submissions_historyOn] at firstMem
  exact ⟨first, firstMem.1, firstMem.2, idEq⟩

theorem nodup_ids_of_one_symbol (ops : List EngineOp)
    (sameSymbol : ∀ first ∈ submissions (Transition.history step .new ops),
      ∀ second ∈ submissions (Transition.history step .new ops), first.symbol = second.symbol) :
    ((submissions (Transition.history step .new ops)).map Submission.id).Nodup := by
  cases shape : submissions (Transition.history step .new ops) with
  | nil => exact List.nodup_nil
  | cons head rest =>
      rw [← shape]
      have all : ∀ submission ∈ submissions (Transition.history step .new ops),
          decide (submission.symbol = head.symbol) = true := by
        intro submission member
        exact decide_eq_true (sameSymbol submission member head (by simp [shape]))
      rw [← List.filter_eq_self.mpr all, ← submissions_historyOn, historyOn_new,
        (OrderBook.ids_run_new _ _ _).2]
      exact List.nodup_range'

/-- Identifiers are unique, and those of a trade each name one order, exactly
in the runs whose accepted submissions are all for one symbol. -/
theorem ids_identify_iff_one_symbol (ops : List EngineOp) :
    let history := Transition.history step .new ops
    (((submissions history).map Submission.id).Nodup ∧
        ∀ entry ∈ history, ∀ trade ∈ entry.2.trades,
          (∃! buyer, buyer ∈ submissions history ∧ buyer.id = trade.buyOrderId) ∧
            ∃! seller, seller ∈ submissions history ∧ seller.id = trade.sellOrderId) ↔
      ∀ first ∈ ops, ∀ second ∈ ops, first.Accepted → second.Accepted →
        first.symbol = second.symbol := by
  intro history
  constructor
  · rintro ⟨nodup, -⟩ first firstMem second secondMem firstAccepted secondAccepted
    obtain ⟨firstSubmission, firstRecorded, firstSymbol⟩ :=
      (exists_submission_iff ops first.symbol).mpr ⟨first, firstMem, firstAccepted, rfl⟩
    obtain ⟨secondSubmission, secondRecorded, secondSymbol⟩ :=
      (exists_submission_iff ops second.symbol).mpr ⟨second, secondMem, secondAccepted, rfl⟩
    obtain ⟨one, oneMem, oneSymbol, oneId⟩ := first_id ops firstRecorded
    obtain ⟨other, otherMem, otherSymbol, otherId⟩ := first_id ops secondRecorded
    have same : one = other :=
      List.inj_on_of_nodup_map nodup oneMem otherMem (oneId.trans otherId.symm)
    rw [← firstSymbol, ← oneSymbol, same, otherSymbol, secondSymbol]
  · intro oneSymbol
    have sameSymbol : ∀ first ∈ submissions history, ∀ second ∈ submissions history,
        first.symbol = second.symbol := by
      intro first firstMem second secondMem
      obtain ⟨firstOp, firstCalled, firstAccepted, firstNamed⟩ :=
        (exists_submission_iff ops first.symbol).mp ⟨first, firstMem, rfl⟩
      obtain ⟨secondOp, secondCalled, secondAccepted, secondNamed⟩ :=
        (exists_submission_iff ops second.symbol).mp ⟨second, secondMem, rfl⟩
      rw [← firstNamed, ← secondNamed]
      exact oneSymbol firstOp firstCalled secondOp secondCalled firstAccepted secondAccepted
    have nodup := nodup_ids_of_one_symbol ops sameSymbol
    have unique : ∀ {first second}, first ∈ submissions history → second ∈ submissions history →
        first.id = second.id → first = second :=
      fun firstMem secondMem => List.inj_on_of_nodup_map nodup firstMem secondMem
    refine ⟨nodup, ?_⟩
    intro entry member trade traded
    have onSymbol : entry ∈ historyOn entry.1.symbol history :=
      List.mem_filter.mpr ⟨member, by simp⟩
    rw [historyOn_new] at onSymbol
    obtain ⟨buyer, buyerMem, seller, sellerMem, protects⟩ :=
      OrderBook.run_protects _ _ onSymbol traded
    rw [← historyOn_new, mem_submissions_historyOn] at buyerMem sellerMem
    refine ⟨⟨buyer, ⟨buyerMem.1, protects.buyerId⟩, ?_⟩,
      ⟨seller, ⟨sellerMem.1, protects.sellerId⟩, ?_⟩⟩
    · rintro other ⟨otherMem, otherId⟩
      exact unique otherMem buyerMem.1 (otherId.trans protects.buyerId.symm)
    · rintro other ⟨otherMem, otherId⟩
      exact unique otherMem sellerMem.1 (otherId.trans protects.sellerId.symm)

/-- Two books each trade their first two orders: four accepted orders share two
identifiers, and two trades for different symbols carry the same pair. -/
theorem ids_repeat_across_symbols :
    let ops : List EngineOp :=
      [.submit id [65] .sell .limit (.finite 100) 5, .submit id [65] .buy .limit (.finite 100) 5,
        .submit id [66] .sell .limit (.finite 7) 1, .submit id [66] .buy .limit (.finite 7) 1]
    let history := Transition.history step .new ops
    ¬((submissions history).map Submission.id).Nodup ∧
      (history.flatMap fun entry => entry.2.trades.map fun trade =>
        (entry.1.symbol, trade.buyOrderId, trade.sellOrderId)) =
          [([65], 2, 1), ([66], 2, 1)] := by
  decide +kernel

end MatchingEngine

end OrderBookExchange
