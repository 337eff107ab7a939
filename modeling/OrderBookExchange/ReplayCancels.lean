import OrderBookExchange.ReplayHarness
import OrderBookExchange.RestingOrders

/-!
# What a cancel row removes

A new order row that the risk checker rejects leaves no entry in the map, so a
later cancel row for it falls back to the tape identifier, which may be the
engine identifier of an unrelated order.  This is the only way for a cancel row
to remove an order that its own new order row did not submit.
-/

namespace OrderBookExchange

namespace ReplayHarness

/-- The tape identifiers of the new order rows. -/
def newIds (rows : List (ReplayEvent × Clock)) : List Nat :=
  (rows.filter fun row => row.1.isNew).map fun row => row.1.orderId

/-- The order with an identifier was on the book of a symbol and no longer is. -/
def Removed (before after : MatchingEngine) (symbol : Symbol) (id : Nat) : Prop :=
  (before.book symbol).orderAt id ≠ none ∧ (after.book symbol).orderAt id = none

/-- The checker's verdict on a new order row. -/
def verdict (harness : ReplayHarness) (event : ReplayEvent) : RejectReason :=
  (riskGate harness.risk event.symbol event.side event.type event.price event.quantity).2

/-! ### The identifier map -/

theorem idMap_step_of_ne (harness : ReplayHarness) (row : ReplayEvent × Clock) {id : Nat}
    (other : row.1.isNew = true → row.1.orderId ≠ id) :
    (harness.step row).1.idMap id = harness.idMap id := by
  unfold step
  dsimp only
  split
  · next isNew =>
      unfold replayNew
      dsimp only
      split
      · rfl
      · split
        · exact Function.update_of_ne (fun same => other isNew same.symm) _ _
        · rfl
  · split <;> rfl

theorem idMap_run_of_not_mem (harness : ReplayHarness) {rows : List (ReplayEvent × Clock)}
    {id : Nat} (absent : id ∉ newIds rows) :
    (Transition.run step harness rows).1.idMap id = harness.idMap id := by
  induction rows generalizing harness with
  | nil => rfl
  | cons row rows ih =>
      have rowOther : row.1.isNew = true → row.1.orderId ≠ id := by
        intro isNew same
        exact absent (by simp [newIds, isNew, same])
      have restAbsent : id ∉ newIds rows := by
        intro later
        apply absent
        cases isNew : row.1.isNew
        · simpa [newIds, isNew] using later
        · simpa [newIds, isNew] using Or.inr later
      rw [Transition.run_cons, ih _ restAbsent, idMap_step_of_ne harness row rowOther]

/-- A new order row that passes the gate maps its tape identifier to what the
engine returned. -/
theorem idMap_step_of_accepted (harness : ReplayHarness) {row : ReplayEvent × Clock}
    (isNew : row.1.isNew = true) (nonzero : row.1.orderId ≠ 0)
    (accepted : harness.verdict row.1 = .none) :
    ∃ id, (harness.step row).2 = some id ∧ (harness.step row).1.idMap row.1.orderId = some id := by
  unfold verdict at accepted
  refine ⟨(harness.engine.submitOrder row.2 row.1.symbol row.1.side row.1.type row.1.price
    row.1.quantity).2.1, ?_, ?_⟩
  · simp [step, isNew, replayNew, accepted]
  · simp [step, isNew, replayNew, accepted, nonzero]

theorem step_of_rejected (harness : ReplayHarness) {row : ReplayEvent × Clock}
    (isNew : row.1.isNew = true) (rejected : harness.verdict row.1 ≠ .none) :
    (harness.step row).2 = none ∧ (harness.step row).1.idMap = harness.idMap := by
  unfold verdict at rejected
  simp [step, isNew, replayNew, rejected]

/-! ### Books along a replay -/

theorem numbered_step {harness : ReplayHarness} (numbered : harness.engine.Numbered)
    (row : ReplayEvent × Clock) : (harness.step row).1.engine.Numbered := by
  unfold step
  dsimp only
  split
  · unfold replayNew
    dsimp only
    split
    · exact numbered
    · exact numbered.submitOrder row.2 _ _ _ _ _
  · split
    · exact numbered.cancelOrder _ _
    · exact numbered

theorem numbered_run {harness : ReplayHarness} (numbered : harness.engine.Numbered)
    (rows : List (ReplayEvent × Clock)) :
    (Transition.run step harness rows).1.engine.Numbered :=
  Transition.run_of_preserved (fun reached : ReplayHarness => reached.engine.Numbered)
    (fun _ row numbered => numbered_step numbered row) numbered rows

/-- A cancel row removes the order it aims at, and only if that order is on the
book of its symbol. -/
theorem removed_iff {harness : ReplayHarness} (numbered : harness.engine.Numbered)
    {row : ReplayEvent × Clock} (isCancel : row.1.isCancel = true) (symbol : Symbol) (id : Nat) :
    Removed harness.engine (harness.step row).1.engine symbol id ↔
      symbol = row.1.symbol ∧ id = harness.target row.1 ∧
        (harness.engine.book row.1.symbol).orderAt (harness.target row.1) ≠ none := by
  have notNew : row.1.isNew = false := by
    simp only [ReplayEvent.isCancel, Bool.or_eq_true, beq_iff_eq] at isCancel
    rcases isCancel with upper | lower
    · simp [ReplayEvent.isNew, upper]
    · simp [ReplayEvent.isNew, lower]
  have engineEq : (harness.step row).1.engine =
      (harness.engine.cancelOrder row.1.symbol (harness.target row.1)).1 := by
    simp [ReplayHarness.step, notNew, isCancel, replayCancel]
    rfl
  obtain ⟨linked, unfilled⟩ := numbered.resting.linked row.1.symbol
  obtain ⟨-, -, -, -, orders⟩ :=
    OrderBook.cancelOrder_conserved linked unfilled (harness.target row.1)
  rw [Removed, engineEq,
    (MatchingEngine.book_cancelOrder harness.engine row.1.symbol symbol _).1]
  by_cases same : symbol = row.1.symbol
  · subst same
    rw [if_pos rfl, orders]
    by_cases aimed : id = harness.target row.1
    · simp [aimed]
    · simp [aimed]
  · rw [if_neg same]
    constructor
    · rintro ⟨present, absent⟩
      exact absurd absent present
    · rintro ⟨eq, -⟩
      exact absurd eq same

theorem target_of_new (risk : Option RiskChecker) {before middle : List (ReplayEvent × Clock)}
    {row cancel : ReplayEvent × Clock} (isNew : row.1.isNew = true)
    (sameId : cancel.1.orderId = row.1.orderId)
    (distinct : (newIds (before ++ row :: middle)).Nodup)
    (nonzero : 0 ∉ newIds (before ++ row :: middle)) :
    let submitting := (Transition.run step (new risk) before).1
    let cancelling := (Transition.run step (new risk) (before ++ row :: middle)).1
    submitting.verdict row.1 = .none ∧ (submitting.step row).2 = some (cancelling.target cancel.1) ∨
      submitting.verdict row.1 ≠ .none ∧ (submitting.step row).2 = none ∧
        cancelling.target cancel.1 = cancel.1.orderId := by
  intro submitting cancelling
  have idsEq : newIds (before ++ row :: middle) =
      newIds before ++ row.1.orderId :: newIds middle := by
    simp [newIds, isNew]
  rw [idsEq] at distinct nonzero
  have notBefore : row.1.orderId ∉ newIds before := by
    intro earlier
    exact (List.nodup_append.mp distinct).2.2 _ earlier _ (by simp) rfl
  have notMiddle : row.1.orderId ∉ newIds middle :=
    (List.nodup_cons.mp (List.nodup_append.mp distinct).2.1).1
  have rowNonzero : row.1.orderId ≠ 0 := by
    intro zero
    exact nonzero (by simp [zero])
  have unmapped : submitting.idMap row.1.orderId = none :=
    idMap_run_of_not_mem (new risk) notBefore
  have runEq : cancelling = (Transition.run step (submitting.step row).1 middle).1 := by
    simp [cancelling, submitting, Transition.run_append]
  have mapped : cancelling.idMap row.1.orderId = (submitting.step row).1.idMap row.1.orderId := by
    rw [runEq]
    exact idMap_run_of_not_mem _ notMiddle
  by_cases accepted : submitting.verdict row.1 = .none
  · obtain ⟨id, returned, entry⟩ := idMap_step_of_accepted submitting isNew rowNonzero accepted
    refine Or.inl ⟨accepted, ?_⟩
    rw [returned, target, sameId, mapped, entry]
    rfl
  · obtain ⟨returned, unchanged⟩ := step_of_rejected submitting isNew accepted
    refine Or.inr ⟨accepted, returned, ?_⟩
    rw [target, sameId, mapped, unchanged, unmapped]
    rfl

/-- A cancel row removes nothing but the order its new order row submitted, if
and only if that row passed the risk check or the engine has no resting order
under its tape identifier. -/
theorem cancel_removes_own_order_iff (risk : Option RiskChecker)
    (before middle : List (ReplayEvent × Clock)) (row cancel : ReplayEvent × Clock)
    (isNew : row.1.isNew = true) (isCancel : cancel.1.isCancel = true)
    (sameSymbol : cancel.1.symbol = row.1.symbol) (sameId : cancel.1.orderId = row.1.orderId)
    (distinct : (newIds (before ++ row :: middle)).Nodup)
    (nonzero : 0 ∉ newIds (before ++ row :: middle)) :
    let submitting := (Transition.run step (new risk) before).1
    let cancelling := (Transition.run step (new risk) (before ++ row :: middle)).1
    (∀ symbol id, Removed cancelling.engine (cancelling.step cancel).1.engine symbol id →
        symbol = row.1.symbol ∧ id ≠ 0 ∧ (submitting.step row).2 = some id) ↔
      submitting.verdict row.1 = .none ∨
        (cancelling.engine.book cancel.1.symbol).orderAt cancel.1.orderId = none := by
  intro submitting cancelling
  have numbered : cancelling.engine.Numbered := numbered_run MatchingEngine.numbered_new _
  have aimed := target_of_new risk isNew sameId distinct nonzero
  constructor
  · intro own
    by_cases accepted : submitting.verdict row.1 = .none
    · exact Or.inl accepted
    · right
      rcases aimed with ⟨passed, -⟩ | ⟨-, returned, targetEq⟩
      · exact absurd passed accepted
      · by_contra present
        have removed := (removed_iff numbered isCancel cancel.1.symbol cancel.1.orderId).mpr
          ⟨rfl, targetEq.symm, by rw [targetEq]; exact present⟩
        have submitted := (own _ _ removed).2.2
        rw [returned] at submitted
        simp at submitted
  · intro condition symbol id removed
    obtain ⟨symbolEq, idEq, present⟩ := (removed_iff numbered isCancel symbol id).mp removed
    have idNonzero : id ≠ 0 := by
      rintro rfl
      rw [← idEq] at present
      exact present (numbered.orderAt_zero _)
    rcases aimed with ⟨-, returned⟩ | ⟨rejected, -, targetEq⟩
    · exact ⟨symbolEq.trans sameSymbol, idNonzero, by rw [returned, idEq]⟩
    · rcases condition with passed | absent
      · exact absurd passed rejected
      · rw [targetEq] at present
        exact absurd absent present

/-- A row of a small tape: a limit order to buy at 10, or a cancel. -/
def tapeRow (action : Char) (quantity : Quantity) (orderId : Nat) : ReplayEvent × Clock :=
  (⟨0, [65], .buy, .limit, .finite 10, quantity, action, orderId⟩, fun _ => 0)

/-- The order under tape identifier 1 is too large and rejected.  Its cancel
removes the order under tape identifier 7, to which the engine gave the
identifier 1. -/
theorem rejected_row_cancels_other :
    ¬∀ symbol id,
      Removed (Transition.run step (new (some (.new {})))
          [tapeRow 'N' 2000000 1, tapeRow 'N' 5 7]).1.engine
        ((Transition.run step (new (some (.new {})))
          [tapeRow 'N' 2000000 1, tapeRow 'N' 5 7]).1.step (tapeRow 'C' 0 1)).1.engine symbol id →
      symbol = [65] ∧ id ≠ 0 ∧
        ((new (some (.new {}))).step (tapeRow 'N' 2000000 1)).2 = some id := by
  intro own
  have removed := own [65] 1 ⟨by decide +kernel, by decide +kernel⟩
  exact absurd removed.2.2 (by decide +kernel)

theorem cancel_removes_own_order_accepted :
    (Transition.run step (new (some (.new {}))) [tapeRow 'N' 5 7]).1.verdict
        (tapeRow 'N' 8 1).1 = .none ∧
      ∀ symbol id,
        Removed (Transition.run step (new (some (.new {})))
            ([tapeRow 'N' 5 7] ++ tapeRow 'N' 8 1 :: [])).1.engine
          ((Transition.run step (new (some (.new {})))
            ([tapeRow 'N' 5 7] ++ tapeRow 'N' 8 1 :: [])).1.step (tapeRow 'C' 0 1)).1.engine
          symbol id →
        symbol = [65] ∧ id ≠ 0 ∧
          ((Transition.run step (new (some (.new {}))) [tapeRow 'N' 5 7]).1.step
            (tapeRow 'N' 8 1)).2 = some id := by
  have accepted : (Transition.run step (new (some (.new {}))) [tapeRow 'N' 5 7]).1.verdict
      (tapeRow 'N' 8 1).1 = .none := by
    decide +kernel
  exact ⟨accepted, (cancel_removes_own_order_iff (some (.new {})) [tapeRow 'N' 5 7] []
    (tapeRow 'N' 8 1) (tapeRow 'C' 0 1) (by decide) (by decide) rfl rfl (by decide)
    (by decide)).mpr (Or.inl accepted)⟩

end ReplayHarness

end OrderBookExchange
