import OrderBookExchange.TapeReplay
import OrderBookExchange.TapeRows

/-!
# Malformed rows leave no trace

A row that is empty, too short or does not convert is passed over.  It may have
overwritten some fields of the event the caller reuses, but the next row that is
delivered overwrites all of them.  Tapes that differ in such rows only therefore
deliver the same events, and a replay makes the same calls.
-/

namespace OrderBookExchange

/-- The first list with entries inserted that satisfy a condition. -/
inductive Padded {Entry : Type*} (condition : Entry → Prop) : List Entry → List Entry → Prop
  | nil : Padded condition [] []
  | keep {entries padded : List Entry} (entry : Entry) (rest : Padded condition entries padded) :
      Padded condition (entry :: entries) (entry :: padded)
  | insert {entries padded : List Entry} {entry : Entry} (inserted : condition entry)
      (rest : Padded condition entries padded) : Padded condition entries (entry :: padded)

theorem Padded.mono {Entry : Type*} {condition weaker : Entry → Prop} {entries padded : List Entry}
    (inserted : Padded condition entries padded)
    (weakens : ∀ entry, condition entry → weaker entry) : Padded weaker entries padded := by
  induction inserted with
  | nil => exact .nil
  | keep entry _ induction => exact .keep entry induction
  | insert satisfies _ induction => exact .insert (weakens _ satisfies) induction

/-- Inserted entries that a function drops do not show in its results. -/
theorem Padded.filterMap_eq {Entry Result : Type*} {condition : Entry → Prop}
    {entries padded : List Entry} (inserted : Padded condition entries padded)
    {result : Entry → Option Result} (dropped : ∀ entry, condition entry → result entry = none) :
    padded.filterMap result = entries.filterMap result := by
  induction inserted with
  | nil => rfl
  | keep entry _ induction => rw [List.filterMap_cons, List.filterMap_cons, induction]
  | insert satisfies _ induction => rw [List.filterMap_cons_none (dropped _ satisfies), induction]

namespace Conversions

/-- A line that is empty, has fewer than eight fields, or has a number that does
not convert. -/
def Malformed (conversions : Conversions) (line : Text) : Prop :=
  let field := fun index => (splitCsv line).getD index []
  line = [] ∨ (splitCsv line).length < 8 ∨ conversions.stoll (field 0) = none ∨
    field 4 ≠ [] ∧ conversions.stod (field 4) = none ∨
    field 5 ≠ [] ∧ conversions.stoull (field 5) = none ∨
    field 7 ≠ [] ∧ conversions.stoull (field 7) = none

theorem lineEvent_of_malformed {conversions : Conversions} {line : Text}
    (malformed : conversions.Malformed line) : conversions.lineEvent line = none := by
  rw [lineEvent]
  split
  · rfl
  · next long =>
      rw [Option.eq_none_iff_forall_ne_some]
      intro event converts
      obtain ⟨timestamp, price, quantity, orderId, -⟩ :=
        conversions.rowEvent_eq_some_iff.mp converts
      rcases malformed with rfl | short | failed | ⟨present, failed⟩ | ⟨present, failed⟩ |
        ⟨present, failed⟩
      · exact long (by decide)
      · exact long short
      · exact absurd (timestamp.symm.trans failed) (by simp)
      · rw [parsePrice, if_neg (by simpa using present), failed] at price
        simp at price
      · rw [parseQuantity, if_neg (by simpa using present), failed] at quantity
        simp at quantity
      · rw [parseOrderId, if_neg (by simpa using present), failed] at orderId
        simp at orderId

end Conversions

namespace TapeReader

variable {conversions : Conversions}

/-- Successive calls of `next` on one event: what each delivers, if anything, and
`events_read` after it. -/
def nextCalls (conversions : Conversions) :
    Nat → TapeReader → ReplayEvent → List (Option ReplayEvent × Nat)
  | 0, _, _ => []
  | calls + 1, reader, out =>
      let read := reader.next conversions out
      (if read.2.2 then some read.2.1 else none, read.1.count) ::
        nextCalls conversions calls read.1 read.2.1

theorem nextCalls_nil (calls count : Nat) (out other : ReplayEvent) :
    nextCalls conversions calls { lines := [], count } out =
      nextCalls conversions calls { lines := [], count } other := by
  induction calls with
  | zero => rfl
  | succ calls induction => exact congrArg (List.cons (none, count)) induction

theorem nextCalls_skips {line : Text} (skipped : conversions.lineEvent line = none)
    (calls count : Nat) (out : ReplayEvent) (lines : List Text) :
    ∃ left, nextCalls conversions calls { lines := line :: lines, count } out =
      nextCalls conversions calls { lines, count } left := by
  obtain ⟨left, skips⟩ := nextLine_skips skipped count out lines
  have sameCall : next conversions { lines := line :: lines, count } out =
    next conversions { lines, count } left := skips
  refine ⟨left, ?_⟩
  cases calls with
  | zero => rfl
  | succ calls => rw [nextCalls, nextCalls, sameCall]

theorem nextCalls_delivers {line : Text} {event : ReplayEvent}
    (delivered : conversions.lineEvent line = some event) (calls count : Nat) (out : ReplayEvent)
    (lines : List Text) :
    nextCalls conversions (calls + 1) { lines := line :: lines, count } out =
      (some event, count + 1) :: nextCalls conversions calls { lines, count := count + 1 } event := by
  simp only [nextCalls, next, nextLine_delivers delivered, if_true]

/-- The calls do not see inserted lines without an event, nor what the reused
event held at the start. -/
theorem nextCalls_padded {lines padded : List Text}
    (inserted : Padded (fun line => conversions.lineEvent line = none) lines padded)
    (calls count : Nat) (out other : ReplayEvent) :
    nextCalls conversions calls { lines := padded, count } other =
      nextCalls conversions calls { lines, count } out := by
  induction inserted generalizing calls count out other with
  | nil => exact nextCalls_nil calls count other out
  | insert skipped _ induction =>
      obtain ⟨left, skips⟩ := nextCalls_skips skipped calls count other _
      rw [skips]
      exact induction calls count out left
  | keep line _ induction =>
      cases delivered : conversions.lineEvent line with
      | none =>
          obtain ⟨left, skips⟩ := nextCalls_skips delivered calls count out _
          obtain ⟨otherLeft, otherSkips⟩ := nextCalls_skips delivered calls count other _
          rw [skips, otherSkips]
          exact induction calls count left otherLeft
      | some event =>
          cases calls with
          | zero => rfl
          | succ calls =>
              rw [nextCalls_delivers delivered, nextCalls_delivers delivered,
                induction calls (count + 1) event event]

end TapeReader

namespace Replay

/-- A tape with malformed rows inserted behind its header delivers the same
events in every number of calls, whatever the reused event held, and is replayed
alike on every engine.  Every call of `next` ends: it delivers an event and takes
at least one line, or it has reached the end. -/
theorem malformed_rows_inert (conversions : Conversions) {tape padded : Text}
    (inserted : Padded conversions.Malformed (TapeReader.new tape).lines
      (TapeReader.new padded).lines) :
    (∀ calls out other, TapeReader.nextCalls conversions calls (.new padded) other =
        TapeReader.nextCalls conversions calls (.new tape) out) ∧
      (∀ engine risk clock uninitialised otherUninitialised,
        replayFileOn conversions engine risk clock otherUninitialised padded =
          replayFileOn conversions engine risk clock uninitialised tape) ∧
      ∀ (reader : TapeReader) out,
        let read := reader.next conversions out
        read.1.lines <:+ reader.lines ∧
          (read.2.2 = true → read.1.lines.length < reader.lines.length) ∧
          (read.2.2 = false → read.1.lines = []) := by
  have dropped : ∀ line, conversions.Malformed line → conversions.lineEvent line = none :=
    fun line malformed => Conversions.lineEvent_of_malformed malformed
  refine ⟨?_, ?_, ?_⟩
  · intro calls out other
    exact TapeReader.nextCalls_padded (inserted.mono dropped) calls 0 out other
  · intro engine risk clock uninitialised otherUninitialised
    have same : (replayFileOn conversions engine risk clock otherUninitialised padded).1 =
        (replayFileOn conversions engine risk clock uninitialised tape).1 := by
      rw [replayFileOn_eq, replayFileOn_eq, inserted.filterMap_eq dropped]
    exact Prod.ext same (congrArg (report · clock) same)
  · intro reader out
    exact TapeReader.nextLine_lines conversions reader.count out reader.lines

/-- A header and one row for two shares. -/
def shortTape : Text :=
  joined newline [[104], TapeReader.rowWithQuantity [50]] []

/-- The same with an empty line, a line of one field and a row whose quantity
is a letter in front of the row, and a row without a timestamp behind it. -/
def paddedTape : Text :=
  joined newline [[104], [], [120], TapeReader.rowWithQuantity [120],
    TapeReader.rowWithQuantity [50], [44, 44, 44, 44, 44, 44, 44, 49]] []

/-- The one row is delivered by the first call, and the second finds none. -/
theorem malformed_rows_inert_short :
    TapeReader.nextCalls (.library TapeReader.exactStod) 2 (.new paddedTape)
        ⟨0, [], .buy, .limit, 0, 0, 'N', 0⟩ =
      [(some ⟨5, [65], .buy, .limit, .finite 1, 2, 'N', 7⟩, 1), (none, 1)] := by
  have inserted : Padded (Conversions.library TapeReader.exactStod).Malformed
      (TapeReader.new shortTape).lines (TapeReader.new paddedTape).lines :=
    .insert (Or.inl rfl) (.insert (Or.inr (Or.inl (by decide)))
      (.insert (Or.inr (Or.inr (Or.inr (Or.inr (Or.inl ⟨by decide, by decide⟩)))))
        (.keep _ (.insert (Or.inr (Or.inr (Or.inl (by decide)))) .nil))))
  rw [(malformed_rows_inert _ inserted).1 2 ⟨0, [], .buy, .limit, 0, 0, 'N', 0⟩]
  decide +kernel

end Replay

end OrderBookExchange
