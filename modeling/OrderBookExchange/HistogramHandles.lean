import OrderBookExchange.TransitionRun
import Mathlib.Data.List.Perm.Basic
import Mathlib.Data.List.Range

/-!
# Who owns a histogram

A latency histogram wraps a handle that `hdr_init` gives out and that has to be
given back to `hdr_close` once.  Wrappers are not copied, they are moved: the
wrapper a handle is moved out of keeps a null pointer.  A handle is named by the
call that opened it, so the ones an allocator places at the same address stay
apart.
-/

namespace OrderBookExchange

/-- The wrappers of a process and the C library under them.  There is a wrapper
at an address, with its pointer `h_`, or there is none. -/
structure HistogramTable where
  wrapper : Nat → Option (Option Nat) := fun _ => none
  opened : Nat := 0
  closed : List Nat := []

/-- What a program does with wrappers; `use` stands for every member function that
passes `h_` on, from `record` to `reset`. -/
inductive HistogramCall where
  | construct (object : Nat) (initialised : Bool)
  | moveConstruct (object other : Nat)
  | moveAssign (object other : Nat)
  | destroy (object : Nat)
  | use (object : Nat)

namespace HistogramTable

/-- The pointer `h_` of the wrapper at an address. -/
def handle (table : HistogramTable) (object : Nat) : Option Nat :=
  (table.wrapper object).join

def place (table : HistogramTable) (object : Nat) (content : Option (Option Nat)) :
    HistogramTable :=
  { table with wrapper := Function.update table.wrapper object content }

/-- `if (h_) hdr_close(h_)`. -/
def close (table : HistogramTable) (object : Nat) : HistogramTable :=
  match table.handle object with
  | none => table
  | some handle => { table with closed := handle :: table.closed }

/-- The constructor; when `hdr_init` fails it throws and there is no object. -/
def construct (table : HistogramTable) (object : Nat) (initialised : Bool) : HistogramTable :=
  if initialised then
    { table.place object (some (some table.opened)) with opened := table.opened + 1 }
  else table

/-- `h_(other.h_)`, then `other.h_ = nullptr`. -/
def moveConstruct (table : HistogramTable) (object other : Nat) : HistogramTable :=
  (table.place object (some (table.handle other))).place other (some none)

def moveAssign (table : HistogramTable) (object other : Nat) : HistogramTable :=
  if object ≠ other then
    ((table.close object).place object (some (table.handle other))).place other (some none)
  else table

def destroy (table : HistogramTable) (object : Nat) : HistogramTable :=
  (table.close object).place object none

/-- One call, with the pointers it passes to the C library. -/
def step (table : HistogramTable) : HistogramCall → HistogramTable × List (Option Nat)
  | .construct object initialised => (table.construct object initialised, [])
  | .moveConstruct object other => (table.moveConstruct object other, [])
  | .moveAssign object other =>
      (table.moveAssign object other,
        if object ≠ other then (table.handle object).toList.map some else [])
  | .destroy object => (table.destroy object, (table.handle object).toList.map some)
  | .use object => (table, [table.handle object])

/-- What the language asks of a call: storage is free before an object is built
in it, and every other object named is alive. -/
def Lawful (table : HistogramTable) : HistogramCall → Prop
  | .construct object _ => table.wrapper object = none
  | .moveConstruct object other => table.wrapper object = none ∧ table.wrapper other ≠ none
  | .moveAssign object other => table.wrapper object ≠ none ∧ table.wrapper other ≠ none
  | .destroy object => table.wrapper object ≠ none
  | .use object => table.wrapper object ≠ none

instance decidableLawful (table : HistogramTable) : (call : HistogramCall) →
    Decidable (table.Lawful call)
  | .construct object _ => inferInstanceAs (Decidable (table.wrapper object = none))
  | .moveConstruct object other =>
      inferInstanceAs (Decidable (table.wrapper object = none ∧ table.wrapper other ≠ none))
  | .moveAssign object other =>
      inferInstanceAs (Decidable (table.wrapper object ≠ none ∧ table.wrapper other ≠ none))
  | .destroy object => inferInstanceAs (Decidable (table.wrapper object ≠ none))
  | .use object => inferInstanceAs (Decidable (table.wrapper object ≠ none))

/-- Every handle that was opened is either closed, once, or held by exactly one
wrapper. -/
structure Owned (table : HistogramTable) : Prop where
  closedOnce : table.closed.Nodup
  exclusive : ∀ first second handle, table.handle first = some handle →
    table.handle second = some handle → first = second
  heldOpen : ∀ object handle, table.handle object = some handle → handle ∉ table.closed
  accounted : ∀ handle, handle < table.opened ↔
    handle ∈ table.closed ∨ ∃ object, table.handle object = some handle

theorem handle_place (table : HistogramTable) (object : Nat) (content : Option (Option Nat))
    (other : Nat) :
    (table.place object content).handle other =
      if other = object then content.join else table.handle other := by
  unfold handle place
  by_cases same : other = object
  · subst same
    simp
  · simp [same]

@[simp]
theorem closed_place (table : HistogramTable) (object : Nat) (content : Option (Option Nat)) :
    (table.place object content).closed = table.closed :=
  rfl

@[simp]
theorem opened_place (table : HistogramTable) (object : Nat) (content : Option (Option Nat)) :
    (table.place object content).opened = table.opened :=
  rfl

@[simp]
theorem handle_close (table : HistogramTable) (object other : Nat) :
    (table.close object).handle other = table.handle other := by
  unfold close
  split <;> rfl

@[simp]
theorem opened_close (table : HistogramTable) (object : Nat) :
    (table.close object).opened = table.opened := by
  unfold close
  split <;> rfl

theorem closed_close (table : HistogramTable) (object : Nat) :
    (table.close object).closed = (table.handle object).toList ++ table.closed := by
  unfold close
  split
  · next null => simp [null]
  · next handle held => simp [held]

theorem owned_empty : Owned {} where
  closedOnce := List.nodup_nil
  exclusive := by simp [handle]
  heldOpen := by simp [handle]
  accounted := by simp [handle]

section Ownership

variable {table : HistogramTable} (owned : table.Owned)
include owned

theorem Owned.lt_opened {object handle : Nat} (held : table.handle object = some handle) :
    handle < table.opened :=
  (owned.accounted handle).mpr (.inr ⟨object, held⟩)

/-- A new handle goes to a wrapper that holds none. -/
theorem Owned.construct {object : Nat} (null : table.handle object = none)
    (initialised : Bool) : (table.construct object initialised).Owned := by
  unfold HistogramTable.construct
  split
  · have handles : ∀ other, HistogramTable.handle
        { table.place object (some (some table.opened)) with opened := table.opened + 1 } other =
          if other = object then some table.opened else table.handle other :=
      fun other => handle_place table object _ other
    constructor
    · exact owned.closedOnce
    · intro first second handle firstHolds secondHolds
      rw [handles] at firstHolds secondHolds
      have older : ∀ other, table.handle other ≠ some table.opened :=
        fun other held => Nat.lt_irrefl _ (owned.lt_opened held)
      split at firstHolds <;> split at secondHolds
      · next firstSame secondSame => rw [firstSame, secondSame]
      · exact absurd (firstHolds ▸ secondHolds) (older second)
      · exact absurd (secondHolds ▸ firstHolds) (older first)
      · exact owned.exclusive first second handle firstHolds secondHolds
    · intro other handle held
      rw [handles] at held
      split at held
      · obtain rfl := Option.some.inj held
        intro member
        exact Nat.lt_irrefl _ ((owned.accounted _).mpr (.inl member))
      · exact owned.heldOpen other handle held
    · intro handle
      simp only [handles]
      constructor
      · intro bound
        by_cases newest : handle = table.opened
        · exact .inr ⟨object, by simp [newest]⟩
        · obtain member | ⟨other, held⟩ := (owned.accounted handle).mp (by omega)
          · exact .inl member
          · have different : other ≠ object := by
              rintro rfl
              simp [null] at held
            exact .inr ⟨other, by simp [different, held]⟩
      · rintro (member | ⟨other, held⟩)
        · have bound := (owned.accounted handle).mpr (.inl member)
          omega
        · split at held
          · obtain rfl := Option.some.inj held
            omega
          · have bound := owned.lt_opened held
            omega
  · exact owned

theorem Owned.moveConstruct {object other : Nat} (null : table.handle object = none)
    (different : object ≠ other) : (table.moveConstruct object other).Owned := by
  have handles : ∀ third, (table.moveConstruct object other).handle third =
      if third = other then none
      else if third = object then table.handle other else table.handle third := by
    intro third
    simp [HistogramTable.moveConstruct, handle_place]
  constructor
  · exact owned.closedOnce
  · intro first second handle firstHolds secondHolds
    rw [handles] at firstHolds secondHolds
    -- the wrapper that got the handle stands for the one that gave it away
    have exclusive := owned.exclusive
    grind
  · intro third handle held
    rw [handles] at held
    have heldOpen := owned.heldOpen
    change handle ∉ table.closed
    grind
  · intro handle
    change handle < table.opened ↔ handle ∈ table.closed ∨ _
    rw [owned.accounted handle]
    simp only [handles]
    constructor
    · rintro (member | ⟨third, held⟩)
      · exact .inl member
      · by_cases moved : third = other
        · subst moved
          exact .inr ⟨object, by simp [different, held]⟩
        · have kept : third ≠ object := by
            rintro rfl
            simp [null] at held
          exact .inr ⟨third, by simp [moved, kept, held]⟩
    · rintro (member | ⟨third, held⟩)
      · exact .inl member
      · grind

/-- The handle of a wrapper goes back to the library, and the wrapper keeps none. -/
theorem Owned.closePlace (object : Nat) {content : Option (Option Nat)}
    (null : content.join = none) : ((table.close object).place object content).Owned := by
  have handles : ∀ other, ((table.close object).place object content).handle other =
      if other = object then none else table.handle other := by
    intro other
    rw [handle_place, handle_close, null]
  constructor
  · rw [closed_place, closed_close]
    cases held : table.handle object with
    | none => exact owned.closedOnce
    | some handle => exact List.nodup_cons.mpr ⟨owned.heldOpen object handle held, owned.closedOnce⟩
  · intro first second handle firstHolds secondHolds
    rw [handles] at firstHolds secondHolds
    have exclusive := owned.exclusive
    grind
  · intro other handle held
    rw [handles] at held
    rw [closed_place, closed_close]
    split at held
    · cases held
    · next different =>
        intro member
        rcases List.mem_append.mp member with mine | earlier
        · exact different (owned.exclusive other object handle held (by simpa using mine))
        · exact owned.heldOpen other handle held earlier
  · intro handle
    simp only [closed_place, closed_close, opened_place, opened_close, handles,
      List.mem_append, Option.mem_toList]
    rw [owned.accounted handle]
    have exclusive := owned.exclusive
    grind

theorem Owned.destroy (object : Nat) : (table.destroy object).Owned :=
  owned.closePlace object rfl

/-- Assignment closes the handle of the target and then moves, as if the target had
been built anew. -/
theorem Owned.moveAssign (object other : Nat) : (table.moveAssign object other).Owned := by
  unfold HistogramTable.moveAssign
  split
  · next different =>
      have closed := owned.closePlace object (rfl : (some (none : Option Nat)).join = none)
      have moved := closed.moveConstruct
        (by rw [handle_place, if_pos rfl]; rfl) different
      have sameHandle :
          ((table.close object).place object (some none)).handle other = table.handle other := by
        rw [handle_place, if_neg (Ne.symm different), handle_close]
      unfold HistogramTable.moveConstruct at moved
      rw [sameHandle] at moved
      simpa [place] using moved
  · exact owned

theorem Owned.step {call : HistogramCall} (lawful : table.Lawful call) :
    (table.step call).1.Owned := by
  cases call with
  | construct object initialised =>
      exact owned.construct (by rw [handle, show table.wrapper object = none from lawful]; rfl)
        initialised
  | moveConstruct object other =>
      have different : object ≠ other := by
        rintro rfl
        exact lawful.2 lawful.1
      exact owned.moveConstruct (by rw [handle, lawful.1]; rfl) different
  | moveAssign object other => exact owned.moveAssign object other
  | destroy object => exact owned.destroy object
  | use object => exact owned

/-- The library is never given a handle that is closed, neither to read nor to
close. -/
theorem Owned.passes_open {call : HistogramCall} {handle : Nat}
    (passed : some handle ∈ (table.step call).2) :
    handle < table.opened ∧ handle ∉ table.closed := by
  have held : ∃ object, table.handle object = some handle := by
    cases call with
    | construct object initialised => cases passed
    | moveConstruct object other => cases passed
    | moveAssign object other =>
        change some handle ∈ if object ≠ other then _ else _ at passed
        split at passed
        · exact ⟨object, by simpa using passed⟩
        · cases passed
    | destroy object => exact ⟨object, by simpa [HistogramTable.step] using passed⟩
    | use object => exact ⟨object, by simpa [HistogramTable.step, eq_comm] using passed⟩
  obtain ⟨object, held⟩ := held
  exact ⟨owned.lt_opened held, owned.heldOpen object handle held⟩

/-- With no wrapper left, what was opened is what was closed. -/
theorem Owned.closed_perm_range (empty : ∀ object, table.wrapper object = none) :
    table.closed.Perm (List.range table.opened) := by
  apply (List.perm_ext_iff_of_nodup owned.closedOnce List.nodup_range).mpr
  intro handle
  rw [List.mem_range, owned.accounted handle]
  simp [HistogramTable.handle, empty]

end Ownership

/-- Over every lawful program: no handle reaches the library after it was closed,
no two wrappers share one, and when the last wrapper is gone every handle has been
closed exactly once. -/
theorem handles_closed_exactly_once (calls : List HistogramCall)
    (lawful : Transition.Along step Lawful {} calls) :
    let final := (Transition.run step {} calls).1
    Transition.Along step
        (fun table call => ∀ handle, some handle ∈ (table.step call).2 →
          handle < table.opened ∧ handle ∉ table.closed) {} calls ∧
      (∀ first second handle, final.handle first = some handle →
        final.handle second = some handle → first = second) ∧
      ((∀ object, final.wrapper object = none) →
        final.closed.Perm (List.range final.opened)) := by
  have final := Transition.run_invariant Owned
    (fun table call owned lawful => owned.step lawful) owned_empty lawful
  refine ⟨?_, final.exclusive, final.closed_perm_range⟩
  exact Transition.along_of_invariant Owned (fun table call owned lawful => owned.step lawful)
    (fun table call owned _ handle passed => owned.passes_open passed) owned_empty lawful

theorem handles_closed_exactly_once_assigned :
    let calls : List HistogramCall :=
      [.construct 0 true, .construct 1 true, .moveAssign 1 0, .use 1, .destroy 0, .destroy 1]
    let final := (Transition.run step {} calls).1
    Transition.Along step Lawful {} calls ∧ (∀ object, final.wrapper object = none) ∧
      final.closed.Perm (List.range final.opened) := by
  have lawful : Transition.Along step Lawful {}
      [.construct 0 true, .construct 1 true, .moveAssign 1 0, .use 1, .destroy 0, .destroy 1] := by
    decide
  have gone : ∀ object, (Transition.run step {}
      [.construct 0 true, .construct 1 true, .moveAssign 1 0, .use 1, .destroy 0,
        .destroy 1]).1.wrapper object = none := by
    intro object
    by_cases first : object = 0 <;> by_cases second : object = 1 <;>
      simp [step, construct, moveAssign, destroy, close, place, handle, first, second]
  exact ⟨lawful, gone, (handles_closed_exactly_once _ lawful).2.2 gone⟩

end HistogramTable

end OrderBookExchange
