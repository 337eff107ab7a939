import Mathlib.Tactic

/-!
# Counted loops whose body may fail

The loop `for (; index < count; index++)` over a body that either goes on with
a new state or stops with a fault.  The recursion is on the passes that are
left, so that a loop with a known count evaluates.
-/

namespace OrderBookExchange.CountedLoop

variable {State Fault : Type*}

/-- So many passes, the first of them at the given index. -/
def passes (body : Nat → State → Except Fault State) : Nat → Nat → State → Except Fault State
  | 0, _, state => .ok state
  | left + 1, index, state => (body index state).bind (passes body left (index + 1))

/-- The loop from an index on. -/
def loopFrom (body : Nat → State → Except Fault State) (count index : Nat) (state : State) :
    Except Fault State :=
  passes body (count - index) index state

variable {body : Nat → State → Except Fault State} {count index : Nat} {state : State}

theorem loopFrom_of_lt (within : index < count) :
    loopFrom body count index state =
      (body index state).bind (loopFrom body count (index + 1)) := by
  obtain ⟨left, leftEq⟩ : ∃ left, count - index = left + 1 :=
    Nat.exists_eq_succ_of_ne_zero (by omega)
  have nextLeft : count - (index + 1) = left := by omega
  unfold loopFrom
  rw [leftEq, nextLeft]
  rfl

theorem loopFrom_self : loopFrom body count count state = .ok state := by
  rw [loopFrom, Nat.sub_self]
  rfl

/-- The invariant rule: a body that goes on from every state of the invariant, and
leads to the invariant of the next index, carries the loop to its end. -/
theorem loopFrom_invariant (invariant : Nat → State → Prop)
    (preserved : ∀ index state, index < count → invariant index state →
      ∃ next, body index state = .ok next ∧ invariant (index + 1) next)
    (within : index ≤ count) (initial : invariant index state) :
    ∃ final, loopFrom body count index state = .ok final ∧ invariant count final := by
  -- The induction goes down from the count, where no pass is left.
  induction within using Nat.decreasingInduction generalizing state with
  | self => exact ⟨state, loopFrom_self, initial⟩
  | of_succ index within induction =>
      obtain ⟨next, runs, nextInvariant⟩ := preserved index state within initial
      obtain ⟨final, finishes, finalInvariant⟩ := induction nextInvariant
      refine ⟨final, ?_, finalInvariant⟩
      rw [loopFrom_of_lt within, runs]
      exact finishes

end OrderBookExchange.CountedLoop
