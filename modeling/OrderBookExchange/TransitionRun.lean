import Mathlib.Data.List.Basic
import Mathlib.Tactic

/-!
# Runs of deterministic transition systems

A transition system maps a state and an action to the next state and an
output.  A run folds the step function over a list of actions.  The rules here
turn facts about one step into facts about whole runs: an invariant rule whose
side condition may look at the state before the step, and a simulation rule
that compares the outputs of two systems.
-/

namespace OrderBookExchange.Transition

variable {State Action Output : Type*}

/-- Perform the actions in order, collecting the output of each one. -/
def run (step : State → Action → State × Output) :
    State → List Action → State × List Output
  | state, [] => (state, [])
  | state, action :: actions =>
      let stepped := step state action
      let rest := run step stepped.1 actions
      (rest.1, stepped.2 :: rest.2)

/-- A condition on the state before a step and its action, at every step of
a run. -/
def Along (step : State → Action → State × Output)
    (condition : State → Action → Prop) : State → List Action → Prop
  | _, [] => True
  | state, action :: actions =>
      condition state action ∧ Along step condition (step state action).1 actions

variable {step : State → Action → State × Output}

instance decidableAlong (condition : State → Action → Prop)
    [∀ state action, Decidable (condition state action)] :
    (state : State) → (actions : List Action) → Decidable (Along step condition state actions)
  | _, [] => inferInstanceAs (Decidable True)
  | state, action :: actions =>
      have := decidableAlong condition (step state action).1 actions
      inferInstanceAs (Decidable (_ ∧ _))

@[simp]
theorem run_nil (state : State) : run step state [] = (state, []) :=
  rfl

@[simp]
theorem run_cons (state : State) (action : Action) (actions : List Action) :
    run step state (action :: actions) =
      ((run step (step state action).1 actions).1,
        (step state action).2 :: (run step (step state action).1 actions).2) :=
  rfl

theorem run_append (state : State) (first second : List Action) :
    run step state (first ++ second) =
      ((run step (run step state first).1 second).1,
        (run step state first).2 ++ (run step (run step state first).1 second).2) := by
  induction first generalizing state with
  | nil => rfl
  | cons action first ih => simp [ih]

/-- A run of renamed actions is a run of the machine that renames each action
as it comes. -/
theorem run_map {Source : Type*} (onAction : Source → Action) (state : State)
    (actions : List Source) :
    run step state (actions.map onAction) =
      run (fun state action => step state (onAction action)) state actions := by
  induction actions generalizing state with
  | nil => rfl
  | cons action actions ih => rw [List.map_cons, run_cons, run_cons, ih]

@[simp]
theorem along_nil {condition : State → Action → Prop} (state : State) :
    Along step condition state [] :=
  trivial

theorem along_cons {condition : State → Action → Prop} {state : State}
    {action : Action} {actions : List Action} :
    Along step condition state (action :: actions) ↔
      condition state action ∧
        Along step condition (step state action).1 actions :=
  Iff.rfl

theorem along_append {condition : State → Action → Prop} {state : State}
    {first second : List Action} :
    Along step condition state (first ++ second) ↔
      Along step condition state first ∧
        Along step condition (run step state first).1 second := by
  induction first generalizing state with
  | nil => simp
  | cons action first ih => simp [along_cons, ih, and_assoc]

theorem along_mono {condition weaker : State → Action → Prop}
    (weakens : ∀ state action, condition state action → weaker state action)
    {state : State} {actions : List Action} (along : Along step condition state actions) :
    Along step weaker state actions := by
  induction actions generalizing state with
  | nil => trivial
  | cons action actions ih => exact ⟨weakens state action along.1, ih along.2⟩

theorem along_and {first second : State → Action → Prop} {state : State}
    {actions : List Action} :
    Along step (fun state action => first state action ∧ second state action) state actions ↔
      Along step first state actions ∧ Along step second state actions := by
  induction actions generalizing state with
  | nil => simp
  | cons action actions ih =>
      rw [along_cons, along_cons, along_cons, ih]
      exact and_and_and_comm

theorem along_of_forall {allowed : Action → Prop} {actions : List Action}
    (all : ∀ action ∈ actions, allowed action) (state : State) :
    Along step (fun _ action => allowed action) state actions := by
  induction actions generalizing state with
  | nil => trivial
  | cons action actions ih =>
      exact ⟨all action (by simp),
        ih (fun other member => all other (by simp [member])) _⟩

/-- What every admissible step preserves, every admissible run preserves. -/
theorem run_invariant {condition : State → Action → Prop}
    (invariant : State → Prop)
    (preserved : ∀ state action, invariant state → condition state action →
      invariant (step state action).1)
    {state : State} {actions : List Action} (initial : invariant state)
    (along : Along step condition state actions) :
    invariant (run step state actions).1 := by
  induction actions generalizing state with
  | nil => exact initial
  | cons action actions ih =>
      exact ih (preserved state action initial along.1) along.2

/-- A run that goes through phases: each step is admissible in the phase it starts
in and leads to the next one. -/
theorem run_phased {Phase : Type*} (after : Phase → Action → Option Phase)
    {condition : State → Action → Prop} (invariant : Phase → State → Prop)
    (preserved : ∀ phase later state action, invariant phase state →
      after phase action = some later → condition state action →
        invariant later (step state action).1)
    {phase later : Phase} {state : State} {actions : List Action}
    (initial : invariant phase state) (inOrder : actions.foldlM after phase = some later)
    (along : Along step condition state actions) :
    invariant later (run step state actions).1 := by
  induction actions generalizing state phase with
  | nil =>
      obtain rfl := Option.some.inj inOrder
      exact initial
  | cons action actions ih =>
      rw [List.foldlM_cons] at inOrder
      obtain ⟨middle, first, rest⟩ := Option.bind_eq_some_iff.mp inOrder
      exact ih (preserved phase middle state action initial first along.1) rest along.2

/-- What an invariant gives for every admissible step holds at every step of an
admissible run. -/
theorem along_of_invariant {condition conclusion : State → Action → Prop}
    (invariant : State → Prop)
    (preserved : ∀ state action, invariant state → condition state action →
      invariant (step state action).1)
    (concluded : ∀ state action, invariant state → condition state action →
      conclusion state action)
    {state : State} {actions : List Action} (initial : invariant state)
    (along : Along step condition state actions) :
    Along step conclusion state actions := by
  induction actions generalizing state with
  | nil => trivial
  | cons action actions ih =>
      exact ⟨concluded state action initial along.1,
        ih (preserved state action initial along.1) along.2⟩

theorem run_of_preserved (invariant : State → Prop)
    (preserved : ∀ state action, invariant state → invariant (step state action).1)
    {state : State} (initial : invariant state) (actions : List Action) :
    invariant (run step state actions).1 :=
  run_invariant invariant (fun state action holds (_ : True) => preserved state action holds)
    initial (along_of_forall (fun _ _ => trivial) state)

/-- A measure that only grows stays below a bound to the end of a run if and only
if every step stays below it. -/
theorem along_below_iff (invariant : State → Prop)
    (preserved : ∀ state action, invariant state → invariant (step state action).1)
    (measure : State → Nat) (gain : State → Action → Nat)
    (grows : ∀ state action, invariant state →
      measure (step state action).1 = measure state + gain state action)
    {bound : Nat} {state : State} (initial : invariant state) (below : measure state < bound)
    (actions : List Action) :
    Along step (fun state action => measure state + gain state action < bound) state actions ↔
      measure (run step state actions).1 < bound := by
  induction actions generalizing state with
  | nil => exact iff_of_true trivial below
  | cons action actions induction =>
      have stepped := grows state action initial
      rw [along_cons, run_cons]
      constructor
      · rintro ⟨first, rest⟩
        exact (induction (preserved state action initial) (stepped ▸ first)).mp rest
      · intro final
        -- the measure has only grown since this step
        have grown : measure (step state action).1 ≤
            measure (run step (step state action).1 actions).1 :=
          (run_of_preserved
            (fun later => invariant later ∧ measure (step state action).1 ≤ measure later)
            (fun later other holds => ⟨preserved later other holds.1,
              by rw [grows later other holds.1]; exact holds.2.trans (Nat.le_add_right _ _)⟩)
            ⟨preserved state action initial, Nat.le_refl _⟩ actions).2
        have first : measure (step state action).1 < bound := Nat.lt_of_le_of_lt grown final
        exact ⟨stepped ▸ first, (induction (preserved state action initial) first).mpr final⟩

section Simulation

variable {AbstractState AbstractOutput Observation : Type*}
  {abstractStep : AbstractState → Action → AbstractState × AbstractOutput}
  {relation : State → AbstractState → Prop}
  {condition : State → Action → Prop}
  {observe : Output → Observation} {abstractObserve : AbstractOutput → Observation}

/-- Related states stay related along a run, and the two runs show the same
observations step by step. -/
theorem run_simulation
    (simulates : ∀ state abstractState action, relation state abstractState →
      condition state action →
        relation (step state action).1 (abstractStep abstractState action).1 ∧
          observe (step state action).2 =
            abstractObserve (abstractStep abstractState action).2)
    {state : State} {abstractState : AbstractState} {actions : List Action}
    (related : relation state abstractState)
    (along : Along step condition state actions) :
    relation (run step state actions).1 (run abstractStep abstractState actions).1 ∧
      (run step state actions).2.map observe =
        (run abstractStep abstractState actions).2.map abstractObserve := by
  induction actions generalizing state abstractState with
  | nil => exact ⟨related, rfl⟩
  | cons action actions ih =>
      obtain ⟨nextRelated, observed⟩ :=
        simulates state abstractState action related along.1
      obtain ⟨finalRelated, restObserved⟩ := ih nextRelated along.2
      exact ⟨finalRelated, by simp [observed, restObserved]⟩

end Simulation

end OrderBookExchange.Transition
