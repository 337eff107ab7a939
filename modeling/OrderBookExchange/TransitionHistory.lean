import OrderBookExchange.TransitionRun
import Mathlib.Data.List.Perm.Basic
import Mathlib.Algebra.BigOperators.Group.List.Basic

/-!
# Histories of runs

The history of a run pairs every action with its output.  Three ways of
comparing runs are stated on it: a map that commutes with the step, a system
made of parts that do not see each other, and a quantity to which every step
adds.
-/

namespace OrderBookExchange.Transition

variable {State Action Output : Type*}

/-- The actions of a run with their outputs. -/
def history (step : State → Action → State × Output) (state : State)
    (actions : List Action) : List (Action × Output) :=
  actions.zip (run step state actions).2

variable {step : State → Action → State × Output}

@[simp]
theorem history_nil (state : State) : history step state [] = [] :=
  rfl

@[simp]
theorem history_cons (state : State) (action : Action) (actions : List Action) :
    history step state (action :: actions) =
      (action, (step state action).2) :: history step (step state action).1 actions :=
  rfl

theorem history_append (state : State) (first second : List Action) :
    history step state (first ++ second) =
      history step state first ++ history step (run step state first).1 second := by
  induction first generalizing state with
  | nil => rfl
  | cons action first ih => simp [ih]

theorem map_snd_history (state : State) (actions : List Action) :
    (history step state actions).map Prod.snd = (run step state actions).2 := by
  induction actions generalizing state with
  | nil => rfl
  | cons action actions ih => simp [ih]

/-- A cut through a history is a cut through the run. -/
theorem history_eq_append {state : State} {actions : List Action}
    {earlier later : List (Action × Output)} {entry : Action × Output}
    (shape : history step state actions = earlier ++ entry :: later) :
    ∃ before after, actions = before ++ entry.1 :: after ∧
      earlier = history step state before ∧
      entry.2 = (step (run step state before).1 entry.1).2 ∧
      later = history step (step (run step state before).1 entry.1).1 after := by
  induction actions generalizing state earlier with
  | nil => simp at shape
  | cons action actions ih =>
      rw [history_cons] at shape
      cases earlier with
      | nil =>
          rw [List.nil_append] at shape
          obtain ⟨rfl, rfl⟩ := List.cons.inj shape
          exact ⟨[], actions, rfl, rfl, rfl, rfl⟩
      | cons head earlier =>
          rw [List.cons_append] at shape
          obtain ⟨rfl, tailShape⟩ := List.cons.inj shape
          obtain ⟨before, after, rfl, rfl, outputEq, laterEq⟩ := ih tailShape
          exact ⟨action :: before, after, rfl, rfl, outputEq, laterEq⟩

theorem exists_of_mem_history {state : State} {actions : List Action}
    {entry : Action × Output} (member : entry ∈ history step state actions) :
    ∃ before after, actions = before ++ entry.1 :: after ∧
      entry.2 = (step (run step state before).1 entry.1).2 := by
  obtain ⟨earlier, later, shape⟩ := List.append_of_mem member
  obtain ⟨before, after, actionsEq, -, outputEq, -⟩ := history_eq_append shape
  exact ⟨before, after, actionsEq, outputEq⟩

/-- A step that reports events keeps a relation between the state and the events
reported so far; so does a run. -/
theorem run_logged {Event : Type*} {step : State → Action → State × List Event}
    (invariant : State → List Event → Prop)
    (preserved : ∀ state log action, invariant state log →
      invariant (step state action).1 (log ++ (step state action).2))
    {state : State} {log : List Event} (initial : invariant state log) (actions : List Action) :
    invariant (run step state actions).1 (log ++ (run step state actions).2.flatten) := by
  induction actions generalizing state log with
  | nil => simpa using initial
  | cons action actions induction =>
      have later := induction (preserved state log action initial)
      rw [run_cons, List.flatten_cons, ← List.append_assoc]
      exact later

section Image

variable {OtherState OtherAction OtherOutput : Type*}
  {otherStep : OtherState → OtherAction → OtherState × OtherOutput}
  {onState : State → OtherState} {onAction : Action → OtherAction}
  {onOutput : Output → OtherOutput}

/-- A map of states, actions and outputs that commutes with one step commutes
with runs. -/
theorem run_image
    (commutes : ∀ state action,
      otherStep (onState state) (onAction action) =
        (onState (step state action).1, onOutput (step state action).2))
    (state : State) (actions : List Action) :
    run otherStep (onState state) (actions.map onAction) =
      (onState (run step state actions).1, (run step state actions).2.map onOutput) := by
  induction actions generalizing state with
  | nil => rfl
  | cons action actions ih => simp [commutes, ih]

theorem history_image
    (commutes : ∀ state action,
      otherStep (onState state) (onAction action) =
        (onState (step state action).1, onOutput (step state action).2))
    (state : State) (actions : List Action) :
    history otherStep (onState state) (actions.map onAction) =
      (history step state actions).map (Prod.map onAction onOutput) := by
  rw [history, run_image commutes, history, List.zip_map]

end Image

section Parts

variable {Key Part : Type*} {part : State → Key → Part} {key : Action → Key}
  {partStep : Part → Action → Part × Output}

/-- A system made of parts: an action changes the part it names, as a step of
that part alone, and no other. -/
structure Independent (step : State → Action → State × Output) (part : State → Key → Part)
    (key : Action → Key) (partStep : Part → Action → Part × Output) : Prop where
  own : ∀ state action,
    part (step state action).1 (key action) = (partStep (part state (key action)) action).1
  other : ∀ state action other, other ≠ key action →
    part (step state action).1 other = part state other
  output : ∀ state action,
    (step state action).2 = (partStep (part state (key action)) action).2

variable [DecidableEq Key] (independent : Independent step part key partStep)
include independent

/-- A part ends as if only its own actions had been performed. -/
theorem Independent.part_run (state : State) (actions : List Action) (name : Key) :
    part (run step state actions).1 name =
      (run partStep (part state name) (actions.filter fun action => key action = name)).1 := by
  induction actions generalizing state with
  | nil => rfl
  | cons action actions ih =>
      rw [run_cons, ih]
      by_cases own : key action = name
      · subst own
        rw [List.filter_cons_of_pos (by simp), run_cons, independent.own]
      · rw [List.filter_cons_of_neg (by simpa using own),
          independent.other _ _ _ (Ne.symm own)]

theorem Independent.history_filter (state : State) (actions : List Action) (name : Key) :
    (history step state actions).filter (fun entry => key entry.1 = name) =
      history partStep (part state name) (actions.filter fun action => key action = name) := by
  induction actions generalizing state with
  | nil => rfl
  | cons action actions ih =>
      rw [history_cons]
      by_cases own : key action = name
      · subst own
        rw [List.filter_cons_of_pos (by simp), List.filter_cons_of_pos (by simp), history_cons,
          ih, independent.own, independent.output]
      · rw [List.filter_cons_of_neg (by simpa using own),
          List.filter_cons_of_neg (by simpa using own), ih,
          independent.other _ _ _ (Ne.symm own)]

theorem Independent.along_part (condition : Part → Action → Prop) (state : State)
    (actions : List Action) (name : Key) :
    Along step (fun state action => key action = name → condition (part state name) action)
        state actions ↔
      Along partStep condition (part state name)
        (actions.filter fun action => key action = name) := by
  induction actions generalizing state with
  | nil => rfl
  | cons action actions ih =>
      rw [along_cons, ih]
      by_cases own : key action = name
      · subst own
        rw [List.filter_cons_of_pos (by simp), along_cons, independent.own]
        simp
      · rw [List.filter_cons_of_neg (by simpa using own), independent.other _ _ _ (Ne.symm own)]
        simp [own]

end Parts

/-- Two lists that agree on the entries of every key hold the same entries. -/
theorem perm_of_filter_eq {Entry Key : Type*} [DecidableEq Key] (key : Entry → Key)
    {first second : List Entry}
    (agree : ∀ name, first.filter (fun entry => key entry = name) =
      second.filter fun entry => key entry = name) : first.Perm second := by
  classical
  rw [List.perm_iff_count]
  intro entry
  have counted : ∀ entries : List Entry,
      (entries.filter fun other => key other = key entry).count entry = entries.count entry :=
    fun entries => List.count_filter (by simp)
  rw [← counted first, ← counted second, agree]

section Measure

variable {Amount : Type*} [AddCommMonoid Amount] {amount : Action × Output → Amount}

/-- A quantity to which every step adds grows over a run by the sum over its
history. -/
theorem measure_run (measure : State → Amount)
    (adds : ∀ state action, measure (step state action).1 =
      measure state + amount (action, (step state action).2))
    (state : State) (actions : List Action) :
    measure (run step state actions).1 =
      measure state + ((history step state actions).map amount).sum := by
  induction actions generalizing state with
  | nil => simp
  | cons action actions ih =>
      rw [run_cons, ih, adds, history_cons, List.map_cons, List.sum_cons, add_assoc]

end Measure

end OrderBookExchange.Transition
