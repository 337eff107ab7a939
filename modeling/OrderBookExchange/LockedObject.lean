import Mathlib.Logic.Function.Basic
import OrderBookExchange.TransitionHistory

/-!
# Objects behind a lock

Threads share an object and call its operations.  A call takes the object's
lock, runs in any number of steps on the shared state, gives the lock back and
returns.  Between any two steps any other thread may take one.

The order in which calls take the lock is a sequential history of the object:
the state and what the calls return are those of the whole calls performed one
after another in that order.  A call takes the lock between its beginning and
its return, so the order respects time.  That no two threads are inside at once
is not a rule of the machine here; it follows from the way the lock is taken.
-/

namespace OrderBookExchange

/-- The operations of an object, step by step.  A call starts with a frame of its
own; a step changes the shared state and goes on with another frame, or
returns. -/
structure LockedObject (State Call Local Output : Type*) where
  enter : Call → Local
  advance : State → Local → State × (Local ⊕ Output)

namespace LockedObject

variable {State Call Local Output Thread : Type*}

/-- What a thread is doing. -/
inductive Phase (Call Local : Type*) where
  | idle
  | waiting (call : Call)
  | inside (call : Call) (frame : Local)

structure System (State Call Local Thread : Type*) where
  state : State
  owner : Option Thread
  phase : Thread → Phase Call Local

/-- The next step of some thread. -/
inductive Move (Thread Call : Type*) where
  | call (thread : Thread) (call : Call)
  | acquire (thread : Thread)
  | advance (thread : Thread)

inductive EventKind (Call Output : Type*) where
  | called (call : Call)
  | entered (call : Call)
  | returned (output : Output)

structure Event (Thread Call Output : Type*) where
  thread : Thread
  kind : EventKind Call Output

/-- No thread has called anything yet. -/
def start (state : State) : System State Call Local Thread where
  state := state
  owner := none
  phase := fun _ => .idle

/-- A step of the object inside a call. -/
def advanceCall [DecidableEq Thread] (object : LockedObject State Call Local Output)
    (system : System State Call Local Thread) (thread : Thread) (call : Call) (frame : Local) :
    System State Call Local Thread × List (Event Thread Call Output) :=
  let advanced := object.advance system.state frame
  match advanced.2 with
  | .inl later =>
      ({ system with
          state := advanced.1
          phase := Function.update system.phase thread (.inside call later) }, [])
  | .inr output =>
      ({ state := advanced.1
         owner := none
         phase := Function.update system.phase thread .idle }, [⟨thread, .returned output⟩])

/-- One step of one thread; a thread that cannot take it stays where it is.  The
lock is asked for once, when a call enters. -/
def step [DecidableEq Thread] (object : LockedObject State Call Local Output)
    (system : System State Call Local Thread) :
    Move Thread Call → System State Call Local Thread × List (Event Thread Call Output)
  | .call thread call =>
      match system.phase thread with
      | .idle =>
          ({ system with phase := Function.update system.phase thread (.waiting call) },
            [⟨thread, .called call⟩])
      | _ => (system, [])
  | .acquire thread =>
      match system.owner, system.phase thread with
      | none, .waiting call =>
          ({ system with
              owner := some thread
              phase := Function.update system.phase thread (.inside call (object.enter call)) },
            [⟨thread, .entered call⟩])
      | _, _ => (system, [])
  | .advance thread =>
      match system.phase thread with
      | .inside call frame => object.advanceCall system thread call frame
      | _ => (system, [])

/-! ### Histories -/

/-- The calls of a history in the order in which they took the lock. -/
def entries (history : List (Event Thread Call Output)) : List (Thread × Call) :=
  history.filterMap fun event =>
    match event.kind with
    | .entered call => some (event.thread, call)
    | _ => none

/-- What the calls of a history have returned, in that order. -/
def answers (history : List (Event Thread Call Output)) : List (Thread × Output) :=
  history.filterMap fun event =>
    match event.kind with
    | .returned output => some (event.thread, output)
    | _ => none

/-- The events of one thread. -/
def eventsOf [DecidableEq Thread] (thread : Thread)
    (history : List (Event Thread Call Output)) : List (EventKind Call Output) :=
  (history.filter fun event => event.thread = thread).map Event.kind

/-- The events of a call that has returned. -/
def wholeCall (completed : Call × Output) : List (EventKind Call Output) :=
  [.called completed.1, .entered completed.1, .returned completed.2]

/-- The events of a call that has not. -/
def Phase.openCall : Phase Call Local → List (EventKind Call Output)
  | .idle => []
  | .waiting call => [.called call]
  | .inside call _ => [.called call, .entered call]

/-- Whole calls, one after another, each for a thread. -/
def serve (perform : State → Call → State × Output) (state : State) (entry : Thread × Call) :
    State × (Thread × Output) :=
  ((perform state entry.2).1, entry.1, (perform state entry.2).2)

/-- The rest of a call, from a frame to its return. -/
inductive Completes (object : LockedObject State Call Local Output) :
    State → Local → State × Output → Prop
  | returns {state next : State} {frame : Local} {output : Output}
      (stepped : object.advance state frame = (next, .inr output)) :
      Completes object state frame (next, output)
  | advances {state middle : State} {frame later : Local} {result : State × Output}
      (stepped : object.advance state frame = (middle, .inl later))
      (rest : Completes object middle later result) : Completes object state frame result

/-- The object's calls, run to their return, do what `perform` does, in every state
of an invariant that they keep. -/
structure Implements (object : LockedObject State Call Local Output)
    (perform : State → Call → State × Output) (invariant : State → Prop) : Prop where
  completes : ∀ state call, invariant state →
    Completes object state (object.enter call) (perform state call)
  preserved : ∀ state call, invariant state → invariant (perform state call).1

section Histories

variable (history : List (Event Thread Call Output)) (thread : Thread) (call : Call)
  (output : Output)

@[simp]
theorem entries_called : entries (history ++ [⟨thread, .called call⟩]) = entries history := by
  simp [entries]

@[simp]
theorem entries_entered :
    entries (history ++ [⟨thread, .entered call⟩]) = entries history ++ [(thread, call)] := by
  simp [entries]

@[simp]
theorem entries_returned :
    entries (history ++ [⟨thread, .returned output⟩]) = entries history := by
  simp [entries]

@[simp]
theorem answers_called : answers (history ++ [⟨thread, .called call⟩]) = answers history := by
  simp [answers]

@[simp]
theorem answers_entered : answers (history ++ [⟨thread, .entered call⟩]) = answers history := by
  simp [answers]

@[simp]
theorem answers_returned :
    answers (history ++ [⟨thread, .returned output⟩]) = answers history ++ [(thread, output)] := by
  simp [answers]

theorem eventsOf_append_self [DecidableEq Thread] (kind : EventKind Call Output) :
    eventsOf thread (history ++ [⟨thread, kind⟩]) = eventsOf thread history ++ [kind] := by
  simp [eventsOf]

theorem eventsOf_append_other [DecidableEq Thread] {other : Thread} (different : thread ≠ other)
    (kind : EventKind Call Output) :
    eventsOf other (history ++ [⟨thread, kind⟩]) = eventsOf other history := by
  simp [eventsOf, different]

end Histories

/-! ### The order of the calls -/

section Serial

variable [DecidableEq Thread] {object : LockedObject State Call Local Output}
  {perform : State → Call → State × Output} {initial : State}
  {system : System State Call Local Thread} {history : List (Event Thread Call Output)}

/-- The calls that have taken the lock are being performed one after another.  If
the lock is held, the last of them has come as far as its owner's frame says. -/
structure Serial (object : LockedObject State Call Local Output)
    (perform : State → Call → State × Output) (initial : State)
    (system : System State Call Local Thread)
    (history : List (Event Thread Call Output)) : Prop where
  exclusive : ∀ thread call frame, system.phase thread = .inside call frame →
    system.owner = some thread
  free : system.owner = none →
    Transition.run (serve perform) initial (entries history) = (system.state, answers history)
  held : ∀ thread, system.owner = some thread → ∃ before call frame state,
    system.phase thread = .inside call frame ∧ entries history = before ++ [(thread, call)] ∧
      Transition.run (serve perform) initial before = (state, answers history) ∧
      Completes object system.state frame (perform state call)

omit [DecidableEq Thread] in
theorem serial_start (initial : State) :
    Serial object perform initial (start initial : System State Call Local Thread) [] where
  exclusive := by
    intro thread call frame inside
    cases inside
  free := fun _ => rfl
  held := by
    intro thread owned
    cases owned

theorem Serial.call (serial : Serial object perform initial system history) {thread : Thread}
    (idle : system.phase thread = .idle) (call : Call) :
    Serial object perform initial
      { system with phase := Function.update system.phase thread (.waiting call) }
      (history ++ [⟨thread, .called call⟩]) where
  exclusive := by
    intro other otherCall frame inside
    dsimp only at inside
    by_cases same : other = thread
    · subst same
      simp at inside
    · rw [Function.update_of_ne same] at inside
      exact serial.exclusive other otherCall frame inside
  free := by
    rw [entries_called, answers_called]
    exact serial.free
  held := by
    intro owner owned
    obtain ⟨before, current, frame, state, inside, rest⟩ := serial.held owner owned
    have different : owner ≠ thread := by
      rintro rfl
      rw [idle] at inside
      cases inside
    refine ⟨before, current, frame, state, ?_, ?_⟩
    · exact (Function.update_of_ne different _ _).trans inside
    · rw [entries_called, answers_called]
      exact rest

/-- A call that takes the lock starts in the state the calls before it have left. -/
theorem Serial.enter {invariant : State → Prop} (implements : Implements object perform invariant)
    (serial : Serial object perform initial system history) {thread : Thread} {call : Call}
    (free : system.owner = none) (holds : invariant system.state) :
    Serial object perform initial
      { system with
        owner := some thread
        phase := Function.update system.phase thread (.inside call (object.enter call)) }
      (history ++ [⟨thread, .entered call⟩]) where
  exclusive := by
    intro other otherCall frame inside
    dsimp only at inside
    by_cases same : other = thread
    · rw [same]
    · rw [Function.update_of_ne same] at inside
      have owned := serial.exclusive other otherCall frame inside
      rw [free] at owned
      cases owned
  free := by
    intro unowned
    cases unowned
  held := by
    intro owner owned
    obtain rfl := Option.some.inj owned
    refine ⟨entries history, call, object.enter call, system.state, ?_, ?_, ?_, ?_⟩
    · exact Function.update_self _ _ _
    · rw [entries_entered]
    · rw [answers_entered]
      exact serial.free free
    · exact implements.completes system.state call holds

/-- A step inside a call brings it nearer to its return. -/
theorem Serial.advanceCall (serial : Serial object perform initial system history)
    {thread : Thread} {call : Call} {frame : Local}
    (inside : system.phase thread = .inside call frame) :
    Serial object perform initial (object.advanceCall system thread call frame).1
      (history ++ (object.advanceCall system thread call frame).2) := by
  have owned := serial.exclusive thread call frame inside
  obtain ⟨before, current, currentFrame, state, currentInside, order, ran, completes⟩ :=
    serial.held thread owned
  obtain ⟨rfl, rfl⟩ : call = current ∧ frame = currentFrame := by
    rw [inside] at currentInside
    cases currentInside
    exact ⟨rfl, rfl⟩
  -- only the owner is inside, so the other threads stay outside
  have outside (phase : Phase Call Local) (other : Thread) (otherCall : Call)
      (otherFrame : Local)
      (otherInside : Function.update system.phase thread phase other =
        .inside otherCall otherFrame) : other = thread := by
    by_contra different
    rw [Function.update_of_ne different] at otherInside
    have otherOwned := serial.exclusive other otherCall otherFrame otherInside
    rw [owned] at otherOwned
    exact different (Option.some.inj otherOwned).symm
  unfold LockedObject.advanceCall
  generalize performed : perform state call = result at completes
  cases completes with
  | @returns _ next _ output stepped =>
      rw [stepped]
      dsimp only
      constructor
      case exclusive =>
        intro other otherCall otherFrame otherInside
        obtain rfl := outside _ other otherCall otherFrame otherInside
        simp at otherInside
      case free =>
        intro _
        rw [entries_returned, answers_returned, order, Transition.run_append, ran]
        simp [serve, performed]
      case held =>
        intro owner stillOwned
        cases stillOwned
  | @advances _ middle _ later _ stepped rest =>
      rw [stepped]
      dsimp only
      rw [List.append_nil]
      constructor
      case exclusive =>
        intro other otherCall otherFrame otherInside
        rw [outside _ other otherCall otherFrame otherInside]
        exact owned
      case free =>
        intro unowned
        rw [owned] at unowned
        cases unowned
      case held =>
        intro owner stillOwned
        obtain rfl : thread = owner := Option.some.inj (owned.symm.trans stillOwned)
        exact ⟨before, call, later, state, Function.update_self _ _ _, order, ran, performed ▸ rest⟩

/-- A step of a thread keeps the calls serial.  The invariant is needed only when
the lock is free. -/
theorem Serial.step {invariant : State → Prop} (implements : Implements object perform invariant)
    (holds : ∀ entries : List (Thread × Call),
      invariant (Transition.run (serve perform) initial entries).1)
    (serial : Serial object perform initial system history) (move : Move Thread Call) :
    Serial object perform initial (object.step system move).1
      (history ++ (object.step system move).2) := by
  cases move with
  | call thread call =>
      rw [LockedObject.step]
      split
      case h_1 idle => exact serial.call idle call
      case h_2 => simpa using serial
  | acquire thread =>
      rw [LockedObject.step]
      split
      case h_1 call free waiting =>
        apply serial.enter implements free
        have reached := holds (entries history)
        rw [serial.free free] at reached
        exact reached
      case h_2 => simpa using serial
  | advance thread =>
      rw [LockedObject.step]
      split
      case h_1 call frame inside => exact serial.advanceCall inside
      case h_2 => simpa using serial

omit [DecidableEq Thread] in
theorem invariant_serve {invariant : State → Prop} (implements : Implements object perform invariant)
    (holds : invariant initial) (entries : List (Thread × Call)) :
    invariant (Transition.run (serve perform) initial entries).1 :=
  Transition.run_of_preserved invariant
    (fun state entry kept => implements.preserved state entry.2 kept) holds entries

theorem serial_run {invariant : State → Prop} (implements : Implements object perform invariant)
    (holds : invariant initial) (moves : List (Move Thread Call)) :
    let result := Transition.run object.step (start initial) moves
    Serial object perform initial result.1 result.2.flatten := by
  have run := Transition.run_logged (Serial object perform initial)
    (fun _ _ move serial => serial.step implements (invariant_serve implements holds) move)
    (serial_start initial) moves
  simpa using run

omit [DecidableEq Thread] in
/-- What has been returned so far is the beginning of what the calls, performed in
the order of the lock, return. -/
theorem Serial.answers_prefix (serial : Serial object perform initial system history) :
    answers history <+: (Transition.run (serve perform) initial (entries history)).2 := by
  cases owned : system.owner with
  | none => rw [serial.free owned]
  | some thread =>
      obtain ⟨before, call, frame, state, -, order, ran, -⟩ := serial.held thread owned
      rw [order, Transition.run_append, ran]
      exact List.prefix_append _ _

end Serial

/-! ### The events of one thread -/

section Shaped

variable [DecidableEq Thread] {object : LockedObject State Call Local Output}
  {system : System State Call Local Thread} {history : List (Event Thread Call Output)}

/-- Every thread has made whole calls one after another and is in the middle of at
most one more. -/
def Shaped (system : System State Call Local Thread)
    (history : List (Event Thread Call Output)) : Prop :=
  ∀ thread, ∃ completed : List (Call × Output),
    eventsOf thread history = completed.flatMap wholeCall ++ (system.phase thread).openCall

theorem Shaped.append (shaped : Shaped system history) {thread : Thread}
    {phase : Phase Call Local} {kind : EventKind Call Output} {state : State}
    {owner : Option Thread}
    (continues : ∀ completed : List (Call × Output), ∃ more : List (Call × Output),
      completed.flatMap wholeCall ++ (system.phase thread).openCall ++ [kind] =
        more.flatMap wholeCall ++ phase.openCall) :
    Shaped
      { state := state, owner := owner, phase := Function.update system.phase thread phase }
      (history ++ [⟨thread, kind⟩]) := by
  intro other
  obtain ⟨completed, eventsEq⟩ := shaped other
  by_cases same : thread = other
  · subst same
    obtain ⟨more, moreEq⟩ := continues completed
    refine ⟨more, ?_⟩
    rw [eventsOf_append_self, eventsEq, moreEq]
    simp
  · refine ⟨completed, ?_⟩
    rw [eventsOf_append_other _ _ same, eventsEq]
    simp [Function.update_of_ne (Ne.symm same)]

theorem Shaped.step (shaped : Shaped system history) (move : Move Thread Call) :
    Shaped (object.step system move).1 (history ++ (object.step system move).2) := by
  cases move with
  | call thread call =>
      rw [LockedObject.step]
      split
      case h_1 idle =>
        apply shaped.append
        intro completed
        refine ⟨completed, ?_⟩
        rw [idle]
        simp [Phase.openCall]
      case h_2 => simpa using shaped
  | acquire thread =>
      rw [LockedObject.step]
      split
      case h_1 call free waiting =>
        apply shaped.append
        intro completed
        refine ⟨completed, ?_⟩
        rw [waiting]
        simp [Phase.openCall]
      case h_2 => simpa using shaped
  | advance thread =>
      rw [LockedObject.step]
      split
      case h_1 call frame inside =>
        rw [LockedObject.advanceCall]
        split
        case h_1 later goesOn =>
          intro other
          obtain ⟨completed, eventsEq⟩ := shaped other
          refine ⟨completed, ?_⟩
          rw [List.append_nil, eventsEq]
          by_cases same : other = thread
          · subst same
            simp [inside, Phase.openCall]
          · simp [Function.update_of_ne same]
        case h_2 output returned =>
          apply shaped.append
          intro completed
          refine ⟨completed ++ [(call, output)], ?_⟩
          rw [inside]
          simp [Phase.openCall, wholeCall]
      case h_2 => simpa using shaped

theorem shaped_run (initial : State) (moves : List (Move Thread Call)) :
    let result := Transition.run object.step (start initial) moves
    Shaped result.1 result.2.flatten := by
  have fresh : Shaped (start initial : System State Call Local Thread)
      ([] : List (Event Thread Call Output)) := fun _ => ⟨[], rfl⟩
  have kept (system : System State Call Local Thread) (history : List (Event Thread Call Output))
      (move : Move Thread Call) (shaped : Shaped system history) :
      Shaped (object.step system move).1 (history ++ (object.step system move).2) :=
    shaped.step move
  have run := Transition.run_logged Shaped kept fresh moves
  simpa using run

end Shaped

end LockedObject

end OrderBookExchange
