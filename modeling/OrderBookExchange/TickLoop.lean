import OrderBookExchange.SimulationRun

/-!
# Safety of the tick loop

A run divides by zero in two ways.  The progress test takes the remainder by a tenth
of the tick count, rounded down, from the second tick on: with two to nine ticks the
run stops there.  The return on the initial price is computed after the loop without
a look at that price.

Outside of these a run completes all its ticks and divides by nothing that is zero,
whatever the agents do; with the agents of the source it completes them in the
states of `afterTicks`.
-/

namespace OrderBookExchange

namespace RunState

variable {config : SimulationConfig} {ticks index : Nat} {state : RunState}

/-- A run of a configuration that has completed so many ticks and has not divided by
zero. -/
structure Safe (config : SimulationConfig) (ticks : Nat) (state : RunState) : Prop where
  config_eq : state.sim.config = config
  ticks_eq : state.ticks = ticks
  nonzero : ∀ division ∈ state.divisions, division.byZero = false

/-- What a pass makes of the simulation. -/
def tickSim (behaviour : Behaviour) (returns : Nat → Double) (tick : Nat) (sim : Simulation) :
    Simulation :=
  agents.foldl (fun sim agent => (behaviour.onTick agent tick sim).1)
    (sim.advance tick (returns tick))

namespace Safe

theorem new (config : SimulationConfig) : Safe config 0 { sim := .new config } where
  config_eq := rfl
  ticks_eq := rfl
  nonzero := by
    intro division member
    cases member

theorem advance (safe : Safe config ticks state) (tick : Nat) (returnPct : Double) :
    Safe config ticks { state with sim := state.sim.advance tick returnPct } where
  config_eq := by
    dsimp only
    unfold Simulation.advance
    dsimp only
    split <;> exact safe.config_eq
  ticks_eq := safe.ticks_eq
  nonzero := safe.nonzero

theorem divide (safe : Safe config ticks state) {divisions : List Division}
    (divisionsNonzero : ∀ division ∈ divisions, division.byZero = false) :
    Safe config ticks { state with divisions := state.divisions ++ divisions } where
  config_eq := safe.config_eq
  ticks_eq := safe.ticks_eq
  nonzero := by
    intro division member
    rcases List.mem_append.mp member with earlier | added
    · exact safe.nonzero division earlier
    · exact divisionsNonzero division added

theorem act (safe : Safe config ticks state) (behaviour : Behaviour) (tick : Nat)
    (agent : Agent) : Safe config ticks (state.act behaviour tick agent) where
  config_eq := (behaviour.config_onTick agent tick state.sim).trans safe.config_eq
  ticks_eq := safe.ticks_eq
  nonzero := (safe.divide (behaviour.nonzero agent tick state.sim)).nonzero

theorem foldl_act (safe : Safe config ticks state) (behaviour : Behaviour) (tick : Nat)
    (actors : List Agent) :
    Safe config ticks (actors.foldl (RunState.act behaviour tick) state) := by
  induction actors generalizing state with
  | nil => exact safe
  | cons agent actors induction =>
      rw [List.foldl_cons]
      apply induction
      exact safe.act behaviour tick agent

end Safe

theorem sim_foldl_act (behaviour : Behaviour) (tick : Nat) (actors : List Agent)
    (state : RunState) :
    (actors.foldl (act behaviour tick) state).sim =
      actors.foldl (fun sim agent => (behaviour.onTick agent tick sim).1) state.sim := by
  induction actors generalizing state with
  | nil => rfl
  | cons agent actors induction => exact induction (state.act behaviour tick agent)

/-! ### The progress test -/

/-- On the first tick, and in a run of at least ten, the progress test passes. -/
theorem Safe.reportProgress (safe : Safe config ticks state)
    (divides : index = 0 ∨ 10 ≤ config.numTicks) :
    ∃ next, state.reportProgress index = .ok next ∧ Safe config ticks next ∧
      next.sim = state.sim := by
  unfold RunState.reportProgress
  dsimp only
  rw [safe.config_eq]
  split
  case isFalse first => exact ⟨state, rfl, safe, rfl⟩
  case isTrue later =>
    have enough : 10 ≤ config.numTicks := by omega
    have interval : config.numTicks / 10 ≠ 0 := by omega
    have divided : Safe config ticks
        { state with
          divisions := state.divisions ++ [.integer 10, .integer (config.numTicks / 10)] } := by
      apply safe.divide
      intro division member
      rcases List.mem_pair.mp member with rfl | rfl
      · rfl
      · exact beq_eq_false_iff_ne.mpr interval
    rw [if_neg interval]
    split
    · have percentNonzero : ∀ division ∈ [Division.floating (.ofNat config.numTicks)],
          division.byZero = false := by
        intro division member
        rw [List.mem_singleton.mp member]
        apply Division.byZero_ofNat
        omega
      have reported := divided.divide percentNonzero
      refine ⟨_, rfl, ?_, rfl⟩
      exact ⟨reported.config_eq, reported.ticks_eq, reported.nonzero⟩
    · exact ⟨_, rfl, divided, rfl⟩

/-- From the second tick on a run of fewer than ten is stopped by the progress
test. -/
theorem Safe.reportProgress_stops (safe : Safe config ticks state) (later : 0 < index)
    (few : config.numTicks < 10) :
    ∃ stopped, state.reportProgress index = .error stopped ∧ stopped.ticks = ticks ∧
      Division.integer 0 ∈ stopped.divisions := by
  have interval : config.numTicks / 10 = 0 := by omega
  unfold RunState.reportProgress
  dsimp only
  rw [safe.config_eq, if_pos later, if_pos interval, interval]
  refine ⟨_, rfl, safe.ticks_eq, ?_⟩
  simp

/-! ### One pass -/

theorem Safe.tick (safe : Safe config index state) (behaviour : Behaviour)
    (returns : Nat → Double) (divides : index = 0 ∨ 10 ≤ config.numTicks) :
    ∃ next, RunState.tick behaviour returns index state = .ok next ∧
      Safe config (index + 1) next ∧ next.sim = tickSim behaviour returns index state.sim := by
  have acted := (safe.advance index (returns index)).foldl_act behaviour index agents
  obtain ⟨reported, reports, reportedSafe, simEq⟩ := acted.reportProgress divides
  refine ⟨{ reported with ticks := reported.ticks + 1 }, ?_, ?_, ?_⟩
  · unfold RunState.tick
    dsimp only
    rw [reports]
    rfl
  · exact ⟨reportedSafe.config_eq, congrArg (· + 1) reportedSafe.ticks_eq, reportedSafe.nonzero⟩
  · exact simEq.trans (sim_foldl_act behaviour index agents _)

theorem Safe.tick_stops (safe : Safe config index state) (behaviour : Behaviour)
    (returns : Nat → Double) (later : 0 < index) (few : config.numTicks < 10) :
    ∃ stopped, RunState.tick behaviour returns index state = .error stopped ∧
      stopped.ticks = index ∧ Division.integer 0 ∈ stopped.divisions := by
  have acted := (safe.advance index (returns index)).foldl_act behaviour index agents
  obtain ⟨stopped, stops, ticksEq, divided⟩ := acted.reportProgress_stops later few
  refine ⟨stopped, ?_, ticksEq, divided⟩
  unfold RunState.tick
  dsimp only
  rw [stops]
  rfl

end RunState

/-! ### The whole loop -/

section Loop

variable {config : SimulationConfig} (behaviour : Behaviour) (returns : Nat → Double)

/-- Whatever every pass preserves of the simulation holds after the last tick. -/
theorem tickLoop_invariant (invariant : Nat → Simulation → Prop)
    (initial : invariant 0 (.new config))
    (preserved : ∀ tick sim, invariant tick sim →
      invariant (tick + 1) (RunState.tickSim behaviour returns tick sim))
    (divides : config.numTicks < 2 ∨ 10 ≤ config.numTicks) :
    ∃ final, tickLoop config behaviour returns = .ok final ∧
      final.Safe config config.numTicks ∧ invariant config.numTicks final.sim := by
  apply CountedLoop.loopFrom_invariant
    (fun tick state => RunState.Safe config tick state ∧ invariant tick state.sim)
  · rintro tick state within ⟨safe, holds⟩
    obtain ⟨next, runs, nextSafe, simEq⟩ := safe.tick behaviour returns (by omega)
    refine ⟨next, runs, nextSafe, ?_⟩
    rw [simEq]
    exact preserved tick state.sim holds
  · exact Nat.zero_le config.numTicks
  · exact ⟨.new config, initial⟩

theorem tickLoop_stops (several : 2 ≤ config.numTicks) (few : config.numTicks < 10) :
    ∃ stopped, tickLoop config behaviour returns = .error stopped ∧ stopped.ticks = 1 ∧
      Division.integer 0 ∈ stopped.divisions := by
  obtain ⟨first, runs, firstSafe, -⟩ :=
    (RunState.Safe.new config).tick behaviour returns (Or.inl rfl)
  obtain ⟨stopped, stops, ticksEq, divided⟩ :=
    firstSafe.tick_stops behaviour returns Nat.one_pos few
  refine ⟨stopped, ?_, ticksEq, divided⟩
  unfold tickLoop
  rw [CountedLoop.loopFrom_of_lt (by omega), runs]
  change CountedLoop.loopFrom (RunState.tick behaviour returns) config.numTicks 1 first = _
  rw [CountedLoop.loopFrom_of_lt (by omega), stops]
  rfl

end Loop

namespace Simulation

/-! ### The agents of the source -/

theorem tickSteps_eq (tick : Nat) (input : TickInput) :
    tickSteps tick input =
      .advance tick input.returnPct :: agents.flatMap (agentSteps tick input) :=
  rfl

theorem foldl_traders (inputs : Nat → TickInput) (tick : Nat) (actors : List Agent)
    (sim : Simulation) :
    actors.foldl (fun sim agent => ((traders inputs).onTick agent tick sim).1) sim =
      (Transition.run step sim (actors.flatMap (agentSteps tick (inputs tick)))).1 := by
  induction actors generalizing sim with
  | nil => rfl
  | cons agent actors induction =>
      rw [List.foldl_cons, List.flatMap_cons, Transition.run_append]
      exact induction _

theorem afterTicks_succ (config : SimulationConfig) (inputs : Nat → TickInput) (ticks : Nat) :
    afterTicks config inputs (ticks + 1) =
      (Transition.run step (afterTicks config inputs ticks) (tickSteps ticks (inputs ticks))).1 := by
  unfold afterTicks runSteps
  rw [List.range_succ, List.flatMap_append, Transition.run_append, List.flatMap_singleton]

/-- With the agents of the source, a loop that completes its ticks goes through the
states of `afterTicks`. -/
theorem tickLoop_traders (config : SimulationConfig) (inputs : Nat → TickInput)
    (divides : config.numTicks < 2 ∨ 10 ≤ config.numTicks) :
    ∃ final, tickLoop config (traders inputs) (fun tick => (inputs tick).returnPct) = .ok final ∧
      final.ticks = config.numTicks ∧ final.sim = afterTicks config inputs config.numTicks := by
  have onePass (tick : Nat) (sim : Simulation) (reached : sim = afterTicks config inputs tick) :
      RunState.tickSim (traders inputs) (fun tick => (inputs tick).returnPct) tick sim =
        afterTicks config inputs (tick + 1) := by
    have moved : (sim.step (.advance tick (inputs tick).returnPct)).1 =
        sim.advance tick (inputs tick).returnPct := rfl
    rw [afterTicks_succ, tickSteps_eq, ← reached, Transition.run_cons, moved]
    unfold RunState.tickSim
    rw [foldl_traders]
  obtain ⟨final, finishes, safe, simEq⟩ := tickLoop_invariant (traders inputs)
    (fun tick => (inputs tick).returnPct)
    (fun tick sim => sim = afterTicks config inputs tick) rfl onePass divides
  exact ⟨final, finishes, safe.ticks_eq, simEq⟩

/-! ### The run -/

theorem mem_resultDivisions_initialPrice (sim : Simulation) :
    Division.floating sim.config.initialPrice ∈ sim.resultDivisions := by
  apply List.mem_append_right
  exact List.mem_singleton_self _

theorem nonzero_resultDivisions {sim : Simulation}
    (priced : sim.config.initialPrice.eq 0 = false) :
    ∀ division ∈ sim.resultDivisions, division.byZero = false := by
  intro division member
  rcases List.mem_append.mp member with average | priceReturn
  · split at average
    case isTrue ordered =>
      rw [List.mem_singleton.mp average]
      exact Division.byZero_ofNat ordered
    case isFalse => cases average
  · rw [List.mem_singleton.mp priceReturn]
    exact priced

/-- A run completes all its ticks without a division by zero exactly when it has
fewer than two or at least ten of them and its initial price is not zero. -/
theorem run_divides_safely_iff (config : SimulationConfig) (behaviour : Behaviour)
    (returns : Nat → Double) :
    ((∀ division ∈ (run config behaviour returns).state.divisions, division.byZero = false) ∧
        (run config behaviour returns).state.ticks = config.numTicks) ↔
      (config.numTicks < 2 ∨ 10 ≤ config.numTicks) ∧ config.initialPrice.eq 0 = false := by
  by_cases divides : config.numTicks < 2 ∨ 10 ≤ config.numTicks
  · obtain ⟨final, finishes, safe, -⟩ := tickLoop_invariant behaviour returns
      (fun _ _ => True) trivial (fun _ _ _ => trivial) divides
    unfold run
    rw [finishes]
    constructor
    · rintro ⟨nonzero, -⟩
      refine ⟨divides, ?_⟩
      rw [← safe.config_eq]
      exact nonzero _ (List.mem_append_right _ (mem_resultDivisions_initialPrice final.sim))
    · rintro ⟨-, priced⟩
      rw [← safe.config_eq] at priced
      exact ⟨(safe.divide (nonzero_resultDivisions priced)).nonzero, safe.ticks_eq⟩
  · obtain ⟨stopped, stops, -, divided⟩ := tickLoop_stops behaviour returns
      (show 2 ≤ config.numTicks by omega) (by omega)
    unfold run
    rw [stops]
    constructor
    · rintro ⟨nonzero, -⟩
      exact absurd (nonzero _ divided) (by decide)
    · rintro ⟨allowed, -⟩
      exact absurd allowed divides

/-- A still price, and noise traders that do nothing. -/
def quietInputs (_ : Nat) : TickInput where
  returnPct := 0
  makerNoise := 0
  draws := fun _ => ⟨1, 0, 1, 0, 0⟩
  clocks := fun _ _ => 0

/-- Five ticks are asked for, and the run is stopped in the second by a remainder by
zero.  With ten ticks and no initial price the return is divided by zero. -/
theorem five_ticks_stopped :
    let stopped := run { numTicks := 5 } (traders quietInputs) fun _ => 0
    let unpriced := run { initialPrice := 0, numTicks := 10 } (traders quietInputs) fun _ => 0
    stopped.state.ticks = 1 ∧ Division.integer 0 ∈ stopped.state.divisions ∧
      stopped.results.isNone ∧ unpriced.state.ticks = 10 ∧
      Division.floating 0 ∈ unpriced.state.divisions ∧
      unpriced.results.map SimulationResults.priceReturnPct = some .posInf := by
  decide +kernel

end Simulation

end OrderBookExchange
