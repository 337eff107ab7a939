import OrderBookExchange.CountedLoop
import OrderBookExchange.SimulationAccounts

/-!
# The run of a simulation

`Simulation::run` as a loop over ticks: the price moves, the agents act in their
order, and every tenth of the run a progress line is printed.  After the loop the
results are put together.

The run keeps a record of the divisions and remainders it evaluates, each with its
divisor.  An integer division by zero has no result and stops the run where it
stands; a floating division by zero gives an infinity or a NaN, and the run goes on.

What the agents do on a tick is a parameter.  The agents of the source, with
their random draws, are one instance of it.
-/

namespace OrderBookExchange

/-- The IEEE quotient.  A zero divisor counts as a positive zero. -/
def Double.div : Double → Double → Double
  | .nan, _ | _, .nan => .nan
  | .finite left, .finite right =>
      if right = 0 then infinityWithSign left else .finite (left / right)
  | .finite _, _ => 0
  | .posInf, .finite right => if right < 0 then .negInf else .posInf
  | .negInf, .finite right => if right < 0 then .posInf else .negInf
  | _, _ => .nan

/-- A division or a remainder that is evaluated, with its divisor. -/
inductive Division where
  | integer (divisor : Nat)
  | floating (divisor : Double)
  deriving DecidableEq

def Division.byZero : Division → Bool
  | .integer divisor => divisor == 0
  | .floating divisor => divisor.eq 0

theorem Division.byZero_ofNat {number : Nat} (positive : 0 < number) :
    (Division.floating (.ofNat number)).byZero = false := by
  have nonzero : (number : ℚ) ≠ 0 := Nat.cast_ne_zero.mpr positive.ne'
  simp [Division.byZero, Double.ofNat, Double.eq, nonzero]

/-- What the agents do on a tick, and the divisions they evaluate on the way.  They
do not reach the configuration, and divide by nothing that is zero. -/
structure Behaviour where
  onTick : Agent → Nat → Simulation → Simulation × List Division
  config_onTick : ∀ agent tick sim, (onTick agent tick sim).1.config = sim.config
  nonzero : ∀ agent tick sim, ∀ division ∈ (onTick agent tick sim).2, division.byZero = false

/-- The values in a progress line. -/
structure Progress where
  percent : Nat
  price : Double
  trades : Nat
  orders : Nat

/-- A run under way: the ticks it has completed, the divisions it has evaluated and
the progress it has printed. -/
structure RunState where
  sim : Simulation
  ticks : Nat := 0
  divisions : List Division := []
  progress : List Progress := []

namespace RunState

/-- One agent's `on_tick`. -/
def act (behaviour : Behaviour) (tick : Nat) (state : RunState) (agent : Agent) : RunState :=
  let acted := behaviour.onTick agent tick state.sim
  { state with sim := acted.1, divisions := state.divisions ++ acted.2 }

/-- The end of the loop body.  On the first tick the remainder is not evaluated. -/
def reportProgress (state : RunState) (tick : Nat) : Except RunState RunState :=
  let numTicks := state.sim.config.numTicks
  if 0 < tick then
    let interval := numTicks / 10
    let divided :=
      { state with divisions := state.divisions ++ [.integer 10, .integer interval] }
    if interval = 0 then .error divided
    else if tick % interval = 0 then
      .ok { divided with
        divisions := divided.divisions ++ [.floating (.ofNat numTicks)]
        progress := divided.progress ++
          [{ percent := 100 * tick / numTicks
             price := state.sim.truePrice
             trades := state.sim.engine.stats.totalTrades
             orders := state.sim.engine.stats.totalOrders }] }
    else .ok divided
  else .ok state

/-- The loop body, with the return that the price walk draws for each tick. -/
def tick (behaviour : Behaviour) (returns : Nat → Double) (tick : Nat) (state : RunState) :
    Except RunState RunState :=
  let advanced := { state with sim := state.sim.advance tick (returns tick) }
  let acted := agents.foldl (act behaviour tick) advanced
  (acted.reportProgress tick).map fun state => { state with ticks := state.ticks + 1 }

end RunState

/-! ### Results -/

def TraderStats.calculatePnl (stats : TraderStats) (currentPrice : Double) : Double :=
  (stats.cash.sub stats.startingCash).add ((Double.finite stats.position).mul currentPrice)

structure TraderResult where
  name : String
  finalPosition : Int
  pnl : Double
  ordersSent : Nat
  fillsReceived : Nat

structure SimulationResults where
  totalTicks : Nat
  totalOrders : Nat
  totalCancels : Nat
  totalTrades : Nat
  totalVolume : Nat
  totalNotional : Double
  avgLatencyNs : Double
  minLatencyNs : Double
  maxLatencyNs : Double
  finalPrice : Double
  priceReturnPct : Double
  traderResults : List TraderResult

namespace Simulation

def traderResult (sim : Simulation) (agent : Agent) : TraderResult where
  name := agent.name
  finalPosition := (sim.stats agent).position
  pnl := (sim.stats agent).calculatePnl sim.truePrice
  ordersSent := (sim.stats agent).ordersSent
  fillsReceived := (sim.stats agent).fillsReceived

def results (sim : Simulation) : SimulationResults :=
  let stats := sim.engine.stats
  { totalTicks := sim.config.numTicks
    totalOrders := stats.totalOrders
    totalCancels := stats.totalCancels
    totalTrades := stats.totalTrades
    totalVolume := stats.totalVolume
    totalNotional := stats.totalNotional
    avgLatencyNs := .finite stats.avgLatencyNs
    minLatencyNs := .ofNat stats.minLatencyNs
    maxLatencyNs := .ofNat stats.maxLatencyNs
    finalPrice := sim.truePrice
    priceReturnPct :=
      ((sim.truePrice.sub sim.config.initialPrice).div sim.config.initialPrice).mul (.finite 100)
    traderResults := agents.map sim.traderResult }

/-- The divisions of the results: the average latency asks for an order first, the
return on the initial price asks for nothing. -/
def resultDivisions (sim : Simulation) : List Division :=
  (if 0 < sim.engine.stats.totalOrders then
    [.floating (.ofNat sim.engine.stats.totalOrders)]
  else []) ++ [.floating sim.config.initialPrice]

end Simulation

/-- Where a run ends, and what it returns unless it was stopped. -/
structure RunOutcome where
  state : RunState
  results : Option SimulationResults

/-- The tick loop, with the state in which it was stopped as the fault. -/
def tickLoop (config : SimulationConfig) (behaviour : Behaviour) (returns : Nat → Double) :
    Except RunState RunState :=
  CountedLoop.loopFrom (RunState.tick behaviour returns) config.numTicks 0 { sim := .new config }

/-- `Simulation::run`. -/
def Simulation.run (config : SimulationConfig) (behaviour : Behaviour)
    (returns : Nat → Double) : RunOutcome :=
  match tickLoop config behaviour returns with
  | .error state => ⟨state, none⟩
  | .ok state =>
      ⟨{ state with divisions := state.divisions ++ state.sim.resultDivisions },
        some state.sim.results⟩

/-! ### The agents of the source -/

namespace Simulation

/-- The divisions a step evaluates.  The momentum trader divides by the size of its
window once that is full and its cooldown is over. -/
def divisions (sim : Simulation) : SimStep → List Division
  | .advance _ _ | .quoteBid _ | .quoteAsk _ => []
  | .cancelQuotes _ => [.floating (.finite 100), .floating (.finite 100)]
  | .followTrend tick _ =>
      if sim.priceHistory.length < windowSize then []
      else if tick - sim.lastTradeTick < 5 then []
      else [.floating (.ofNat sim.priceHistory.length)]
  | .noise _ draws _ =>
      if 3 / 10 < draws.activity then []
      else if draws.kind < 7 / 10 then [.integer 10, .floating (.finite 100)]
      else [.integer 10]

/-- The divisions of several steps. -/
def stepsDivisions : Simulation → List SimStep → List Division
  | _, [] => []
  | sim, action :: actions => sim.divisions action ++ stepsDivisions (sim.step action).1 actions

theorem config_step (sim : Simulation) (action : SimStep) :
    (sim.step action).1.config = sim.config := by
  refine step_invariant (fun before same => same.config.trans before)
    (fun _ before => before) rfl ?_
  intro request _
  exact (fields_sendOrder sim action.clock request).1

theorem config_run (sim : Simulation) (actions : List SimStep) :
    (Transition.run step sim actions).1.config = sim.config := by
  refine Transition.run_of_preserved (fun later : Simulation => later.config = sim.config)
    ?_ rfl actions
  intro later action kept
  exact (config_step later action).trans kept

/-- No step of an agent divides by zero: its divisors are constants and the size
of a full window. -/
theorem nonzero_divisions (sim : Simulation) (action : SimStep) :
    ∀ division ∈ sim.divisions action, division.byZero = false := by
  intro division member
  cases action with
  | advance | quoteBid | quoteAsk => cases member
  | cancelQuotes noise =>
      have constant : division = .floating (.finite 100) := by simpa [divisions] using member
      rw [constant]
      decide +kernel
  | followTrend tick clock =>
      rw [divisions] at member
      split at member
      · cases member
      case isFalse full =>
        split at member
        · cases member
        · rw [List.mem_singleton] at member
          subst member
          apply Division.byZero_ofNat
          unfold windowSize at full
          omega
  | noise index draws clock =>
      have constant : division = .integer 10 ∨ division = .floating (.finite 100) := by
        rw [divisions] at member
        split at member
        · cases member
        · split at member
          · simpa using member
          · exact Or.inl (by simpa using member)
      rcases constant with rfl | rfl
      · rfl
      · decide +kernel

theorem nonzero_stepsDivisions (sim : Simulation) (actions : List SimStep) :
    ∀ division ∈ sim.stepsDivisions actions, division.byZero = false := by
  induction actions generalizing sim with
  | nil =>
      intro division member
      cases member
  | cons action actions induction =>
      intro division member
      rcases List.mem_append.mp member with here | later
      · exact nonzero_divisions sim action division here
      · exact induction (sim.step action).1 division later

/-- The agents of the source, with the random draws and clocks of every tick. -/
def traders (inputs : Nat → TickInput) : Behaviour where
  onTick agent tick sim :=
    ((Transition.run step sim (agentSteps tick (inputs tick) agent)).1,
      sim.stepsDivisions (agentSteps tick (inputs tick) agent))
  config_onTick agent tick sim := config_run sim (agentSteps tick (inputs tick) agent)
  nonzero agent tick sim := nonzero_stepsDivisions sim (agentSteps tick (inputs tick) agent)

end Simulation

end OrderBookExchange
