import OrderBookExchange.EngineTally
import OrderBookExchange.RecordedAccounts
import OrderBookExchange.TickLoop

/-!
# The report of a simulation

The results of a run come from two sources.  The totals are the counters of the
engine, the lines of the traders are what the agents have counted themselves, and
nothing in the source compares the two.  They agree: the engine has seen exactly
the orders that the agents have sent, its trades are those of the log, each of
them is counted as a fill by one agent, and it has cancelled no more orders than
the market maker has asked for.
-/

namespace OrderBookExchange

/-- The part of the counters that trades add to. -/
def Tally.traded (tally : Tally) : Tally :=
  { tally with orders := 0, cancels := 0, rejects := 0 }

theorem Tally.traded_add (first second : Tally) :
    (first + second).traded = first.traded + second.traded :=
  rfl

theorem traded_callTally (entry : EngineOp × EngineOutput) :
    (callTally entry).traded = (entry.2.trades.map Trade.tally).sum := by
  have counts : (callCounts entry).traded = 0 := rfl
  rw [callTally, Tally.traded_add, counts, zero_add, sum_tally]
  rfl

namespace Simulation

variable {sim next : Simulation}

/-! ### What the agents send -/

/-- Two states of an agent's statistics between which it is only told of fills. -/
structure SameSent (before after : TraderStats) : Prop where
  ordersSent : after.ordersSent = before.ordersSent
  cancelsSent : after.cancelsSent = before.cancelsSent
  startingCash : after.startingCash = before.startingCash

theorem SameSent.trans {first second third : TraderStats} (before : SameSent first second)
    (after : SameSent second third) : SameSent first third where
  ordersSent := after.ordersSent.trans before.ordersSent
  cancelsSent := after.cancelsSent.trans before.cancelsSent
  startingCash := after.startingCash.trans before.startingCash

theorem sameSent_onFill (sim : Simulation) (filled : Agent) (side : Side) (price : Price)
    (quantity : Quantity) (agent : Agent) :
    SameSent (sim.stats agent) ((sim.onFill filled side price quantity).stats agent) := by
  unfold onFill withStats
  dsimp only
  by_cases same : agent = filled
  · subst same
    rw [Function.update_self]
    split <;> exact ⟨rfl, rfl, rfl⟩
  · rw [Function.update_of_ne same]
    exact ⟨rfl, rfl, rfl⟩

theorem sameSent_routeFill (sim : Simulation) (orderId : Nat) (side : Side) (trade : Trade)
    (agent : Agent) :
    SameSent (sim.stats agent) ((sim.routeFill orderId side trade).stats agent) := by
  unfold routeFill
  cases sim.orderOwner orderId with
  | none => exact ⟨rfl, rfl, rfl⟩
  | some owner => exact sameSent_onFill sim owner side trade.price trade.quantity agent

theorem sameSent_tradeCallback (sim : Simulation) (trade : Trade) (agent : Agent) :
    SameSent (sim.stats agent) ((sim.tradeCallback trade).stats agent) := by
  have bought := sameSent_routeFill { sim with tradeLog := sim.tradeLog ++ [trade] }
    trade.buyOrderId .buy trade agent
  exact bought.trans (sameSent_routeFill _ trade.sellOrderId .sell trade agent)

theorem sameSent_foldl_tradeCallback (sim : Simulation) (trades : List Trade) (agent : Agent) :
    SameSent (sim.stats agent) ((trades.foldl tradeCallback sim).stats agent) := by
  induction trades generalizing sim with
  | nil => exact ⟨rfl, rfl, rfl⟩
  | cons trade trades induction =>
      exact (sameSent_tradeCallback sim trade agent).trans (induction (sim.tradeCallback trade))

theorem sameSent_sendOrder (sim : Simulation) (clock : Clock) (request : OrderRequest)
    (agent : Agent) :
    SameSent ((sim.submitted clock request).stats agent)
      ((sim.sendOrder clock request).1.stats agent) := by
  rw [sendOrder_eq]
  exact sameSent_foldl_tradeCallback (sim.submitted clock request)
    (sim.submission clock request).2.2 agent

def totalOrdersSent (sim : Simulation) : Nat :=
  (agents.map fun agent => (sim.stats agent).ordersSent).sum

theorem totalOrdersSent_withStats (sim : Simulation) (agent : Agent) (stats : TraderStats) :
    (sim.withStats agent stats).totalOrdersSent + (sim.stats agent).ordersSent =
      sim.totalOrdersSent + stats.ordersSent := by
  cases agent with
  | marketMaker =>
      simp [totalOrdersSent, agents, withStats, Function.update]
      omega
  | momentumTrader =>
      simp [totalOrdersSent, agents, withStats, Function.update]
      omega
  | noiseTrader index =>
      fin_cases index <;> simp [totalOrdersSent, agents, withStats, Function.update] <;> omega

theorem totalOrdersSent_sendOrder (sim : Simulation) (clock : Clock) (request : OrderRequest) :
    (sim.sendOrder clock request).1.totalOrdersSent = sim.totalOrdersSent + 1 := by
  have counted : (sim.submitted clock request).totalOrdersSent +
      (sim.stats request.agent).ordersSent =
        sim.totalOrdersSent + ((sim.stats request.agent).ordersSent + 1) :=
    totalOrdersSent_withStats sim request.agent
      { sim.stats request.agent with ordersSent := (sim.stats request.agent).ordersSent + 1 }
  have told : (sim.sendOrder clock request).1.totalOrdersSent =
      (sim.submitted clock request).totalOrdersSent := by
    unfold totalOrdersSent
    congr 1
    apply List.map_congr_left
    intro agent _
    exact (sameSent_sendOrder sim clock request agent).ordersSent
  omega

/-! ### The counters of the engine -/

/-- The engine's counters agree with what the agents and the log say. -/
structure Reported (sim : Simulation) : Prop where
  accounted : sim.Accounted
  orders : sim.engine.stats.totalOrders = sim.totalOrdersSent
  cancels : sim.engine.stats.totalCancels ≤ (sim.stats .marketMaker).cancelsSent
  traded : sim.engine.stats.tally.traded = (sim.tradeLog.map Trade.tally).sum

namespace Reported

theorem new (config : SimulationConfig) : (Simulation.new config).Reported where
  accounted := accounted_new config
  orders := rfl
  cancels := le_rfl
  traded := rfl

theorem congr (reported : sim.Reported) (same : SameAccounts sim next) : next.Reported where
  accounted := reported.accounted.congr same
  orders := by
    rw [totalOrdersSent, same.engine, same.stats]
    exact reported.orders
  cancels := by
    rw [same.engine, same.stats]
    exact reported.cancels
  traded := by
    rw [same.engine, same.tradeLog]
    exact reported.traded

theorem sendCancel (reported : sim.Reported) (orderId : Nat) :
    (sim.sendCancel .marketMaker orderId).Reported where
  accounted := reported.accounted.sendCancel .marketMaker orderId
  orders := by
    have counted := totalOrdersSent_withStats sim .marketMaker
      { sim.stats .marketMaker with
        cancelsSent := (sim.stats .marketMaker).cancelsSent + 1 }
    have engineOrders := (sim.engine.counts_cancelOrder sim.config.symbol orderId).1
    exact engineOrders.trans (reported.orders.trans (Nat.add_right_cancel counted).symm)
  cancels := by
    have engineCancels := (sim.engine.counts_cancelOrder sim.config.symbol orderId).2.2
    have asked : ((sim.sendCancel .marketMaker orderId).stats .marketMaker).cancelsSent =
        (sim.stats .marketMaker).cancelsSent + 1 := by
      unfold Simulation.sendCancel withStats
      dsimp only
      rw [Function.update_self]
    have before := reported.cancels
    change (sim.engine.cancelOrder sim.config.symbol orderId).1.stats.totalCancels ≤ _
    rw [engineCancels, asked]
    split
    · omega
    · omega
  traded := by
    have counted := sim.engine.tally_cancelOrder sim.config.symbol orderId
    have unchanged := congrArg Tally.traded counted
    rw [Tally.traded_add, traded_callTally, reported.traded] at unchanged
    exact unchanged.trans (add_zero _)

theorem sendOrder (reported : sim.Reported) (clock : Clock) (request : OrderRequest) :
    (sim.sendOrder clock request).1.Reported := by
  obtain ⟨-, engineEq, logEq, -⟩ := fields_sendOrder sim clock request
  have counted := sim.engine.tally_submitOrder clock sim.config.symbol request.side request.type
    request.price request.quantity
  have stepEq : (sim.engine.step (.submit clock sim.config.symbol request.side request.type
      request.price request.quantity)).1 = (sim.submission clock request).1 := rfl
  rw [stepEq] at counted
  constructor
  case accounted => exact reported.accounted.sendOrder clock request
  case orders =>
    have one := congrArg Tally.orders counted
    rw [callTally, sum_tally] at one
    simp only [Tally.orders_add, callCounts, submits, if_true, Nat.add_zero] at one
    rw [engineEq, totalOrdersSent_sendOrder, ← reported.orders]
    exact one
  case cancels =>
    have none := congrArg Tally.cancels counted
    rw [callTally, sum_tally] at none
    simp only [Tally.cancels_add, callCounts, cancelledId, Option.isSome_none,
      Bool.false_eq_true, if_false, Nat.add_zero] at none
    have asked := (sameSent_sendOrder sim clock request .marketMaker).cancelsSent
    have submittedEq : ((sim.submitted clock request).stats .marketMaker).cancelsSent =
        (sim.stats .marketMaker).cancelsSent := by
      unfold submitted withStats
      dsimp only
      by_cases sender : request.agent = .marketMaker
      · rw [sender, Function.update_self]
      · rw [Function.update_of_ne (Ne.symm sender)]
    rw [engineEq, asked, submittedEq]
    exact none.trans_le reported.cancels
  case traded =>
    have added := congrArg Tally.traded counted
    rw [Tally.traded_add, traded_callTally, reported.traded] at added
    rw [engineEq, logEq, List.map_append, List.sum_append]
    exact added

theorem step (reported : sim.Reported) (action : SimStep) : (sim.step action).1.Reported := by
  apply step_invariant (fun before same => before.congr same)
    (fun orderId before => before.sendCancel orderId) reported
  intro request _
  exact reported.sendOrder action.clock request

theorem afterTicks (config : SimulationConfig) (inputs : Nat → TickInput) (ticks : Nat) :
    (Simulation.afterTicks config inputs ticks).Reported :=
  Transition.run_of_preserved Reported (fun _ action before => before.step action)
    (Reported.new config) (runSteps inputs ticks)

end Reported

/-! ### The results -/

/-- A run that returns results has gone through all its ticks. -/
theorem results_of_run {config : SimulationConfig} {inputs : Nat → TickInput}
    {results : SimulationResults}
    (finished : (run config (traders inputs) fun tick => (inputs tick).returnPct).results =
      some results) :
    (run config (traders inputs) fun tick => (inputs tick).returnPct).state.sim =
        afterTicks config inputs config.numTicks ∧
      results = (afterTicks config inputs config.numTicks).results := by
  by_cases divides : config.numTicks < 2 ∨ 10 ≤ config.numTicks
  · obtain ⟨final, finishes, -, simEq⟩ := tickLoop_traders config inputs divides
    unfold run at finished ⊢
    rw [finishes] at finished ⊢
    rw [← simEq]
    exact ⟨rfl, (Option.some.inj finished).symm⟩
  · have several : 2 ≤ config.numTicks := by omega
    obtain ⟨stopped, stops, -, -⟩ := tickLoop_stops (traders inputs)
      (fun tick => (inputs tick).returnPct) several (by omega)
    unfold run at finished
    rw [stops] at finished
    cases finished

/-- The notional of some trades, added up as the engine does it. -/
theorem notional_sum_tally (trades : List Trade) (total : Double) :
    total.add (trades.map Trade.tally).sum.notional =
      trades.foldl (fun total trade => total.add (trade.price.mul (.ofNat trade.quantity.toNat)))
        total := by
  induction trades generalizing total with
  | nil => exact (Double.add_comm _ _).trans (Double.zero_add _)
  | cons trade trades induction =>
      rw [List.foldl_cons, ← induction, List.map_cons, List.sum_cons, Tally.notional_add,
        Double.add_assoc]
      rfl

/-- The totals of a report against the lines of its traders and against the log of
trades. -/
theorem report_adds_up (config : SimulationConfig) (inputs : Nat → TickInput)
    (results : SimulationResults)
    (finished : (run config (traders inputs) fun tick => (inputs tick).returnPct).results =
      some results) :
    let sim := (run config (traders inputs) fun tick => (inputs tick).returnPct).state.sim
    results.totalOrders = (results.traderResults.map TraderResult.ordersSent).sum ∧
      results.totalTrades = (results.traderResults.map TraderResult.fillsReceived).sum ∧
      results.totalTrades = sim.tradeLog.length ∧
      results.totalVolume = (sim.tradeLog.map fun trade => trade.quantity.toNat).sum ∧
      results.totalNotional = sim.tradeLog.foldl
        (fun total trade => total.add (trade.price.mul (.ofNat trade.quantity.toNat))) 0 ∧
      results.totalCancels ≤ (sim.stats .marketMaker).cancelsSent := by
  obtain ⟨simEq, rfl⟩ := results_of_run finished
  intro sim
  have simIs : sim = afterTicks config inputs config.numTicks := simEq
  clear_value sim
  subst simIs
  have reported := Reported.afterTicks config inputs config.numTicks
  have traded := reported.traded
  have notional := congrArg Tally.notional traded
  rw [← Double.zero_add (Tally.notional (List.sum _)), notional_sum_tally] at notional
  rw [sum_tally] at traded
  have trades := congrArg Tally.trades traded
  refine ⟨reported.orders, ?_, trades, congrArg Tally.volume traded, notional, reported.cancels⟩
  exact trades.trans reported.accounted.fills.symm

/-- In one tick a noise trader sells fifty shares to the market maker. -/
theorem report_adds_up_one_sale :
    ∃ results,
      (run { numTicks := 1 } (traders sellingNoise) fun tick =>
          (sellingNoise tick).returnPct).results = some results ∧
        results.totalTrades = 1 ∧
        (results.traderResults.map TraderResult.fillsReceived).sum = 1 := by
  have trades : (run { numTicks := 1 } (traders sellingNoise) fun tick =>
      (sellingNoise tick).returnPct).results.map SimulationResults.totalTrades = some 1 := by
    decide +kernel
  obtain ⟨results, finished, one⟩ := Option.map_eq_some_iff.mp trades
  have adds := report_adds_up { numTicks := 1 } sellingNoise results finished
  exact ⟨results, finished, one, adds.2.1.symm.trans one⟩

end Simulation

end OrderBookExchange
