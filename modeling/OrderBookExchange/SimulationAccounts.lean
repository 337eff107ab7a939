import OrderBookExchange.MatchWalk
import OrderBookExchange.RestingOrders
import OrderBookExchange.Simulation

/-!
# The accounts of the agents

The trade callback looks up the owners of both orders of a trade while the
submission that causes it is still running.  The submitting agent registers its
order only afterwards, so the callback never finds an owner for the incoming
order and every trade reaches one agent instead of two.  The books of the agents
balance exactly as long as nothing trades.
-/

namespace OrderBookExchange

/-- A trade of a submission is between the new order, whose identifier is the
next one, and an older order. -/
theorem MatchingEngine.submitOrder_trade_ids {engine : MatchingEngine}
    (numbered : engine.Numbered) (clock : Clock) (symbol : Symbol) (side : Side)
    (type : OrderType) (price : Price) (quantity : Quantity) {trade : Trade}
    (member : trade ∈ (engine.submitOrder clock symbol side type price quantity).2.2) :
    ∃ older, older ≠ 0 ∧ older < (engine.book symbol).nextOrderId ∧
      (trade.buyOrderId = (engine.book symbol).nextOrderId ∧ trade.sellOrderId = older ∨
        trade.buyOrderId = older ∧ trade.sellOrderId = (engine.book symbol).nextOrderId) := by
  by_cases rejected : rejects type price quantity = true
  · simp [submitOrder, rejected] at member
  · obtain ⟨linked, unfilled⟩ := numbered.resting.linked symbol
    rw [submitOrder_result engine clock symbol side rejected] at member
    obtain ⟨resting, found, -, older, -, -, buyer, seller⟩ := OrderBook.acceptOrder_trade_terms
      clock side type (effectivePrice side type price) quantity linked unfilled member
    refine ⟨resting.id, numbered.resting.all symbol _ _ found, older, ?_⟩
    rw [buyer, seller]
    cases side.isBuy
    · exact Or.inr ⟨rfl, rfl⟩
    · exact Or.inl ⟨rfl, rfl⟩

namespace Simulation

/-! ### Totals -/

def totalPosition (sim : Simulation) : Int :=
  (agents.map fun agent => (sim.stats agent).position).sum

def totalFills (sim : Simulation) : Nat :=
  (agents.map fun agent => (sim.stats agent).fillsReceived).sum

def totalCash (sim : Simulation) : Double :=
  agents.foldl (fun total agent => total.add (sim.stats agent).cash) 0

def totalStartingCash (sim : Simulation) : Double :=
  agents.foldl (fun total agent => total.add (sim.stats agent).startingCash) 0

/-- What one agent gains another one loses, and both are told of each trade. -/
structure ZeroSum (sim : Simulation) : Prop where
  position : sim.totalPosition = 0
  cash : sim.totalCash = sim.totalStartingCash
  fills : sim.totalFills = 2 * sim.tradeLog.length

theorem totalFills_withStats (sim : Simulation) (agent : Agent) (stats : TraderStats) :
    (sim.withStats agent stats).totalFills + (sim.stats agent).fillsReceived =
      sim.totalFills + stats.fillsReceived := by
  cases agent with
  | marketMaker =>
      simp [totalFills, agents, withStats, Function.update]
      omega
  | momentumTrader =>
      simp [totalFills, agents, withStats, Function.update]
      omega
  | noiseTrader index =>
      fin_cases index <;> simp [totalFills, agents, withStats, Function.update] <;> omega

theorem totalFills_onFill (sim : Simulation) (agent : Agent) (side : Side) (price : Price)
    (quantity : Quantity) :
    (sim.onFill agent side price quantity).totalFills = sim.totalFills + 1 := by
  unfold onFill
  dsimp only
  generalize filledEq : (if side.isBuy = true then _ else _ : TraderStats) = filled
  have counted : filled.fillsReceived = (sim.stats agent).fillsReceived + 1 := by
    rw [← filledEq]
    split <;> rfl
  have balance := totalFills_withStats sim agent filled
  omega

/-! ### The trade callback -/

theorem totalFills_routeFill (sim : Simulation) (orderId : Nat) (side : Side) (trade : Trade) :
    (sim.routeFill orderId side trade).totalFills =
      sim.totalFills + if sim.orderOwner orderId = none then 0 else 1 := by
  unfold routeFill
  cases owner : sim.orderOwner orderId with
  | none => simp
  | some agent => simp [totalFills_onFill]

theorem totalFills_tradeCallback (sim : Simulation) (trade : Trade) :
    (sim.tradeCallback trade).totalFills =
      sim.totalFills + (if sim.orderOwner trade.buyOrderId = none then 0 else 1) +
        if sim.orderOwner trade.sellOrderId = none then 0 else 1 := by
  have routed : (sim.tradeCallback trade).totalFills =
      (({ sim with tradeLog := sim.tradeLog ++ [trade] }.routeFill trade.buyOrderId .buy
        trade).routeFill trade.sellOrderId .sell trade).totalFills := rfl
  rw [routed, totalFills_routeFill, orderOwner_routeFill, totalFills_routeFill]
  rfl

/-- Whether the owner of exactly one order of a trade is known. -/
def OneOwner (sim : Simulation) (trade : Trade) : Prop :=
  (sim.orderOwner trade.buyOrderId = none ↔ sim.orderOwner trade.sellOrderId ≠ none)

theorem totalFills_foldl_tradeCallback (sim : Simulation) {trades : List Trade}
    (oneOwner : ∀ trade ∈ trades, sim.OneOwner trade) :
    (trades.foldl tradeCallback sim).totalFills = sim.totalFills + trades.length := by
  induction trades generalizing sim with
  | nil => rfl
  | cons trade trades ih =>
      have owners := (fields_tradeCallback sim trade).2.2.1
      have first : sim.OneOwner trade := oneOwner trade (by simp)
      have later : ∀ other ∈ trades, (sim.tradeCallback trade).OneOwner other := by
        intro other member
        unfold OneOwner
        rw [owners]
        exact oneOwner other (by simp [member])
      rw [List.foldl_cons, ih _ later, totalFills_tradeCallback, List.length_cons]
      unfold OneOwner at first
      split <;> split <;> first | omega | tauto

/-! ### Registered orders -/

/-- The owners of all orders submitted so far are known and no others, and each
trade has been counted once. -/
structure Accounted (sim : Simulation) : Prop where
  numbered : sim.engine.Numbered
  registered : ∀ id, sim.orderOwner id ≠ none ↔
    id ≠ 0 ∧ id < (sim.engine.book sim.config.symbol).nextOrderId
  fills : sim.totalFills = sim.tradeLog.length

theorem accounted_new (config : SimulationConfig) : (new config).Accounted where
  numbered := MatchingEngine.numbered_new
  registered := by
    intro id
    change (none : Option Agent) ≠ none ↔
      id ≠ 0 ∧ id < (MatchingEngine.new.book config.symbol).nextOrderId
    rw [MatchingEngine.book_new]
    simp [OrderBook.new]
  fills := rfl

section Send

variable {sim : Simulation}

/-- The submission a request causes. -/
def submission (sim : Simulation) (clock : Clock) (request : OrderRequest) :
    MatchingEngine × Nat × List Trade :=
  sim.engine.submitOrder clock sim.config.symbol request.side request.type request.price
    request.quantity

/-- The state in which the callback runs: the order is counted and matched, and
its owner is not registered. -/
def submitted (sim : Simulation) (clock : Clock) (request : OrderRequest) : Simulation :=
  { sim.withStats request.agent
      { sim.stats request.agent with ordersSent := (sim.stats request.agent).ordersSent + 1 } with
    engine := (sim.submission clock request).1 }

theorem sendOrder_eq (sim : Simulation) (clock : Clock) (request : OrderRequest) :
    (sim.sendOrder clock request).1 =
      let traded := (sim.submission clock request).2.2.foldl tradeCallback
        (sim.submitted clock request)
      { traded with
        orderOwner :=
          if 0 < (sim.submission clock request).2.1 then
            Function.update traded.orderOwner (sim.submission clock request).2.1
              (some request.agent)
          else traded.orderOwner } := by
  change (if 0 < (sim.submission clock request).2.1 then _ else _ : Simulation) = _
  split <;> rfl

theorem fields_sendOrder (sim : Simulation) (clock : Clock) (request : OrderRequest) :
    (sim.sendOrder clock request).1.config = sim.config ∧
      (sim.sendOrder clock request).1.engine = (sim.submission clock request).1 ∧
      (sim.sendOrder clock request).1.tradeLog =
        sim.tradeLog ++ (sim.submission clock request).2.2 ∧
      (sim.sendOrder clock request).1.orderOwner =
        if 0 < (sim.submission clock request).2.1 then
          Function.update sim.orderOwner (sim.submission clock request).2.1 (some request.agent)
        else sim.orderOwner := by
  obtain ⟨config, engine, orderOwner, tradeLog⟩ := fields_foldl_tradeCallback
    (sim.submitted clock request) (sim.submission clock request).2.2
  rw [sendOrder_eq]
  dsimp only
  rw [orderOwner]
  exact ⟨config, engine, tradeLog, rfl⟩

/-- The book on which the agents meet. -/
def book (sim : Simulation) : OrderBook :=
  sim.engine.book sim.config.symbol

theorem Accounted.linked (accounted : sim.Accounted) : sim.book.Linked ∧ sim.book.Unfilled :=
  accounted.numbered.resting.linked sim.config.symbol

/-- The engine's result for a request that it accepts. -/
def accepted (sim : Simulation) (clock : Clock) (request : OrderRequest) :
    OrderBook × Nat × List Trade :=
  sim.book.acceptOrder clock request.side request.type
    (effectivePrice request.side request.type request.price) request.quantity

/-- An order is refused, or it is matched and then registered under the next
identifier. -/
theorem sendOrder_cases (accounted : sim.Accounted) (clock : Clock) (request : OrderRequest) :
    ((sim.sendOrder clock request).2 = 0 ∧ (sim.sendOrder clock request).1.book = sim.book ∧
        (sim.sendOrder clock request).1.orderOwner = sim.orderOwner ∧
        (sim.sendOrder clock request).1.tradeLog = sim.tradeLog) ∨
      ((sim.sendOrder clock request).2 = sim.book.nextOrderId ∧
        (sim.sendOrder clock request).1.book = (sim.accepted clock request).1 ∧
        (sim.sendOrder clock request).1.orderOwner =
          Function.update sim.orderOwner sim.book.nextOrderId (some request.agent) ∧
        (sim.sendOrder clock request).1.tradeLog =
          sim.tradeLog ++ (sim.accepted clock request).2.2) := by
  obtain ⟨config, engine, tradeLog, orderOwner⟩ := fields_sendOrder sim clock request
  have idEq : (sim.sendOrder clock request).2 = (sim.submission clock request).2.1 := rfl
  rw [idEq, orderOwner, tradeLog]
  unfold book submission
  rw [config, engine]
  unfold submission
  by_cases rejected : rejects request.type request.price request.quantity = true
  · left
    have noId : (sim.engine.submitOrder clock sim.config.symbol request.side request.type
        request.price request.quantity).2 = (0, []) := by
      simp [MatchingEngine.submitOrder, rejected]
    rw [noId, MatchingEngine.book_submitOrder, if_neg (by simp [rejected])]
    simp
  · right
    have positive := Nat.pos_of_ne_zero (accounted.numbered.counters sim.config.symbol)
    have newId := sim.engine.submitOrder_id clock sim.config.symbol request.side rejected
    have result := sim.engine.submitOrder_result clock sim.config.symbol request.side rejected
    rw [newId, if_pos positive, MatchingEngine.book_submitOrder_accepted _ _ _ _ _ rejected,
      if_pos rfl, result]
    exact ⟨rfl, rfl, rfl, rfl⟩

theorem totalFills_sendOrder (sim : Simulation) (clock : Clock) (request : OrderRequest)
    (oneOwner : ∀ trade ∈ (sim.submission clock request).2.2, sim.OneOwner trade) :
    (sim.sendOrder clock request).1.totalFills =
      sim.totalFills + (sim.submission clock request).2.2.length := by
  have counted := totalFills_withStats sim request.agent
    { sim.stats request.agent with ordersSent := (sim.stats request.agent).ordersSent + 1 }
  have submittedFills : (sim.submitted clock request).totalFills = sim.totalFills :=
    Nat.add_right_cancel counted
  rw [← submittedFills, ← totalFills_foldl_tradeCallback (sim.submitted clock request) oneOwner,
    sendOrder_eq]
  rfl

/-- While a submission runs, the owner of its own order is not yet known. -/
theorem Accounted.oneOwner (accounted : sim.Accounted) (clock : Clock) (request : OrderRequest)
    {trade : Trade} (member : trade ∈ (sim.submission clock request).2.2) :
    sim.OneOwner trade := by
  obtain ⟨older, nonzero, below, parties⟩ :=
    MatchingEngine.submitOrder_trade_ids accounted.numbered clock _ _ _ _ _ member
  have olderKnown : sim.orderOwner older ≠ none := (accounted.registered older).mpr ⟨nonzero, below⟩
  have newUnknown : sim.orderOwner (sim.engine.book sim.config.symbol).nextOrderId = none := by
    by_contra known
    exact absurd ((accounted.registered _).mp known).2 (lt_irrefl _)
  unfold OneOwner
  rcases parties with ⟨buyer, seller⟩ | ⟨buyer, seller⟩
  · rw [buyer, seller]
    exact ⟨fun _ => olderKnown, fun _ => newUnknown⟩
  · rw [buyer, seller]
    exact ⟨fun unknown => absurd unknown olderKnown, fun known => absurd newUnknown known⟩

theorem Accounted.sendOrder (accounted : sim.Accounted) (clock : Clock)
    (request : OrderRequest) : (sim.sendOrder clock request).1.Accounted := by
  obtain ⟨-, engine, tradeLog, -⟩ := fields_sendOrder sim clock request
  constructor
  case numbered =>
    rw [engine]
    exact accounted.numbered.submitOrder clock _ _ _ _ _
  case registered =>
    intro id
    have known := accounted.registered id
    change _ ↔ id ≠ 0 ∧ id < (sim.sendOrder clock request).1.book.nextOrderId
    change _ ↔ id ≠ 0 ∧ id < sim.book.nextOrderId at known
    rcases sendOrder_cases accounted clock request with
      ⟨-, bookEq, ownerEq, -⟩ | ⟨-, bookEq, ownerEq, -⟩
    · rw [bookEq, ownerEq]
      exact known
    · obtain ⟨linked, unfilled⟩ := accounted.linked
      have positive := accounted.numbered.counters sim.config.symbol
      have nextEq : (sim.accepted clock request).1.nextOrderId = sim.book.nextOrderId + 1 :=
        (OrderBook.acceptOrder_conserved clock _ _ _ _ linked unfilled).2.2.1
      rw [bookEq, ownerEq, nextEq]
      by_cases own : id = sim.book.nextOrderId
      · subst own
        rw [Function.update_self]
        exact iff_of_true (by simp) ⟨positive, Nat.lt_succ_self _⟩
      · rw [Function.update_of_ne own, known]
        omega
  case fills =>
    have oneOwner : ∀ trade ∈ (sim.submission clock request).2.2, sim.OneOwner trade :=
      fun _ member => accounted.oneOwner clock request member
    rw [totalFills_sendOrder sim clock request oneOwner, tradeLog, accounted.fills,
      List.length_append]

end Send

/-! ### The steps of a tick -/

section Step

variable {sim : Simulation}

theorem Accounted.sendCancel (accounted : sim.Accounted) (agent : Agent) (orderId : Nat) :
    (sim.sendCancel agent orderId).Accounted where
  numbered := accounted.numbered.cancelOrder _ _
  registered := by
    intro id
    obtain ⟨linked, unfilled⟩ := accounted.numbered.resting.linked sim.config.symbol
    change sim.orderOwner id ≠ none ↔ id ≠ 0 ∧
      id < ((sim.engine.cancelOrder sim.config.symbol orderId).1.book
        sim.config.symbol).nextOrderId
    rw [(MatchingEngine.book_cancelOrder _ _ _ _).1, if_pos rfl,
      (OrderBook.cancelOrder_conserved linked unfilled orderId).2.2.1]
    exact accounted.registered id
  fills := by
    have counted := totalFills_withStats sim agent
      { sim.stats agent with cancelsSent := (sim.stats agent).cancelsSent + 1 }
    exact (Nat.add_right_cancel counted).trans accounted.fills

theorem Accounted.congr {next : Simulation} (same : SameAccounts sim next)
    (accounted : sim.Accounted) : next.Accounted where
  numbered := same.engine ▸ accounted.numbered
  registered := by
    rw [same.orderOwner, same.engine, same.config]
    exact accounted.registered
  fills := by
    rw [totalFills, same.stats, same.tradeLog]
    exact accounted.fills

theorem Accounted.step (accounted : sim.Accounted) (action : SimStep) :
    (sim.step action).1.Accounted := by
  apply step_invariant (fun before same => before.congr same)
    (fun orderId before => before.sendCancel .marketMaker orderId) accounted
  intro request _
  exact accounted.sendOrder action.clock request

/-- The trades a step makes. -/
def stepTrades (sim : Simulation) (action : SimStep) : List Trade :=
  match sim.request action with
  | none => []
  | some request => (sim.submission action.clock request).2.2

theorem tradeLog_step (sim : Simulation) (action : SimStep) :
    (sim.step action).1.tradeLog = sim.tradeLog ++ sim.stepTrades action := by
  unfold stepTrades
  cases requested : sim.request action with
  | none =>
      have unlogged : (sim.prepare action).tradeLog = sim.tradeLog :=
        prepare_invariant (fun before same => same.tradeLog.trans before)
          (fun _ before => before) rfl action
      rw [step_of_none requested, unlogged, List.append_nil]
  | some request =>
      rw [step_of_some requested, (sameAccounts_remember _ _ action).tradeLog]
      exact (fields_sendOrder sim action.clock request).2.2.1

/-- The order a step sends, if any, finds nothing in its reach at the front of
the opposite side. -/
def quiet (sim : Simulation) (action : SimStep) : Bool :=
  match sim.request action with
  | none => true
  | some request =>
      rejects request.type request.price request.quantity ||
        !(sim.engine.book sim.config.symbol).frontInReach request.side
          (effectivePrice request.side request.type request.price)

theorem stepTrades_eq_nil_iff (accounted : sim.Accounted) (action : SimStep) :
    sim.stepTrades action = [] ↔ sim.quiet action = true := by
  unfold stepTrades quiet
  split
  · simp
  · next request _ =>
      unfold submission
      by_cases rejected : rejects request.type request.price request.quantity = true
      · simp [MatchingEngine.submitOrder, rejected]
      · obtain ⟨linked, unfilled⟩ := accounted.numbered.resting.linked sim.config.symbol
        have nonzero : request.quantity ≠ 0 := by
          intro zero
          exact rejected (by simp [rejects, zero])
        rw [MatchingEngine.submitOrder_result _ _ _ _ rejected,
          OrderBook.acceptOrder_trades_eq_nil action.clock _ _ _ nonzero linked unfilled]
        simp [rejected]

end Step

/-! ### Runs without a trade -/

/-- The agents have what they started with. -/
structure Untraded (sim : Simulation) : Prop where
  tradeLog : sim.tradeLog = []
  position : ∀ agent, (sim.stats agent).position = 0
  cash : ∀ agent, (sim.stats agent).cash = (sim.stats agent).startingCash
  fills : ∀ agent, (sim.stats agent).fillsReceived = 0

section Untraded

variable {sim : Simulation}

theorem untraded_new (config : SimulationConfig) : (new config).Untraded :=
  ⟨rfl, fun _ => rfl, fun _ => rfl, fun _ => rfl⟩

theorem Untraded.zeroSum (untraded : sim.Untraded) : sim.ZeroSum where
  position := by simp [totalPosition, agents, untraded.position]
  cash := by simp [totalCash, totalStartingCash, agents, untraded.cash]
  fills := by simp [totalFills, agents, untraded.fills, untraded.tradeLog]

theorem Untraded.congr {next : Simulation} (same : SameAccounts sim next)
    (untraded : sim.Untraded) : next.Untraded := by
  refine ⟨same.tradeLog.trans untraded.tradeLog, ?_, ?_, ?_⟩
  all_goals rw [same.stats]
  · exact untraded.position
  · exact untraded.cash
  · exact untraded.fills

/-- Counting an order or a cancel moves neither shares nor cash. -/
theorem Untraded.withStats (untraded : sim.Untraded) (agent : Agent) (stats : TraderStats)
    (position : stats.position = (sim.stats agent).position)
    (cash : stats.cash = (sim.stats agent).cash ∧
      stats.startingCash = (sim.stats agent).startingCash)
    (fills : stats.fillsReceived = (sim.stats agent).fillsReceived) :
    (sim.withStats agent stats).Untraded := by
  have statsOf : ∀ other, ((sim.withStats agent stats).stats other = stats ∧ other = agent) ∨
      (sim.withStats agent stats).stats other = sim.stats other := by
    intro other
    by_cases same : other = agent
    · exact Or.inl ⟨by simp [Simulation.withStats, same], same⟩
    · exact Or.inr (by simp [Simulation.withStats, same])
  refine ⟨untraded.tradeLog, ?_, ?_, ?_⟩
  · intro other
    rcases statsOf other with ⟨counted, rfl⟩ | unchanged
    · rw [counted, position, untraded.position]
    · rw [unchanged, untraded.position]
  · intro other
    rcases statsOf other with ⟨counted, rfl⟩ | unchanged
    · rw [counted, cash.1, cash.2, untraded.cash]
    · rw [unchanged, untraded.cash]
  · intro other
    rcases statsOf other with ⟨counted, rfl⟩ | unchanged
    · rw [counted, fills, untraded.fills]
    · rw [unchanged, untraded.fills]

theorem Untraded.sendCancel (untraded : sim.Untraded) (agent : Agent) (orderId : Nat) :
    (sim.sendCancel agent orderId).Untraded := by
  have counted := untraded.withStats agent
    { sim.stats agent with cancelsSent := (sim.stats agent).cancelsSent + 1 } rfl ⟨rfl, rfl⟩ rfl
  exact ⟨counted.tradeLog, counted.position, counted.cash, counted.fills⟩

theorem Untraded.sendOrder (untraded : sim.Untraded) {clock : Clock} {request : OrderRequest}
    (noTrades : (sim.submission clock request).2.2 = []) :
    (sim.sendOrder clock request).1.Untraded := by
  have counted := untraded.withStats request.agent
    { sim.stats request.agent with ordersSent := (sim.stats request.agent).ordersSent + 1 }
    rfl ⟨rfl, rfl⟩ rfl
  rw [sendOrder_eq, noTrades]
  exact ⟨counted.tradeLog, counted.position, counted.cash, counted.fills⟩

theorem Untraded.step (untraded : sim.Untraded) (accounted : sim.Accounted) {action : SimStep}
    (quiet : sim.quiet action = true) : (sim.step action).1.Untraded := by
  have noTrades := (stepTrades_eq_nil_iff accounted action).mpr quiet
  apply step_invariant (fun before same => before.congr same)
    (fun orderId before => before.sendCancel .marketMaker orderId) untraded
  intro request requested
  rw [stepTrades, requested] at noTrades
  exact untraded.sendOrder noTrades

end Untraded

/-! ### Whole runs -/

theorem accounted_run {sim : Simulation} (accounted : sim.Accounted) (actions : List SimStep) :
    (Transition.run step sim actions).1.Accounted :=
  Transition.run_of_preserved Accounted (fun _ action accounted => accounted.step action)
    accounted actions

theorem tradeLog_prefix_run (sim : Simulation) (actions : List SimStep) :
    sim.tradeLog <+: (Transition.run step sim actions).1.tradeLog := by
  refine Transition.run_of_preserved (fun later : Simulation => sim.tradeLog <+: later.tradeLog)
    ?_ List.prefix_rfl actions
  intro later action grown
  rw [tradeLog_step]
  exact grown.trans (List.prefix_append _ _)

/-- A run that logs no trade is quiet at every step. -/
theorem along_quiet_of_tradeLog_nil {sim : Simulation} (accounted : sim.Accounted)
    {actions : List SimStep} (empty : (Transition.run step sim actions).1.tradeLog = []) :
    Transition.Along step (fun sim action => sim.quiet action = true) sim actions := by
  induction actions generalizing sim with
  | nil => trivial
  | cons action actions ih =>
      have logged := tradeLog_prefix_run (sim.step action).1 actions
      rw [Transition.run_cons] at empty
      rw [empty, List.prefix_nil, tradeLog_step] at logged
      exact ⟨(stepTrades_eq_nil_iff accounted action).mp (List.append_eq_nil_iff.mp logged).2,
        ih (accounted.step action) empty⟩

theorem untraded_run {sim : Simulation} (untraded : sim.Untraded) (accounted : sim.Accounted)
    {actions : List SimStep}
    (quiet : Transition.Along step (fun sim action => sim.quiet action = true) sim actions) :
    (Transition.run step sim actions).1.Untraded := by
  have both : (Transition.run step sim actions).1.Untraded ∧
      (Transition.run step sim actions).1.Accounted := by
    refine Transition.run_invariant (fun sim : Simulation => sim.Untraded ∧ sim.Accounted) ?_
      ⟨untraded, accounted⟩ quiet
    rintro state action ⟨untraded, accounted⟩ quiet
    exact ⟨untraded.step accounted quiet, accounted.step action⟩
  exact both.1

theorem runSteps_mono (inputs : Nat → TickInput) {ticks more : Nat} (within : ticks ≤ more) :
    runSteps inputs ticks <+: runSteps inputs more := by
  obtain ⟨later, rfl⟩ := Nat.exists_eq_add_of_le within
  rw [runSteps, runSteps, List.range_add, List.flatMap_append]
  exact List.prefix_append _ _

/-- The accounts of the agents balance after every tick of a run exactly if no
order of the run finds an order in its reach. -/
theorem zeroSum_iff_quiet (config : SimulationConfig) (inputs : Nat → TickInput) :
    (∀ ticks ≤ config.numTicks, (afterTicks config inputs ticks).ZeroSum) ↔
      Transition.Along step (fun sim action => sim.quiet action = true) (new config)
        (runSteps inputs config.numTicks) := by
  constructor
  · intro balanced
    have final := balanced config.numTicks le_rfl
    have accounted : (afterTicks config inputs config.numTicks).Accounted :=
      accounted_run (accounted_new config) (runSteps inputs config.numTicks)
    have empty : (afterTicks config inputs config.numTicks).tradeLog.length = 0 := by
      have counted := final.fills
      rw [accounted.fills] at counted
      omega
    exact along_quiet_of_tradeLog_nil (accounted_new config) (List.length_eq_zero_iff.mp empty)
  · intro quiet ticks within
    obtain ⟨rest, whole⟩ := runSteps_mono inputs within
    rw [← whole, Transition.along_append] at quiet
    exact (untraded_run (untraded_new config) (accounted_new config) quiet.1).zeroSum

/-- A still price, and on every tick a market order of the first noise trader
to buy ten shares. -/
def buyingNoise : TickInput where
  returnPct := 0
  makerNoise := 0
  draws := fun index => ⟨if index.val = 0 then 0 else 1, 0, 1, 9 / 10, 0⟩
  clocks := fun _ _ => 0

/-- The first order of the noise trader lifts the market maker's ask.  Only the
market maker is told. -/
theorem first_trade_unbalances :
    ¬∀ ticks ≤ 10, (afterTicks { numTicks := 10 } (fun _ => buyingNoise) ticks).ZeroSum := by
  intro balanced
  exact absurd (balanced 1 (by decide)).fills (by decide +kernel)

end Simulation

end OrderBookExchange
