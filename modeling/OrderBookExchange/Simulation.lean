import OrderBookExchange.MatchingEngine
import Mathlib.Algebra.Order.Floor.Ring
import Mathlib.Data.Rat.Floor

/-!
# The agent simulation

Five agents trade through one engine: a market maker, a momentum trader and
three noise traders.  A tick is taken apart into its steps, so that every step
sends at most one order.  What an agent computes in one step and uses in the
next, the market maker's two prices, is part of the state.

Random draws and the moves of the reference price are inputs.  The arithmetic
of prices is exact, with the decimal constants of the source as rationals.
-/

namespace OrderBookExchange

namespace Double

/-- `std::max` against a constant. -/
def atLeast (value : Double) (bound : ℚ) : Double :=
  if value.lt (.finite bound) then .finite bound else value

/-- `std::round`, with ties away from zero. -/
def roundRat (value : ℚ) : ℤ :=
  if 0 ≤ value then ⌊value + 1 / 2⌋ else -⌊-value + 1 / 2⌋

/-- `std::round(value * 100.0) / 100.0`. -/
def roundCents : Double → Double
  | .finite value => .finite (roundRat (value * 100) / 100)
  | value => value

def divNat (value : Double) (divisor : Nat) : Double :=
  value.mul (.finite (1 / divisor))

end Double

/-- The agents, which share one engine and one symbol. -/
inductive Agent where
  | marketMaker
  | momentumTrader
  | noiseTrader (index : Fin 3)
  deriving DecidableEq

def Agent.name : Agent → String
  | .marketMaker => "MarketMaker"
  | .momentumTrader => "MomentumTrader"
  | .noiseTrader _ => "NoiseTrader"

/-- The agents in the order in which they act. -/
def agents : List Agent :=
  [.marketMaker, .momentumTrader, .noiseTrader 0, .noiseTrader 1, .noiseTrader 2]

structure TraderStats where
  position : Int := 0
  cash : Double := .finite 100000
  startingCash : Double := .finite 100000
  ordersSent : Nat := 0
  fillsReceived : Nat := 0
  cancelsSent : Nat := 0

structure SimulationConfig where
  symbol : Symbol := [65, 65, 80, 76]
  initialPrice : Double := .finite 150
  numTicks : Nat := 10000

structure Simulation where
  config : SimulationConfig
  engine : MatchingEngine
  stats : Agent → TraderStats
  truePrice : Double
  tradeLog : List Trade
  orderOwner : Nat → Option Agent
  fairValue : Double
  activeBidId : Nat
  activeAskId : Nat
  bidPrice : Price
  askPrice : Price
  priceHistory : List Double
  lastTradeTick : Nat
  referencePrice : Double

/-- The random draws of a noise trader on one tick. -/
structure NoiseDraws where
  activity : ℚ
  side : Nat
  lots : Nat
  kind : ℚ
  offset : ℚ

/-- One step of a tick. -/
inductive SimStep where
  | advance (tick : Nat) (returnPct : Double)
  | cancelQuotes (noise : ℚ)
  | quoteBid (clock : Clock)
  | quoteAsk (clock : Clock)
  | followTrend (tick : Nat) (clock : Clock)
  | noise (index : Fin 3) (draws : NoiseDraws) (clock : Clock)

/-- An order an agent decides to send. -/
structure OrderRequest where
  agent : Agent
  side : Side
  type : OrderType
  price : Price
  quantity : Quantity

namespace Simulation

def new (config : SimulationConfig) : Simulation where
  config := config
  engine := .new
  stats := fun _ => {}
  truePrice := config.initialPrice
  tradeLog := []
  orderOwner := fun _ => none
  fairValue := config.initialPrice
  activeBidId := 0
  activeAskId := 0
  bidPrice := 0
  askPrice := 0
  priceHistory := []
  lastTradeTick := 0
  referencePrice := .finite 100

def withStats (sim : Simulation) (agent : Agent) (stats : TraderStats) : Simulation :=
  { sim with stats := Function.update sim.stats agent stats }

/-! ### Fills and orders -/

/-- `Trader::on_fill`. -/
def onFill (sim : Simulation) (agent : Agent) (side : Side) (price : Price)
    (quantity : Quantity) : Simulation :=
  let stats := sim.stats agent
  let amount := price.mul (.ofNat quantity.toNat)
  sim.withStats agent
    (if side.isBuy then
      { stats with
        fillsReceived := stats.fillsReceived + 1
        position := stats.position + quantity.toNat
        cash := stats.cash.sub amount }
    else
      { stats with
        fillsReceived := stats.fillsReceived + 1
        position := stats.position - quantity.toNat
        cash := stats.cash.add amount })

/-- Route one leg of a trade to the owner of its order, if it is known. -/
def routeFill (sim : Simulation) (orderId : Nat) (side : Side) (trade : Trade) : Simulation :=
  match sim.orderOwner orderId with
  | none => sim
  | some agent => sim.onFill agent side trade.price trade.quantity

def windowSize : Nat := 20

/-- `MomentumTrader::update_price`: a rolling window of the latest prices. -/
def updatePrice (sim : Simulation) (price : Double) : Simulation :=
  let history := sim.priceHistory ++ [price]
  { sim with
    priceHistory := if windowSize < history.length then history.tail else history }

/-- The trade callback: log the trade, route both legs and feed the momentum
trader. -/
def tradeCallback (sim : Simulation) (trade : Trade) : Simulation :=
  let logged := { sim with tradeLog := sim.tradeLog ++ [trade] }
  let bought := logged.routeFill trade.buyOrderId .buy trade
  let sold := bought.routeFill trade.sellOrderId .sell trade
  sold.updatePrice trade.price

section Fields

variable (sim : Simulation) (orderId : Nat) (side : Side) (trade : Trade)

@[simp]
theorem config_routeFill : (sim.routeFill orderId side trade).config = sim.config := by
  unfold routeFill
  split <;> rfl

@[simp]
theorem engine_routeFill : (sim.routeFill orderId side trade).engine = sim.engine := by
  unfold routeFill
  split <;> rfl

@[simp]
theorem orderOwner_routeFill :
    (sim.routeFill orderId side trade).orderOwner = sim.orderOwner := by
  unfold routeFill
  split <;> rfl

@[simp]
theorem tradeLog_routeFill : (sim.routeFill orderId side trade).tradeLog = sim.tradeLog := by
  unfold routeFill
  split <;> rfl

theorem fields_tradeCallback :
    (sim.tradeCallback trade).config = sim.config ∧
      (sim.tradeCallback trade).engine = sim.engine ∧
      (sim.tradeCallback trade).orderOwner = sim.orderOwner ∧
      (sim.tradeCallback trade).tradeLog = sim.tradeLog ++ [trade] := by
  simp [tradeCallback, updatePrice]

theorem fields_foldl_tradeCallback (trades : List Trade) :
    (trades.foldl tradeCallback sim).config = sim.config ∧
      (trades.foldl tradeCallback sim).engine = sim.engine ∧
      (trades.foldl tradeCallback sim).orderOwner = sim.orderOwner ∧
      (trades.foldl tradeCallback sim).tradeLog = sim.tradeLog ++ trades := by
  induction trades generalizing sim with
  | nil => simp
  | cons trade trades ih =>
      obtain ⟨config, engine, orderOwner, tradeLog⟩ := ih (sim.tradeCallback trade)
      obtain ⟨config', engine', orderOwner', tradeLog'⟩ := fields_tradeCallback sim trade
      rw [List.foldl_cons]
      refine ⟨config.trans config', engine.trans engine', orderOwner.trans orderOwner', ?_⟩
      rw [tradeLog, tradeLog', List.append_assoc]
      rfl

end Fields

/-- `Trader::send_order`: the trade callback runs inside `submit_order`, and the
owner of the order is registered when that returns. -/
def sendOrder (sim : Simulation) (clock : Clock) (request : OrderRequest) : Simulation × Nat :=
  let stats := sim.stats request.agent
  let counted := sim.withStats request.agent { stats with ordersSent := stats.ordersSent + 1 }
  let result := counted.engine.submitOrder clock sim.config.symbol request.side request.type
    request.price request.quantity
  let traded := result.2.2.foldl tradeCallback { counted with engine := result.1 }
  (if 0 < result.2.1 then
    { traded with
      orderOwner := Function.update traded.orderOwner result.2.1 (some request.agent) }
  else traded, result.2.1)

/-- `Trader::send_cancel`. -/
def sendCancel (sim : Simulation) (agent : Agent) (orderId : Nat) : Simulation :=
  let stats := sim.stats agent
  { sim.withStats agent { stats with cancelsSent := stats.cancelsSent + 1 } with
    engine := (sim.engine.cancelOrder sim.config.symbol orderId).1 }

/-! ### The agents -/

/-- The reference price moves, and the agents are told. -/
def advance (sim : Simulation) (tick : Nat) (returnPct : Double) : Simulation :=
  let price := (sim.truePrice.mul ((Double.finite 1).add returnPct)).atLeast (1 / 100)
  let told := { sim with truePrice := price, fairValue := price, referencePrice := price }
  if tick = 0 then told.updatePrice price else told

/-- The market maker cancels its stale bid. -/
def cancelBid (sim : Simulation) : Simulation :=
  if 0 < sim.activeBidId then
    { sim.sendCancel .marketMaker sim.activeBidId with activeBidId := 0 }
  else sim

def cancelAsk (sim : Simulation) : Simulation :=
  if 0 < sim.activeAskId then
    { sim.sendCancel .marketMaker sim.activeAskId with activeAskId := 0 }
  else sim

/-- The prices of the new quotes: around the fair value, skewed against the
inventory, rounded to a cent and not crossed. -/
def priceQuotes (sim : Simulation) (noise : ℚ) : Simulation :=
  let skew : ℚ := -(sim.stats .marketMaker).position * (1 / 1000)
  let bid := (((sim.fairValue.sub (.finite (5 / 100))).add (.finite skew)).add
    (.finite noise)).roundCents
  let ask := (((sim.fairValue.add (.finite (5 / 100))).add (.finite skew)).add
    (.finite noise)).roundCents
  { sim with
    bidPrice := bid
    askPrice := if ask.le bid then bid.add (.finite (1 / 100)) else ask }

/-- The market maker's tick up to its first order. -/
def cancelQuotes (sim : Simulation) (noise : ℚ) : Simulation :=
  sim.cancelBid.cancelAsk.priceQuotes noise

/-- The momentum trader's signal: the latest price against the average of its
window. -/
def deviation (sim : Simulation) : Double :=
  let sum := sim.priceHistory.foldl Double.add 0
  (sim.priceHistory.getLastD 0).sub (sum.divNat sim.priceHistory.length)

/-- The order a step sends, if it sends one. -/
def request (sim : Simulation) : SimStep → Option OrderRequest
  | .advance _ _ => none
  | .cancelQuotes _ => none
  | .quoteBid _ =>
      if (sim.stats .marketMaker).position < 1000 then
        some ⟨.marketMaker, .buy, .limit, sim.bidPrice, 100⟩
      else none
  | .quoteAsk _ =>
      if -1000 < (sim.stats .marketMaker).position then
        some ⟨.marketMaker, .sell, .limit, sim.askPrice, 100⟩
      else none
  | .followTrend tick _ =>
      if sim.priceHistory.length < windowSize then none
      else if tick - sim.lastTradeTick < 5 then none
      else if (Double.finite (1 / 10)).lt sim.deviation ∧
          (sim.stats .momentumTrader).position < 500 then
        some ⟨.momentumTrader, .buy, .market, 0, 50⟩
      else if sim.deviation.lt (.finite (-1 / 10)) ∧
          -500 < (sim.stats .momentumTrader).position then
        some ⟨.momentumTrader, .sell, .market, 0, 50⟩
      else none
  | .noise index draws _ =>
      if 3 / 10 < draws.activity then none
      else
        let side := if draws.side = 0 then Side.buy else .sell
        let quantity := UInt32.ofNat (draws.lots * 10)
        if draws.kind < 7 / 10 then
          let price := (sim.referencePrice.add (.finite draws.offset)).roundCents
          some ⟨.noiseTrader index, side, .limit,
            if price.le 0 then .finite (1 / 100) else price, quantity⟩
        else some ⟨.noiseTrader index, side, .market, 0, quantity⟩

/-- What a step does besides sending its order. -/
def prepare (sim : Simulation) : SimStep → Simulation
  | .advance tick returnPct => sim.advance tick returnPct
  | .cancelQuotes noise => sim.cancelQuotes noise
  | _ => sim

/-- What the sending agent remembers of its order. -/
def remember (sim : Simulation) (orderId : Nat) : SimStep → Simulation
  | .quoteBid _ => { sim with activeBidId := orderId }
  | .quoteAsk _ => { sim with activeAskId := orderId }
  | .followTrend tick _ => { sim with lastTradeTick := tick }
  | _ => sim

end Simulation

/-- The clock of the submission a step may cause. -/
def SimStep.clock : SimStep → Clock
  | .quoteBid clock | .quoteAsk clock | .followTrend _ clock | .noise _ _ clock => clock
  | _ => fun _ => 0

namespace Simulation

/-- One step. -/
def step (sim : Simulation) (action : SimStep) : Simulation × Unit :=
  match sim.request action with
  | none => (sim.prepare action, ())
  | some request =>
      let sent := sim.sendOrder action.clock request
      (sent.1.remember sent.2 action, ())

theorem step_of_none {sim : Simulation} {action : SimStep} (idle : sim.request action = none) :
    (sim.step action).1 = sim.prepare action := by
  rw [step, idle]

theorem step_of_some {sim : Simulation} {action : SimStep} {request : OrderRequest}
    (sends : sim.request action = some request) :
    (sim.step action).1 =
      (sim.sendOrder action.clock request).1.remember (sim.sendOrder action.clock request).2
        action := by
  rw [step, sends]

/-- Two states that differ only in what the agents keep for their decisions. -/
structure SameAccounts (sim next : Simulation) : Prop where
  config : next.config = sim.config
  engine : next.engine = sim.engine
  stats : next.stats = sim.stats
  orderOwner : next.orderOwner = sim.orderOwner
  tradeLog : next.tradeLog = sim.tradeLog

theorem sameAccounts_remember (sim : Simulation) (orderId : Nat) (action : SimStep) :
    SameAccounts sim (sim.remember orderId action) := by
  cases action <;> exact ⟨rfl, rfl, rfl, rfl, rfl⟩

/-- Besides sending its order, a step at most cancels orders of the market
maker. -/
theorem prepare_invariant {invariant : Simulation → Prop}
    (same : ∀ {sim next : Simulation}, invariant sim → SameAccounts sim next → invariant next)
    (cancel : ∀ {sim : Simulation} (orderId : Nat), invariant sim →
      invariant (sim.sendCancel .marketMaker orderId))
    {sim : Simulation} (holds : invariant sim) (action : SimStep) :
    invariant (sim.prepare action) := by
  cases action with
  | advance tick returnPct =>
      change invariant (sim.advance tick returnPct)
      unfold advance
      dsimp only
      split <;> exact same holds ⟨rfl, rfl, rfl, rfl, rfl⟩
  | cancelQuotes noise =>
      have bidCancelled : invariant sim.cancelBid := by
        unfold cancelBid
        split
        · exact same (cancel sim.activeBidId holds) ⟨rfl, rfl, rfl, rfl, rfl⟩
        · exact holds
      have askCancelled : invariant sim.cancelBid.cancelAsk := by
        unfold cancelAsk
        split
        · exact same (cancel sim.cancelBid.activeAskId bidCancelled) ⟨rfl, rfl, rfl, rfl, rfl⟩
        · exact bidCancelled
      exact same askCancelled ⟨rfl, rfl, rfl, rfl, rfl⟩
  | quoteBid | quoteAsk | followTrend | noise => exact holds

/-- A step at most cancels orders of the market maker, or sends the order it
requests. -/
theorem step_invariant {invariant : Simulation → Prop}
    (same : ∀ {sim next : Simulation}, invariant sim → SameAccounts sim next → invariant next)
    (cancel : ∀ {sim : Simulation} (orderId : Nat), invariant sim →
      invariant (sim.sendCancel .marketMaker orderId))
    {sim : Simulation} {action : SimStep} (holds : invariant sim)
    (send : ∀ request, sim.request action = some request →
      invariant (sim.sendOrder action.clock request).1) :
    invariant (sim.step action).1 := by
  cases requested : sim.request action with
  | none =>
      rw [step_of_none requested]
      exact prepare_invariant same cancel holds action
  | some request =>
      rw [step_of_some requested]
      exact same (send request requested) (sameAccounts_remember _ _ action)

/-- The inputs of one tick. -/
structure TickInput where
  returnPct : Double
  makerNoise : ℚ
  draws : Fin 3 → NoiseDraws
  clocks : Fin 6 → Clock

/-- The steps of a tick, in the order of the loop body. -/
def tickSteps (tick : Nat) (input : TickInput) : List SimStep :=
  [.advance tick input.returnPct, .cancelQuotes input.makerNoise,
    .quoteBid (input.clocks 0), .quoteAsk (input.clocks 1), .followTrend tick (input.clocks 2),
    .noise 0 (input.draws 0) (input.clocks 3), .noise 1 (input.draws 1) (input.clocks 4),
    .noise 2 (input.draws 2) (input.clocks 5)]

/-- The steps of an agent's `on_tick`. -/
def agentSteps (tick : Nat) (input : TickInput) : Agent → List SimStep
  | .marketMaker =>
      [.cancelQuotes input.makerNoise, .quoteBid (input.clocks 0), .quoteAsk (input.clocks 1)]
  | .momentumTrader => [.followTrend tick (input.clocks 2)]
  | .noiseTrader index => [.noise index (input.draws index) (input.clocks (index.natAdd 3))]

/-- The steps of the first ticks of a run. -/
def runSteps (inputs : Nat → TickInput) (ticks : Nat) : List SimStep :=
  (List.range ticks).flatMap fun tick => tickSteps tick (inputs tick)

/-- The state after the first ticks of a run. -/
def afterTicks (config : SimulationConfig) (inputs : Nat → TickInput) (ticks : Nat) :
    Simulation :=
  (Transition.run step (new config) (runSteps inputs ticks)).1

end Simulation

end OrderBookExchange
