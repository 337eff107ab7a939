import OrderBookExchange.SimulationReport

/-!
# Profit and loss

The report gives each agent a profit: its cash less the cash it started with, plus
its position at the last price.  In a market whose prices are numbers this is the
gain of marking its fills to that price: over the trades in which an order of the
agent was the resting one, the shares times what the price has moved since the
trade, counted against the agent where it sold.
-/

namespace OrderBookExchange

/-- Neither an infinity nor a NaN. -/
def Double.IsNumber (price : Double) : Prop :=
  ∃ number, price = .finite number

namespace Double.IsNumber

variable {left right : Double}

theorem eq_value (number : left.IsNumber) : left = .finite left.value := by
  obtain ⟨value, rfl⟩ := number
  rfl

theorem add (leftNumber : left.IsNumber) (rightNumber : right.IsNumber) :
    (left.add right).IsNumber := by
  obtain ⟨first, rfl⟩ := leftNumber
  obtain ⟨second, rfl⟩ := rightNumber
  exact ⟨first + second, rfl⟩

theorem sub (leftNumber : left.IsNumber) (rightNumber : right.IsNumber) :
    (left.sub right).IsNumber := by
  obtain ⟨first, rfl⟩ := leftNumber
  obtain ⟨second, rfl⟩ := rightNumber
  exact ⟨first + -second, rfl⟩

theorem mul (leftNumber : left.IsNumber) (rightNumber : right.IsNumber) :
    (left.mul right).IsNumber := by
  obtain ⟨first, rfl⟩ := leftNumber
  obtain ⟨second, rfl⟩ := rightNumber
  exact ⟨first * second, rfl⟩

theorem atLeast (number : left.IsNumber) (bound : ℚ) : (left.atLeast bound).IsNumber := by
  obtain ⟨value, rfl⟩ := number
  exact Simulation.atLeast_finite value bound

theorem roundCents (number : left.IsNumber) : left.roundCents.IsNumber := by
  obtain ⟨value, rfl⟩ := number
  exact ⟨_, rfl⟩

theorem finite (number : ℚ) : (Double.finite number).IsNumber :=
  ⟨number, rfl⟩

end Double.IsNumber

namespace Simulation

variable {sim next : Simulation}

/-! ### The prices that the agents keep -/

/-- All prices from which the agents make orders are numbers. -/
structure Numeric (sim : Simulation) : Prop where
  truePrice : sim.truePrice.IsNumber
  fairValue : sim.fairValue.IsNumber
  referencePrice : sim.referencePrice.IsNumber
  bidPrice : sim.bidPrice.IsNumber
  askPrice : sim.askPrice.IsNumber

namespace Numeric

theorem new {config : SimulationConfig} (number : config.initialPrice.IsNumber) :
    (Simulation.new config).Numeric :=
  ⟨number, number, .finite 100, .finite 0, .finite 0⟩

theorem congr (numeric : sim.Numeric) (same : SameQuotes sim next)
    (reference : next.referencePrice = sim.referencePrice) : next.Numeric where
  truePrice := same.truePrice ▸ numeric.truePrice
  fairValue := same.fairValue ▸ numeric.fairValue
  referencePrice := reference ▸ numeric.referencePrice
  bidPrice := same.bidPrice ▸ numeric.bidPrice
  askPrice := same.askPrice ▸ numeric.askPrice

theorem advance (numeric : sim.Numeric) (tick : Nat) {returnPct : Double}
    (steady : returnPct.IsNumber) : (sim.advance tick returnPct).Numeric := by
  have moved : ((sim.truePrice.mul ((Double.finite 1).add returnPct)).atLeast
      (1 / 100)).IsNumber :=
    (numeric.truePrice.mul ((Double.IsNumber.finite 1).add steady)).atLeast (1 / 100)
  unfold Simulation.advance
  dsimp only
  split <;> exact ⟨moved, moved, moved, numeric.bidPrice, numeric.askPrice⟩

theorem cancelQuotes (numeric : sim.Numeric) (noise : ℚ) :
    (sim.cancelQuotes noise).Numeric := by
  have bidCancelled : sim.cancelBid.Numeric := by
    unfold cancelBid
    split <;> exact ⟨numeric.truePrice, numeric.fairValue, numeric.referencePrice,
      numeric.bidPrice, numeric.askPrice⟩
  have cancelled : sim.cancelBid.cancelAsk.Numeric := by
    unfold cancelAsk
    split <;> exact ⟨bidCancelled.truePrice, bidCancelled.fairValue,
      bidCancelled.referencePrice, bidCancelled.bidPrice, bidCancelled.askPrice⟩
  have bid := (((cancelled.fairValue.sub (.finite (5 / 100))).add (.finite
    (-(sim.cancelBid.cancelAsk.stats .marketMaker).position * (1 / 1000)))).add
      (.finite noise)).roundCents
  have ask := (((cancelled.fairValue.add (.finite (5 / 100))).add (.finite
    (-(sim.cancelBid.cancelAsk.stats .marketMaker).position * (1 / 1000)))).add
      (.finite noise)).roundCents
  refine ⟨cancelled.truePrice, cancelled.fairValue, cancelled.referencePrice, bid, ?_⟩
  unfold Simulation.cancelQuotes priceQuotes
  dsimp only
  split
  · exact bid.add (.finite (1 / 100))
  · exact ask

end Numeric

theorem referencePrice_foldl_tradeCallback (sim : Simulation) (trades : List Trade) :
    (trades.foldl tradeCallback sim).referencePrice = sim.referencePrice := by
  induction trades generalizing sim with
  | nil => rfl
  | cons trade trades induction =>
      have routed : ∀ (before : Simulation) (orderId : Nat) (side : Side),
          (before.routeFill orderId side trade).referencePrice = before.referencePrice := by
        intro before orderId side
        unfold routeFill
        split <;> rfl
      have told : (sim.tradeCallback trade).referencePrice = sim.referencePrice :=
        (routed _ trade.sellOrderId .sell).trans (routed _ trade.buyOrderId .buy)
      exact (induction (sim.tradeCallback trade)).trans told

theorem Numeric.sendOrder (numeric : sim.Numeric) (clock : Clock) (request : OrderRequest) :
    (sim.sendOrder clock request).1.Numeric := by
  apply numeric.congr (sameQuotes_sendOrder sim clock request)
  rw [sendOrder_eq]
  exact referencePrice_foldl_tradeCallback (sim.submitted clock request) _

theorem Numeric.step (numeric : sim.Numeric) {action : SimStep} (steady : action.Steady) :
    (sim.step action).1.Numeric := by
  cases requested : sim.request action with
  | none =>
      rw [step_of_none requested]
      cases action with
      | advance tick returnPct => exact numeric.advance tick steady
      | cancelQuotes noise => exact numeric.cancelQuotes noise
      | quoteBid | quoteAsk | followTrend | noise => exact numeric
  | some request =>
      rw [step_of_some requested]
      obtain ⟨truePrice, fairValue, referencePrice, bidPrice, askPrice⟩ :=
        numeric.sendOrder action.clock request
      cases action <;> exact ⟨truePrice, fairValue, referencePrice, bidPrice, askPrice⟩

theorem Numeric.request (numeric : sim.Numeric) {action : SimStep} {request : OrderRequest}
    (requested : sim.request action = some request) : request.price.IsNumber := by
  cases action with
  | advance tick returnPct => cases requested
  | cancelQuotes noise => cases requested
  | quoteBid clock =>
      simp only [Simulation.request, Option.ite_none_right_eq_some, Option.some.injEq] at requested
      rw [← requested.2]
      exact numeric.bidPrice
  | quoteAsk clock =>
      simp only [Simulation.request, Option.ite_none_right_eq_some, Option.some.injEq] at requested
      rw [← requested.2]
      exact numeric.askPrice
  | followTrend tick clock =>
      simp only [Simulation.request] at requested
      split_ifs at requested <;> cases requested <;> exact .finite 0
  | noise index draws clock =>
      have near := (numeric.referencePrice.add (.finite draws.offset)).roundCents
      have floored : (if (sim.referencePrice.add (.finite draws.offset)).roundCents.le 0 then
          Double.finite (1 / 100)
          else (sim.referencePrice.add (.finite draws.offset)).roundCents).IsNumber := by
        split
        · exact .finite (1 / 100)
        · exact near
      simp only [Simulation.request] at requested
      split at requested
      · cases requested
      · split at requested
        · cases requested
          exact floored
        · cases requested
          exact .finite 0

/-! ### The prices on the book and in the log -/

/-- All orders on the book and all trades are at prices that are numbers. -/
structure PricedBook (sim : Simulation) : Prop where
  accounted : sim.Accounted
  orders : ∀ id order, sim.book.orderAt id = some order → order.price.IsNumber
  trades : ∀ trade ∈ sim.tradeLog, trade.price.IsNumber
  startingCash : ∀ agent, (sim.stats agent).startingCash = .finite 100000

namespace PricedBook

theorem new (config : SimulationConfig) : (Simulation.new config).PricedBook where
  accounted := accounted_new config
  orders := by
    intro id order found
    change (MatchingEngine.new.book config.symbol).orderAt id = some order at found
    rw [MatchingEngine.book_new, OrderBook.orderAt_new] at found
    cases found
  trades := by simp [Simulation.new]
  startingCash := fun _ => rfl

theorem congr (priced : sim.PricedBook) (same : SameAccounts sim next) : next.PricedBook where
  accounted := priced.accounted.congr same
  orders := by
    unfold book
    rw [same.engine, same.config]
    exact priced.orders
  trades := by
    rw [same.tradeLog]
    exact priced.trades
  startingCash := by
    rw [same.stats]
    exact priced.startingCash

theorem sendCancel (priced : sim.PricedBook) (sender : Agent) (orderId : Nat) :
    (sim.sendCancel sender orderId).PricedBook where
  accounted := priced.accounted.sendCancel sender orderId
  orders := by
    intro id order found
    rw [orderAt_sendCancel priced.accounted] at found
    split at found
    · cases found
    · exact priced.orders id order found
  trades := priced.trades
  startingCash := by
    intro agent
    unfold Simulation.sendCancel withStats
    dsimp only
    by_cases same : agent = sender
    · rw [same, Function.update_self]
      exact priced.startingCash sender
    · rw [Function.update_of_ne same]
      exact priced.startingCash agent

theorem sendOrder (priced : sim.PricedBook) (clock : Clock) {request : OrderRequest}
    (number : request.price.IsNumber) : (sim.sendOrder clock request).1.PricedBook := by
  obtain ⟨linked, unfilled⟩ := priced.accounted.linked
  constructor
  case accounted => exact priced.accounted.sendOrder clock request
  case orders =>
    intro id order found
    rcases sendOrder_cases priced.accounted clock request with
      ⟨-, bookEq, -, -⟩ | ⟨-, bookEq, -, -⟩
    · rw [bookEq] at found
      exact priced.orders id order found
    · rw [bookEq] at found
      rcases OrderBook.acceptOrder_terms clock _ _ _ _ linked unfilled found with
        ⟨older, olderFound, terms⟩ | ⟨terms, rests⟩
      · rw [← terms.price]
        exact priced.orders id older olderFound
      · -- A market order, whose effective price is not the one that was sent, does not rest.
        have own : effectivePrice request.side request.type request.price = request.price :=
          if_neg fun market => rests (Or.inl market)
        have sent : effectivePrice request.side request.type request.price = order.price :=
          terms.price
        rw [← sent, own]
        exact number
  case trades =>
    intro trade logged
    rcases sendOrder_cases priced.accounted clock request with
      ⟨-, -, -, logEq⟩ | ⟨-, -, -, logEq⟩
    · rw [logEq] at logged
      exact priced.trades trade logged
    · rw [logEq] at logged
      rcases List.mem_append.mp logged with earlier | traded
      · exact priced.trades trade earlier
      · obtain ⟨resting, found, -, -, -, priceEq, -, -⟩ :=
          OrderBook.acceptOrder_trade_terms clock _ _ _ _ linked unfilled traded
        rw [priceEq]
        exact priced.orders resting.id resting found
  case startingCash =>
    intro agent
    rw [(sameSent_sendOrder sim clock request agent).startingCash]
    unfold submitted withStats
    dsimp only
    by_cases sender : agent = request.agent
    · rw [sender, Function.update_self]
      exact priced.startingCash request.agent
    · rw [Function.update_of_ne sender]
      exact priced.startingCash agent

theorem step (priced : sim.PricedBook) (numeric : sim.Numeric) (action : SimStep) :
    (sim.step action).1.PricedBook := by
  apply step_invariant (fun before same => before.congr same)
    (fun orderId before => before.sendCancel .marketMaker orderId) priced
  intro request requested
  exact priced.sendOrder action.clock (numeric.request requested)

end PricedBook

end Simulation

/-! ### Marking fills to a price -/

/-- What the resting side of a trade gains when the price moves from that of the trade
to another. -/
def Trade.markedTo (final : ℚ) (trade : Trade) : ℚ :=
  signedQuantity trade.restingSide trade.quantity * (final - trade.price.value)

/-- What an account is worth at a price, if its cash is a number. -/
def Account.worth (account : Account) (final : ℚ) : ℚ :=
  account.cash.value + account.position * final

/-- A fill changes the cash and the position, and what the account is worth by the gain
of the trade. -/
theorem Account.worth_credit {account : Account} (cash : account.cash.IsNumber) {trade : Trade}
    (price : trade.price.IsNumber) (final : ℚ) :
    (account.credit trade).cash.IsNumber ∧
      (account.credit trade).worth final = account.worth final + trade.markedTo final := by
  obtain ⟨balance, cashEq⟩ := cash
  obtain ⟨paid, priceEq⟩ := price
  unfold Account.credit Account.fill Account.worth Trade.markedTo orderNotional signedQuantity
  dsimp only
  rw [cashEq, priceEq]
  cases trade.restingSide.isBuy with
  | true =>
      rw [if_pos rfl, if_pos rfl]
      refine ⟨⟨_, rfl⟩, ?_⟩
      simp only [Double.value, Double.sub, Double.mul, Double.ofNat, Double.neg, Double.add]
      push_cast
      ring
  | false =>
      rw [if_neg Bool.false_ne_true, if_neg Bool.false_ne_true]
      refine ⟨⟨_, rfl⟩, ?_⟩
      simp only [Double.value, Double.mul, Double.ofNat, Double.add]
      push_cast
      ring

theorem Account.worth_foldl_credit {account : Account} (cash : account.cash.IsNumber)
    {trades : List Trade} (prices : ∀ trade ∈ trades, trade.price.IsNumber) (final : ℚ) :
    (trades.foldl Account.credit account).cash.IsNumber ∧
      (trades.foldl Account.credit account).worth final =
        account.worth final + (trades.map (Trade.markedTo final)).sum := by
  induction trades generalizing account with
  | nil => simpa using cash
  | cons trade trades induction =>
      obtain ⟨cashAfter, first⟩ :=
        Account.worth_credit cash (prices trade List.mem_cons_self) final
      have later : ∀ other ∈ trades, other.price.IsNumber :=
        fun other member => prices other (List.mem_cons_of_mem _ member)
      obtain ⟨cashFinal, rest⟩ := induction cashAfter later
      rw [List.foldl_cons, List.map_cons, List.sum_cons]
      refine ⟨cashFinal, ?_⟩
      rw [rest, first, add_assoc]

namespace Simulation

variable {sim : Simulation}

theorem pnl_eq_worth {agent : Agent} (starting : (sim.stats agent).startingCash = .finite 100000)
    (cash : (sim.stats agent).account.cash.IsNumber) {final : ℚ}
    (price : sim.truePrice = .finite final) :
    (sim.traderResult agent).pnl = .finite ((sim.stats agent).account.worth final - 100000) := by
  obtain ⟨balance, cashEq⟩ := cash
  have ownCash : (sim.stats agent).cash = .finite balance := cashEq
  unfold traderResult TraderStats.calculatePnl Account.worth
  dsimp only
  rw [cashEq, ownCash, starting, price]
  simp only [Double.sub, Double.neg, Double.add, Double.mul, Double.value, Double.finite.injEq,
    TraderStats.account]
  ring

theorem steady_runSteps {inputs : Nat → TickInput}
    (steady : ∀ tick, (inputs tick).returnPct.IsNumber) (ticks : Nat) :
    ∀ action ∈ runSteps inputs ticks, action.Steady := by
  intro action inRun
  obtain ⟨tick, -, inTick⟩ := List.mem_flatMap.mp inRun
  simp only [tickSteps, List.mem_cons, List.not_mem_nil, or_false] at inTick
  rcases inTick with rfl | rfl | rfl | rfl | rfl | rfl | rfl | rfl
  · exact steady tick
  all_goals trivial

/-- After every tick of a run in which prices are numbers, the profit reported for an
agent is what its fills gain when they are marked to the last price. -/
theorem pnl_marks_fills (config : SimulationConfig) (inputs : Nat → TickInput)
    (initial : config.initialPrice.IsNumber) (steady : ∀ tick, (inputs tick).returnPct.IsNumber)
    (ticks : Nat) (agent : Agent) :
    let sim := afterTicks config inputs ticks
    sim.truePrice.IsNumber ∧
      (sim.traderResult agent).pnl =
        .finite ((sim.restingTrades agent).map (Trade.markedTo sim.truePrice.value)).sum := by
  intro sim
  obtain ⟨numeric, priced, recorded⟩ : sim.Numeric ∧ sim.PricedBook ∧ sim.Recorded :=
    Transition.run_invariant
      (fun sim : Simulation => sim.Numeric ∧ sim.PricedBook ∧ sim.Recorded)
      (fun _ action before steadyStep => ⟨before.1.step steadyStep, before.2.1.step before.1 action,
        before.2.2.step action⟩)
      ⟨.new initial, .new config, .new config⟩
      (Transition.along_of_forall (steady_runSteps steady ticks) (new config))
  refine ⟨numeric.truePrice, ?_⟩
  have prices : ∀ trade ∈ sim.restingTrades agent, trade.price.IsNumber :=
    fun trade member => priced.trades trade (List.mem_filter.mp member).1
  have opening : ({} : Account).cash.IsNumber := .finite 100000
  obtain ⟨cash, worth⟩ := Account.worth_foldl_credit opening prices sim.truePrice.value
  rw [← recorded.credited agent] at cash worth
  rw [pnl_eq_worth (priced.startingCash agent) cash numeric.truePrice.eq_value, worth]
  simp [Account.worth, Double.value]

/-- The market maker buys fifty shares five cents below the price. -/
theorem pnl_marks_fills_one_sale :
    ((afterTicks {} sellingNoise 1).traderResult .marketMaker).pnl = .finite (5 / 2) ∧
      (((afterTicks {} sellingNoise 1).restingTrades .marketMaker).map
        (Trade.markedTo (afterTicks {} sellingNoise 1).truePrice.value)).sum = 5 / 2 := by
  have pnl : ((afterTicks {} sellingNoise 1).traderResult .marketMaker).pnl =
      .finite (5 / 2) := by
    decide +kernel
  have marked := (pnl_marks_fills {} sellingNoise (.finite 150) (fun _ => .finite 0) 1
    .marketMaker).2
  exact ⟨pnl, Double.finite.inj (marked.symm.trans pnl)⟩

end Simulation

end OrderBookExchange
