import OrderBookExchange.MakerQuotes

/-!
# Quoting discipline

On every tick the market maker cancels both of its quotes, computes a bid below
an ask and sends the two.  Between ticks the other agents do what they like.
So at any time the market maker has at most one bid and one ask on the book, the
bid below the ask, and it never trades with itself.
-/

namespace OrderBookExchange

namespace Simulation

variable {sim next : Simulation} {config : SimulationConfig}

theorem lt_uncrossed (bid ask : ℚ) :
    (Double.finite bid).lt (if (Double.finite ask).le (.finite bid) then
      (Double.finite bid).add (.finite (1 / 100)) else .finite ask) = true := by
  by_cases crossed : (Double.finite ask).le (.finite bid) = true
  · rw [if_pos crossed]
    simp [Double.add, Double.lt]
  · rw [if_neg crossed]
    simpa [Double.le, Double.lt] using crossed

theorem bidPrice_lt_askPrice {value : ℚ} (number : sim.fairValue = .finite value) (noise : ℚ) :
    (sim.priceQuotes noise).bidPrice.lt (sim.priceQuotes noise).askPrice = true := by
  unfold priceQuotes
  rw [number]
  exact lt_uncrossed _ _

/-! ### Trades of the market maker with itself -/

/-- No logged trade is between two orders of the market maker. -/
structure SelfTradeFree (sim : Simulation) : Prop where
  issued : sim.LogIssued
  apart : ∀ trade ∈ sim.tradeLog, ¬(sim.orderOwner trade.buyOrderId = some .marketMaker ∧
    sim.orderOwner trade.sellOrderId = some .marketMaker)

theorem selfTradeFree_new (config : SimulationConfig) : (new config).SelfTradeFree :=
  ⟨logIssued_new config, by simp [new]⟩

theorem SelfTradeFree.congr (same : SameAccounts sim next) (free : sim.SelfTradeFree) :
    next.SelfTradeFree := by
  refine ⟨free.issued.congr same, ?_⟩
  rw [same.tradeLog, same.orderOwner]
  exact free.apart

theorem SelfTradeFree.sendCancel (free : sim.SelfTradeFree) (accounted : sim.Accounted)
    (agent : Agent) (orderId : Nat) : (sim.sendCancel agent orderId).SelfTradeFree :=
  ⟨free.issued.sendCancel accounted agent orderId, free.apart⟩

/-- A submission is no trade of the market maker with itself, unless it comes from
the market maker and reaches the quote on the other side. -/
theorem SelfTradeFree.sendOrder (free : sim.SelfTradeFree) (own : sim.OwnQuotes) (clock : Clock)
    (request : OrderRequest)
    (safe : request.agent = .marketMaker → ∀ resting,
      sim.book.orderAt resting.id = some resting → sim.IsQuote resting.id resting →
        resting.side.isBuy = !request.side.isBuy →
        inReach request.side (effectivePrice request.side request.type request.price) resting =
          false) :
    (sim.sendOrder clock request).1.SelfTradeFree := by
  obtain ⟨linked, unfilled⟩ := own.accounted.linked
  refine ⟨free.issued.sendOrder own.accounted clock request, ?_⟩
  rcases sendOrder_cases own.accounted clock request with
    ⟨-, -, ownerEq, logEq⟩ | ⟨-, -, ownerEq, logEq⟩
  · rw [ownerEq, logEq]
    exact free.apart
  · rw [ownerEq, logEq]
    rintro trade logged ⟨buys, sells⟩
    rcases List.mem_append.mp logged with earlier | traded
    · obtain ⟨buyerOlder, sellerOlder⟩ := free.issued trade earlier
      rw [Function.update_of_ne buyerOlder.ne] at buys
      rw [Function.update_of_ne sellerOlder.ne] at sells
      exact free.apart trade earlier ⟨buys, sells⟩
    · obtain ⟨resting, found, opposite, older, reached, -, buyer, seller⟩ :=
        OrderBook.acceptOrder_trade_terms clock _ _ _ _ linked unfilled traded
      have parties : request.agent = .marketMaker ∧
          sim.orderOwner resting.id = some .marketMaker := by
        rw [buyer] at buys
        rw [seller] at sells
        cases buying : request.side.isBuy with
        | true =>
            rw [buying, if_pos rfl, Function.update_self, Option.some.injEq] at buys
            rw [buying, if_pos rfl, Function.update_of_ne older.ne] at sells
            exact ⟨buys, sells⟩
        | false =>
            rw [buying, if_neg Bool.false_ne_true, Function.update_of_ne older.ne] at buys
            rw [buying, if_neg Bool.false_ne_true, Function.update_self,
              Option.some.injEq] at sells
            exact ⟨sells, buys⟩
      have quote := own.quotes resting.id resting parties.2 found
      rw [safe parties.1 resting found quote opposite] at reached
      exact Bool.false_ne_true reached

end Simulation

/-! ### The market maker among other agents -/

/-- How far the market maker is in its tick. -/
inductive QuotePhase where
  | resting
  | bidCancelled
  | quotesCancelled
  | priced
  | bidQuoted
  deriving DecidableEq

open Simulation in
/-- The states of a market in which the market maker follows its program and all
others are free.  Between two ticks of the market maker they may send any orders
and cancels, and whatever they compute with may change, as may the fair value as
long as it is a number. -/
inductive MarketRun (config : SimulationConfig) : QuotePhase → Simulation → Prop
  | start : MarketRun config .resting (new config)
  | order {sim : Simulation} (clock : Clock) (request : OrderRequest)
      (other : request.agent ≠ .marketMaker) :
      MarketRun config .resting sim → MarketRun config .resting (sim.sendOrder clock request).1
  | cancel {sim : Simulation} (agent : Agent) (orderId : Nat) (other : agent ≠ .marketMaker) :
      MarketRun config .resting sim → MarketRun config .resting (sim.sendCancel agent orderId)
  | observe {sim next : Simulation} (same : SameAccounts sim next)
      (ids : next.activeId = sim.activeId) (prices : next.quotePrice = sim.quotePrice)
      (fair : next.fairValue = sim.fairValue ∨ ∃ value, next.fairValue = .finite value) :
      MarketRun config .resting sim → MarketRun config .resting next
  | cancelBid {sim : Simulation} :
      MarketRun config .resting sim → MarketRun config .bidCancelled sim.cancelBid
  | cancelAsk {sim : Simulation} :
      MarketRun config .bidCancelled sim → MarketRun config .quotesCancelled sim.cancelAsk
  | price {sim : Simulation} (noise : ℚ) :
      MarketRun config .quotesCancelled sim → MarketRun config .priced (sim.priceQuotes noise)
  | quoteBid {sim : Simulation} (clock : Clock) :
      MarketRun config .priced sim → MarketRun config .bidQuoted (sim.step (.quoteBid clock)).1
  | quoteAsk {sim : Simulation} (clock : Clock) :
      MarketRun config .bidQuoted sim → MarketRun config .resting (sim.step (.quoteAsk clock)).1

namespace QuotePhase

/-- What the market maker knows of its quotes in each phase. -/
def Knows : QuotePhase → Simulation → Prop
  | .resting, sim => (∃ buy, sim.activeId buy ≠ 0) → sim.bidPrice.lt sim.askPrice = true
  | .bidCancelled, sim => sim.activeId true = 0
  | .quotesCancelled, sim => ∀ buy, sim.activeId buy = 0
  | .priced, sim => (∀ buy, sim.activeId buy = 0) ∧ sim.bidPrice.lt sim.askPrice = true
  | .bidQuoted, sim => sim.activeId false = 0 ∧ sim.bidPrice.lt sim.askPrice = true

theorem Knows.congr {phase : QuotePhase} {sim next : Simulation} (knows : phase.Knows sim)
    (ids : next.activeId = sim.activeId) (prices : next.quotePrice = sim.quotePrice) :
    phase.Knows next := by
  have bidEq : next.bidPrice = sim.bidPrice := congrFun prices true
  have askEq : next.askPrice = sim.askPrice := congrFun prices false
  cases phase <;> simpa only [Knows, ids, bidEq, askEq] using knows

end QuotePhase

namespace Simulation

variable {sim next : Simulation} {config : SimulationConfig}

theorem prices_cancelQuote (sim : Simulation) (buy : Bool) :
    (sim.cancelQuote buy).fairValue = sim.fairValue ∧
      (sim.cancelQuote buy).truePrice = sim.truePrice := by
  cases buy with
  | true =>
      change sim.cancelBid.fairValue = _ ∧ sim.cancelBid.truePrice = _
      unfold cancelBid
      split <;> exact ⟨rfl, rfl⟩
  | false =>
      change sim.cancelAsk.fairValue = _ ∧ sim.cancelAsk.truePrice = _
      unfold cancelAsk
      split <;> exact ⟨rfl, rfl⟩

/-- The invariant of the market. -/
structure Disciplined (phase : QuotePhase) (sim : Simulation) : Prop where
  own : sim.OwnQuotes
  free : sim.SelfTradeFree
  fair : ∃ value, sim.fairValue = .finite value
  knows : phase.Knows sim

namespace Disciplined

theorem order (disciplined : Disciplined .resting sim) (clock : Clock) {request : OrderRequest}
    (other : request.agent ≠ .marketMaker) :
    Disciplined .resting (sim.sendOrder clock request).1 := by
  have same := sameQuotes_sendOrder sim clock request
  refine ⟨disciplined.own.sendOther clock other, ?_, ?_, ?_⟩
  · exact disciplined.free.sendOrder disciplined.own clock request fun sender =>
      absurd sender other
  · rw [same.fairValue]
    exact disciplined.fair
  · exact disciplined.knows.congr same.activeId_eq same.quotePrice_eq

theorem cancel (disciplined : Disciplined .resting sim) (agent : Agent) (orderId : Nat) :
    Disciplined .resting (sim.sendCancel agent orderId) :=
  ⟨disciplined.own.sendCancel agent orderId,
    disciplined.free.sendCancel disciplined.own.accounted agent orderId, disciplined.fair,
    disciplined.knows⟩

theorem observe (disciplined : Disciplined .resting sim) (same : SameAccounts sim next)
    (ids : next.activeId = sim.activeId) (prices : next.quotePrice = sim.quotePrice)
    (fair : next.fairValue = sim.fairValue ∨ ∃ value, next.fairValue = .finite value) :
    Disciplined .resting next := by
  refine ⟨disciplined.own.congr same ids prices, disciplined.free.congr same, ?_,
    disciplined.knows.congr ids prices⟩
  rcases fair with unchanged | number
  · rw [unchanged]
    exact disciplined.fair
  · exact number

theorem cancelQuote {phase after : QuotePhase} (disciplined : Disciplined phase sim) (buy : Bool)
    (knows : after.Knows (sim.cancelQuote buy)) : Disciplined after (sim.cancelQuote buy) := by
  refine ⟨disciplined.own.cancelQuote buy, ?_, ?_, knows⟩
  · rcases cancelQuote_cases sim buy with ⟨-, unchanged⟩ | ⟨same, -⟩
    · rw [unchanged]
      exact disciplined.free
    · exact (disciplined.free.sendCancel disciplined.own.accounted _ _).congr same
  · rw [(prices_cancelQuote sim buy).1]
    exact disciplined.fair

theorem price (disciplined : Disciplined .quotesCancelled sim) (noise : ℚ) :
    Disciplined .priced (sim.priceQuotes noise) := by
  have same : SameAccounts sim (sim.priceQuotes noise) := ⟨rfl, rfl, rfl, rfl, rfl⟩
  obtain ⟨value, number⟩ := disciplined.fair
  exact ⟨disciplined.own.priceQuotes disciplined.knows noise, disciplined.free.congr same,
    ⟨value, number⟩, disciplined.knows, bidPrice_lt_askPrice number noise⟩

/-- The market maker quotes on a side while its quote on the other side, if there
is one, is out of reach. -/
theorem quote {phase after : QuotePhase} (disciplined : Disciplined phase sim) {buy : Bool}
    (clock : Clock) (cancelled : sim.activeId buy = 0)
    (apart : buy = false → sim.bidPrice.lt sim.askPrice = true)
    (noAsk : buy = true → sim.activeId false = 0)
    (knows : after.Knows (sim.step (quoteStep buy clock)).1) :
    Disciplined after (sim.step (quoteStep buy clock)).1 := by
  have own := disciplined.own.quote clock cancelled
  rcases step_quoteStep sim buy clock with ⟨-, unchanged⟩ | ⟨-, sent⟩
  · rw [unchanged] at own knows ⊢
    exact ⟨own, disciplined.free, disciplined.fair, knows⟩
  rw [sent] at own knows ⊢
  refine ⟨own, ?_, ?_, knows⟩
  · apply SelfTradeFree.congr (sameAccounts_remember _ _ _)
    apply disciplined.free.sendOrder disciplined.own
    rintro - resting found ⟨idEq, priceEq⟩ opposite
    cases buy with
    | true =>
        have askSide : resting.side.isBuy = false := opposite
        rw [askSide, noAsk rfl] at idEq
        exact absurd idEq (disciplined.own.id_ne_zero found)
    | false =>
        have bidSide : resting.side.isBuy = true := opposite
        rw [bidSide] at priceEq
        change sim.askPrice.le resting.price = false
        rw [priceEq]
        exact Double.le_eq_false_of_lt (apart rfl)
  · have fairEq := (sameQuotes_sendOrder sim clock (sim.quoteRequest buy)).fairValue
    obtain ⟨value, number⟩ := disciplined.fair
    refine ⟨value, ?_⟩
    cases buy <;> exact fairEq.trans number

end Disciplined

/-- Quoting on one side leaves the other quote and the prices alone. -/
theorem quoteStep_others (sim : Simulation) (buy : Bool) (clock : Clock) :
    (∀ other, other ≠ buy →
        (sim.step (quoteStep buy clock)).1.activeId other = sim.activeId other) ∧
      (sim.step (quoteStep buy clock)).1.quotePrice = sim.quotePrice ∧
      (sim.step (quoteStep buy clock)).1.truePrice = sim.truePrice := by
  rcases step_quoteStep sim buy clock with ⟨-, unchanged⟩ | ⟨-, sent⟩
  · rw [unchanged]
    exact ⟨fun _ _ => rfl, rfl, rfl⟩
  · have same := sameQuotes_sendOrder sim clock (sim.quoteRequest buy)
    rw [sent]
    refine ⟨?_, ?_, ?_⟩
    · intro other different
      rw [activeId_remember, if_neg different, same.activeId_eq]
    · funext other
      rw [quotePrice_remember, same.quotePrice_eq]
    · cases buy <;> exact same.truePrice

theorem disciplined_of_run {initial : ℚ} (number : config.initialPrice = .finite initial)
    {phase : QuotePhase} {sim : Simulation} (run : MarketRun config phase sim) :
    Disciplined phase sim := by
  induction run with
  | start =>
      refine ⟨ownQuotes_new config, selfTradeFree_new config, ⟨initial, number⟩, ?_⟩
      rintro ⟨buy, nonzero⟩
      cases buy <;> exact absurd rfl nonzero
  | order clock request other _ ih => exact ih.order clock other
  | cancel agent orderId _ _ ih => exact ih.cancel agent orderId
  | observe same ids prices fair _ ih => exact ih.observe same ids prices fair
  | @cancelBid sim _ ih =>
      have cancelled : (sim.cancelQuote true).activeId true = 0 := by
        rw [activeId_cancelQuote, if_pos rfl]
      exact ih.cancelQuote true cancelled
  | @cancelAsk sim _ ih =>
      have cancelled : ∀ buy, (sim.cancelQuote false).activeId buy = 0 := by
        intro buy
        rw [activeId_cancelQuote]
        cases buy
        · rfl
        · exact ih.knows
      exact ih.cancelQuote false cancelled
  | price noise _ ih => exact ih.price noise
  | @quoteBid sim clock _ ih =>
      obtain ⟨noQuotes, apart⟩ := ih.knows
      obtain ⟨othersEq, pricesEq, -⟩ := quoteStep_others sim true clock
      have knows : QuotePhase.bidQuoted.Knows (sim.step (quoteStep true clock)).1 := by
        refine ⟨(othersEq false (by simp)).trans (noQuotes false), ?_⟩
        change Double.lt ((sim.step (quoteStep true clock)).1.quotePrice true)
          ((sim.step (quoteStep true clock)).1.quotePrice false) = true
        rw [pricesEq]
        exact apart
      exact ih.quote clock (noQuotes true) (fun _ => apart) (fun _ => noQuotes false) knows
  | @quoteAsk sim clock _ ih =>
      obtain ⟨noAsk, apart⟩ := ih.knows
      have pricesEq := (quoteStep_others sim false clock).2.1
      have knows : QuotePhase.resting.Knows (sim.step (quoteStep false clock)).1 := by
        rintro -
        change Double.lt ((sim.step (quoteStep false clock)).1.quotePrice true)
          ((sim.step (quoteStep false clock)).1.quotePrice false) = true
        rw [pricesEq]
        exact apart
      exact ih.quote clock noAsk (fun _ => apart) (fun both => absurd both (by simp)) knows

/-! ### Orders that have left the book -/

theorem gone_sendOrder (accounted : sim.Accounted) (clock : Clock) (request : OrderRequest)
    {agent : Agent} {id : Nat} (owned : sim.orderOwner id = some agent)
    (gone : sim.book.orderAt id = none) :
    (sim.sendOrder clock request).1.book.orderAt id = none := by
  cases found : (sim.sendOrder clock request).1.book.orderAt id with
  | none => rfl
  | some order =>
      have stillOwned := owner_sendOrder accounted clock request owned
      rcases owned_sendOrder accounted clock request stillOwned found with
        ⟨older, -, olderFound, -⟩ | ⟨-, idEq, -⟩
      · rw [gone] at olderFound
        simp at olderFound
      · have known : sim.orderOwner id ≠ none := by simp [owned]
        obtain ⟨nonzero, older⟩ := (accounted.registered id).mp known
        rcases sendOrder_cases accounted clock request with ⟨refused, -⟩ | ⟨newId, -⟩
        · exact absurd (idEq.trans refused) nonzero
        · exact absurd (idEq.trans newId) older.ne

theorem gone_quoteStep (accounted : sim.Accounted) (buy : Bool) (clock : Clock) {agent : Agent}
    {id : Nat} (owned : sim.orderOwner id = some agent) (gone : sim.book.orderAt id = none) :
    (sim.step (quoteStep buy clock)).1.Accounted ∧
      (sim.step (quoteStep buy clock)).1.orderOwner id = some agent ∧
      (sim.step (quoteStep buy clock)).1.book.orderAt id = none := by
  refine ⟨accounted.step _, ?_⟩
  rcases step_quoteStep sim buy clock with ⟨-, unchanged⟩ | ⟨-, sent⟩
  · rw [unchanged]
    exact ⟨owned, gone⟩
  · have remembered := sameAccounts_remember (sim.sendOrder clock (sim.quoteRequest buy)).1
      (sim.sendOrder clock (sim.quoteRequest buy)).2 (quoteStep buy clock)
    rw [sent, book, remembered.orderOwner, remembered.engine, remembered.config]
    exact ⟨owner_sendOrder accounted clock _ owned, gone_sendOrder accounted clock _ owned gone⟩

/-- `MarketMaker::on_tick`. -/
def makerTick (sim : Simulation) (noise : ℚ) (bidClock askClock : Clock) : Simulation :=
  (((sim.cancelQuotes noise).step (.quoteBid bidClock)).1.step (.quoteAsk askClock)).1

theorem orderOwner_cancelQuote (sim : Simulation) (buy : Bool) :
    (sim.cancelQuote buy).orderOwner = sim.orderOwner := by
  rcases cancelQuote_cases sim buy with ⟨-, unchanged⟩ | ⟨same, -⟩
  · rw [unchanged]
  · exact same.orderOwner

/-- No order of the market maker survives its next tick. -/
theorem gone_makerTick (own : sim.OwnQuotes) (noise : ℚ) (bidClock askClock : Clock) {id : Nat}
    (owned : sim.orderOwner id = some .marketMaker) :
    (sim.makerTick noise bidClock askClock).book.orderAt id = none := by
  have cancelledOwn := own.cancelQuotes noise
  have stillOwned : (sim.cancelQuotes noise).orderOwner id = some .marketMaker := by
    change ((sim.cancelQuote true).cancelQuote false).orderOwner id = _
    rw [orderOwner_cancelQuote, orderOwner_cancelQuote]
    exact owned
  have gone : (sim.cancelQuotes noise).book.orderAt id = none := by
    cases found : (sim.cancelQuotes noise).book.orderAt id with
    | none => rfl
    | some order =>
        exact absurd (activeId_cancelQuotes sim noise order.side.isBuy)
          (cancelledOwn.absent_of_cancelled stillOwned found)
  obtain ⟨bidAccounted, bidOwned, bidGone⟩ :=
    gone_quoteStep cancelledOwn.accounted true bidClock stillOwned gone
  exact (gone_quoteStep bidAccounted false askClock bidOwned bidGone).2.2

end Simulation

/-! ### The runs of the simulation -/

/-- The phase after a step of a tick, if the step is in order. -/
def QuotePhase.after : QuotePhase → SimStep → Option QuotePhase
  | .resting, .advance _ _ => some .resting
  | .resting, .cancelQuotes _ => some .priced
  | .priced, .quoteBid _ => some .bidQuoted
  | .bidQuoted, .quoteAsk _ => some .resting
  | .resting, .followTrend _ _ => some .resting
  | .resting, .noise _ _ _ => some .resting
  | _, _ => none

/-- A move of the reference price is a number. -/
def SimStep.Steady : SimStep → Prop
  | .advance _ returnPct => ∃ value, returnPct = .finite value
  | _ => True

namespace Simulation

variable {sim : Simulation} {config : SimulationConfig}

/-- The reference price is a number. -/
def Priced (sim : Simulation) : Prop :=
  ∃ value, sim.truePrice = .finite value

theorem atLeast_finite (value bound : ℚ) :
    ∃ larger, (Double.finite value).atLeast bound = .finite larger := by
  unfold Double.atLeast
  split
  · exact ⟨bound, rfl⟩
  · exact ⟨value, rfl⟩

/-- The price walk changes nothing but the prices that the agents are told. -/
theorem fields_advance (sim : Simulation) (tick : Nat) (returnPct : Double) :
    SameAccounts sim (sim.advance tick returnPct) ∧
      (sim.advance tick returnPct).activeId = sim.activeId ∧
      (sim.advance tick returnPct).quotePrice = sim.quotePrice ∧
      (sim.advance tick returnPct).fairValue = (sim.advance tick returnPct).truePrice ∧
      (sim.advance tick returnPct).truePrice =
        (sim.truePrice.mul ((Double.finite 1).add returnPct)).atLeast (1 / 100) := by
  unfold advance
  dsimp only
  split
  all_goals
    refine ⟨⟨rfl, rfl, rfl, rfl, rfl⟩, ?_, ?_, rfl, rfl⟩ <;> funext buy <;> cases buy <;> rfl

theorem marketRun_advance (run : MarketRun config .resting sim) (priced : sim.Priced)
    (tick : Nat) (returnPct : ℚ) :
    MarketRun config .resting (sim.advance tick (.finite returnPct)) ∧
      (sim.advance tick (.finite returnPct)).Priced := by
  obtain ⟨price, truePrice⟩ := priced
  obtain ⟨same, ids, prices, fair, moved⟩ := fields_advance sim tick (.finite returnPct)
  obtain ⟨larger, bounded⟩ := atLeast_finite (price * (1 + returnPct)) (1 / 100)
  have number : (sim.advance tick (.finite returnPct)).truePrice = .finite larger := by
    rw [moved, truePrice]
    exact bounded
  exact ⟨run.observe same ids prices (Or.inr ⟨larger, fair.trans number⟩), larger, number⟩

theorem marketRun_other (run : MarketRun config .resting sim) (priced : sim.Priced)
    {action : SimStep} (notMaker : action.sender ≠ .marketMaker) :
    MarketRun config .resting (sim.step action).1 ∧ (sim.step action).1.Priced := by
  rcases step_other sim notMaker with unchanged | ⟨request, other, same, forgotten⟩
  · rw [unchanged]
    exact ⟨run, priced⟩
  · have kept := (sameQuotes_sendOrder sim action.clock request).trans forgotten
    refine ⟨(run.order action.clock request other).observe same forgotten.activeId_eq
      forgotten.quotePrice_eq (Or.inl forgotten.fairValue), ?_⟩
    unfold Priced
    rw [kept.truePrice]
    exact priced

/-- A step of a tick that is in order is a step of the market. -/
theorem marketRun_step {phase later : QuotePhase} (run : MarketRun config phase sim)
    (priced : sim.Priced) {action : SimStep} (steady : action.Steady)
    (inOrder : phase.after action = some later) :
    MarketRun config later (sim.step action).1 ∧ (sim.step action).1.Priced := by
  cases action with
  | advance tick returnPct =>
      cases phase <;> cases inOrder
      obtain ⟨value, rfl⟩ := steady
      exact marketRun_advance run priced tick value
  | cancelQuotes noise =>
      cases phase <;> cases inOrder
      refine ⟨run.cancelBid.cancelAsk.price noise, ?_⟩
      change ∃ value, ((sim.cancelQuote true).cancelQuote false).truePrice = .finite value
      rw [(prices_cancelQuote _ false).2, (prices_cancelQuote _ true).2]
      exact priced
  | quoteBid clock =>
      cases phase <;> cases inOrder
      refine ⟨run.quoteBid clock, ?_⟩
      obtain ⟨value, number⟩ := priced
      exact ⟨value, (quoteStep_others sim true clock).2.2.trans number⟩
  | quoteAsk clock =>
      cases phase <;> cases inOrder
      refine ⟨run.quoteAsk clock, ?_⟩
      obtain ⟨value, number⟩ := priced
      exact ⟨value, (quoteStep_others sim false clock).2.2.trans number⟩
  | followTrend tick clock =>
      cases phase <;> cases inOrder
      exact marketRun_other run priced (by simp [SimStep.sender])
  | noise index draws clock =>
      cases phase <;> cases inOrder
      exact marketRun_other run priced (by simp [SimStep.sender])

theorem marketRun_run {phase later : QuotePhase} (run : MarketRun config phase sim)
    (priced : sim.Priced) {steps : List SimStep} (steady : ∀ action ∈ steps, action.Steady)
    (inOrder : steps.foldlM QuotePhase.after phase = some later) :
    MarketRun config later (Transition.run step sim steps).1 := by
  have both : MarketRun config later (Transition.run step sim steps).1 ∧
      (Transition.run step sim steps).1.Priced := by
    refine Transition.run_phased QuotePhase.after
      (fun phase sim => MarketRun config phase sim ∧ sim.Priced) ?_ ⟨run, priced⟩ inOrder
      (Transition.along_of_forall steady sim)
    rintro phase later sim action ⟨run, priced⟩ inOrder steady
    exact marketRun_step run priced steady inOrder
  exact both.1

theorem inOrder_runSteps (inputs : Nat → TickInput) (ticks : Nat) :
    (runSteps inputs ticks).foldlM QuotePhase.after .resting = some .resting := by
  induction ticks with
  | zero => rfl
  | succ ticks ih =>
      have split : runSteps inputs (ticks + 1) =
          runSteps inputs ticks ++ tickSteps ticks (inputs ticks) := by
        simp [runSteps, List.range_succ]
      rw [split, List.foldlM_append, ih]
      rfl

/-- Every state of a run of the simulation is a state of the market. -/
theorem marketRun_of_prefix {initial : ℚ} (number : config.initialPrice = .finite initial)
    {inputs : Nat → TickInput} (steady : ∀ tick, ∃ value, (inputs tick).returnPct = .finite value)
    {ticks : Nat} {steps : List SimStep} (part : steps <+: runSteps inputs ticks) :
    ∃ phase, MarketRun config phase (Transition.run step (new config) steps).1 := by
  obtain ⟨rest, whole⟩ := part
  have inOrder := inOrder_runSteps inputs ticks
  rw [← whole, List.foldlM_append] at inOrder
  obtain ⟨phase, reached, -⟩ := Option.bind_eq_some_iff.mp inOrder
  have allSteady : ∀ action ∈ steps, action.Steady := by
    intro action member
    have inRun : action ∈ runSteps inputs ticks := by
      rw [← whole]
      exact List.mem_append_left rest member
    obtain ⟨tick, -, inTick⟩ := List.mem_flatMap.mp inRun
    simp only [tickSteps, List.mem_cons, List.not_mem_nil, or_false] at inTick
    rcases inTick with rfl | rfl | rfl | rfl | rfl | rfl | rfl | rfl
    · exact steady tick
    all_goals trivial
  exact ⟨phase, marketRun_run .start ⟨initial, number⟩ allSteady reached⟩

/-! ### The market maker's discipline -/

/-- The orders of the market maker on the book are the remembered ones. -/
theorem OwnQuotes.owned_iff (own : sim.OwnQuotes) (id : Nat) :
    sim.orderOwner id = some .marketMaker ∧ sim.book.orderAt id ≠ none ↔
      (id = sim.activeBidId ∨ id = sim.activeAskId) ∧ sim.book.orderAt id ≠ none := by
  constructor
  · rintro ⟨owned, live⟩
    obtain ⟨order, found⟩ := Option.ne_none_iff_exists'.mp live
    have idEq := (own.quotes id order owned found).1
    refine ⟨?_, live⟩
    cases side : order.side.isBuy <;> rw [side] at idEq
    · exact Or.inr idEq
    · exact Or.inl idEq
  · rintro ⟨remembered, live⟩
    obtain ⟨order, found⟩ := Option.ne_none_iff_exists'.mp live
    have nonzero := own.id_ne_zero found
    refine ⟨?_, live⟩
    rcases remembered with rfl | rfl
    · exact own.owned true nonzero
    · exact own.owned false nonzero

theorem Disciplined.bid_lt_ask {phase : QuotePhase} (disciplined : Disciplined phase sim)
    {bid ask : Order} (bidFound : sim.book.orderAt (sim.activeId true) = some bid)
    (askFound : sim.book.orderAt (sim.activeId false) = some ask) :
    bid.price.lt ask.price = true := by
  have own := disciplined.own
  have bidLive := own.id_ne_zero bidFound
  have askLive := own.id_ne_zero askFound
  rw [(own.isQuote_active bidFound).2, (own.isQuote_active askFound).2]
  -- In the middle of its tick the market maker has at most one quote.
  have knows := disciplined.knows
  cases phase with
  | resting => exact knows ⟨true, bidLive⟩
  | bidCancelled => exact absurd knows bidLive
  | quotesCancelled => exact absurd (knows true) bidLive
  | priced => exact absurd (knows.1 true) bidLive
  | bidQuoted => exact absurd knows.1 askLive

/-- In every market around the market maker, and so in every state of every run
of the simulation: the market maker's orders on the book are those among its two
remembered quotes that are still there, one for each side, the bid below the ask;
none of them outlives the next tick; and no trade is between two of them. -/
theorem quoting_discipline (config : SimulationConfig) {initial : ℚ}
    (number : config.initialPrice = .finite initial) :
    (∀ phase sim, MarketRun config phase sim →
      (∀ id, sim.orderOwner id = some .marketMaker ∧ sim.book.orderAt id ≠ none ↔
        (id = sim.activeBidId ∨ id = sim.activeAskId) ∧ sim.book.orderAt id ≠ none) ∧
      (∀ id order, sim.orderOwner id = some .marketMaker → sim.book.orderAt id = some order →
        id = if order.side.isBuy then sim.activeBidId else sim.activeAskId) ∧
      (∀ bid ask, sim.book.orderAt sim.activeBidId = some bid →
        sim.book.orderAt sim.activeAskId = some ask → bid.price.lt ask.price = true) ∧
      (∀ trade ∈ sim.tradeLog, ¬(sim.orderOwner trade.buyOrderId = some .marketMaker ∧
        sim.orderOwner trade.sellOrderId = some .marketMaker))) ∧
    (∀ sim, MarketRun config .resting sim → ∀ noise bidClock askClock id,
      sim.orderOwner id = some .marketMaker →
        (sim.makerTick noise bidClock askClock).book.orderAt id = none) ∧
    (∀ inputs : Nat → TickInput, (∀ tick, ∃ value, (inputs tick).returnPct = .finite value) →
      ∀ ticks steps, steps <+: runSteps inputs ticks →
        ∃ phase, MarketRun config phase (Transition.run step (new config) steps).1) := by
  refine ⟨?_, ?_, ?_⟩
  · intro phase sim run
    have disciplined := disciplined_of_run number run
    have own := disciplined.own
    refine ⟨own.owned_iff, ?_, ?_, ?_⟩
    · intro id order owned found
      rw [(own.quotes id order owned found).1]
      cases order.side.isBuy <;> rfl
    · intro bid ask bidFound askFound
      exact disciplined.bid_lt_ask bidFound askFound
    · exact disciplined.free.apart
  · intro sim run noise bidClock askClock id owned
    exact gone_makerTick (disciplined_of_run number run).own noise bidClock askClock owned
  · intro inputs steady ticks steps part
    exact marketRun_of_prefix number steady part

/-- After a tick with a trade against its ask, the market maker has both quotes on
the book, the bid below the ask, and has not traded with itself. -/
theorem quoting_discipline_buying_noise :
    ∃ sim bid ask, sim = afterTicks { numTicks := 10 } (fun _ => buyingNoise) 1 ∧
      sim.tradeLog.length = 1 ∧ sim.book.orderAt sim.activeBidId = some bid ∧
      sim.book.orderAt sim.activeAskId = some ask ∧ bid.price.lt ask.price = true ∧
      ∀ trade ∈ sim.tradeLog, ¬(sim.orderOwner trade.buyOrderId = some .marketMaker ∧
        sim.orderOwner trade.sellOrderId = some .marketMaker) := by
  obtain ⟨disciplined, -, reached⟩ := quoting_discipline { numTicks := 10 } rfl
  obtain ⟨phase, run⟩ := reached (fun _ => buyingNoise) (fun _ => ⟨0, rfl⟩) 1 _ List.prefix_rfl
  obtain ⟨-, -, ordered, free⟩ := disciplined phase _ run
  have traded : (afterTicks { numTicks := 10 } (fun _ => buyingNoise) 1).tradeLog.length = 1 := by
    decide +kernel
  have live : ∀ buy, ∃ order, (afterTicks { numTicks := 10 } (fun _ => buyingNoise) 1).book.orderAt
      ((afterTicks { numTicks := 10 } (fun _ => buyingNoise) 1).activeId buy) = some order := by
    simp only [← Option.isSome_iff_exists]
    decide +kernel
  obtain ⟨bid, bidFound⟩ := live true
  obtain ⟨ask, askFound⟩ := live false
  exact ⟨_, bid, ask, rfl, traded, bidFound, askFound, ordered bid ask bidFound askFound, free⟩

end Simulation

end OrderBookExchange
