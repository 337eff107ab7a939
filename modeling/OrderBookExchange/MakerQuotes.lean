import OrderBookExchange.SimulationAccounts

/-!
# The quotes of the market maker

The market maker remembers the identifiers of its two quotes and not whether
they are still on the book.  As long as it cancels a remembered quote before it
sends the next one on that side, its orders on the book are among the two that
it remembers, each on its side and at the price computed last.
-/

namespace OrderBookExchange

/-- The agent that acts in a step. -/
def SimStep.sender : SimStep → Agent
  | .followTrend _ _ => .momentumTrader
  | .noise index _ _ => .noiseTrader index
  | _ => .marketMaker

namespace Simulation

variable {sim next : Simulation}

theorem agent_of_request {action : SimStep} {request : OrderRequest}
    (requested : sim.request action = some request) : request.agent = action.sender := by
  cases action with
  | advance tick returnPct => simp [Simulation.request] at requested
  | cancelQuotes noise => simp [Simulation.request] at requested
  | quoteBid clock =>
      simp only [Simulation.request, Option.ite_none_right_eq_some, Option.some.injEq] at requested
      rw [← requested.2]
      rfl
  | quoteAsk clock =>
      simp only [Simulation.request, Option.ite_none_right_eq_some, Option.some.injEq] at requested
      rw [← requested.2]
      rfl
  | followTrend tick clock =>
      simp only [Simulation.request] at requested
      split_ifs at requested <;> cases requested <;> rfl
  | noise index draws clock =>
      simp only [Simulation.request] at requested
      split_ifs at requested <;> cases requested <;> rfl

/-- The market maker's quotes and the prices that they are made from are the
same. -/
structure SameQuotes (sim next : Simulation) : Prop where
  activeBidId : next.activeBidId = sim.activeBidId
  activeAskId : next.activeAskId = sim.activeAskId
  bidPrice : next.bidPrice = sim.bidPrice
  askPrice : next.askPrice = sim.askPrice
  fairValue : next.fairValue = sim.fairValue
  truePrice : next.truePrice = sim.truePrice

/-! ### What sending an order does -/

theorem sameQuotes_routeFill (sim : Simulation) (orderId : Nat) (side : Side) (trade : Trade) :
    SameQuotes sim (sim.routeFill orderId side trade) := by
  unfold routeFill
  split <;> exact ⟨rfl, rfl, rfl, rfl, rfl, rfl⟩

theorem SameQuotes.trans {middle : Simulation} (first : SameQuotes sim middle)
    (second : SameQuotes middle next) : SameQuotes sim next where
  activeBidId := second.activeBidId.trans first.activeBidId
  activeAskId := second.activeAskId.trans first.activeAskId
  bidPrice := second.bidPrice.trans first.bidPrice
  askPrice := second.askPrice.trans first.askPrice
  fairValue := second.fairValue.trans first.fairValue
  truePrice := second.truePrice.trans first.truePrice

/-- The callback moves shares and cash, and the market maker does not look at its
quotes before the next tick. -/
theorem sameQuotes_foldl_tradeCallback (sim : Simulation) (trades : List Trade) :
    SameQuotes sim (trades.foldl tradeCallback sim) := by
  induction trades generalizing sim with
  | nil => exact ⟨rfl, rfl, rfl, rfl, rfl, rfl⟩
  | cons trade trades ih =>
      have logged : SameQuotes sim { sim with tradeLog := sim.tradeLog ++ [trade] } :=
        ⟨rfl, rfl, rfl, rfl, rfl, rfl⟩
      have routed := (logged.trans (sameQuotes_routeFill _ trade.buyOrderId .buy trade)).trans
        (sameQuotes_routeFill _ trade.sellOrderId .sell trade)
      have told : SameQuotes sim (sim.tradeCallback trade) :=
        routed.trans ⟨rfl, rfl, rfl, rfl, rfl, rfl⟩
      exact told.trans (ih _)

theorem sameQuotes_sendOrder (sim : Simulation) (clock : Clock) (request : OrderRequest) :
    SameQuotes sim (sim.sendOrder clock request).1 := by
  have counted : SameQuotes sim (sim.submitted clock request) := ⟨rfl, rfl, rfl, rfl, rfl, rfl⟩
  have traded := counted.trans (sameQuotes_foldl_tradeCallback (sim.submitted clock request)
    (sim.submission clock request).2.2)
  rw [sendOrder_eq]
  exact traded.trans ⟨rfl, rfl, rfl, rfl, rfl, rfl⟩

/-- An order of an agent on the book after a submission was there before it, or
it is the submitted order, which rests. -/
theorem owned_sendOrder (accounted : sim.Accounted) (clock : Clock) (request : OrderRequest)
    {agent : Agent} {id : Nat} {order : Order}
    (owned : (sim.sendOrder clock request).1.orderOwner id = some agent)
    (found : (sim.sendOrder clock request).1.book.orderAt id = some order) :
    (∃ older, sim.orderOwner id = some agent ∧ sim.book.orderAt id = some older ∧
        older.SameTerms order) ∨
      (request.agent = agent ∧ id = (sim.sendOrder clock request).2 ∧
        ¬(request.type = .market ∨ request.type = .ioc) ∧ order.side = request.side ∧
        order.price = request.price) := by
  obtain ⟨linked, unfilled⟩ := accounted.linked
  rcases sendOrder_cases accounted clock request with
    ⟨-, bookEq, ownerEq, -⟩ | ⟨idEq, bookEq, ownerEq, -⟩
  · rw [bookEq] at found
    rw [ownerEq] at owned
    exact Or.inl ⟨order, owned, found, .refl order⟩
  · rw [bookEq] at found
    rw [ownerEq] at owned
    rcases OrderBook.acceptOrder_terms clock _ _ _ _ linked unfilled found with
      ⟨older, olderFound, terms⟩ | ⟨terms, rests⟩
    · have different : id ≠ sim.book.nextOrderId := (linked.lt_of_orderAt olderFound).ne
      rw [Function.update_of_ne different] at owned
      exact Or.inl ⟨older, owned, olderFound, terms⟩
    · have own : id = sim.book.nextOrderId := OrderBook.id_of_added linked unfilled found terms
      rw [own, Function.update_self, Option.some.injEq] at owned
      refine Or.inr ⟨owned, own.trans idEq.symm, rests, terms.side.symm, terms.price.symm.trans ?_⟩
      exact if_neg fun market => rests (Or.inl market)

theorem owner_sendOrder (accounted : sim.Accounted) (clock : Clock) (request : OrderRequest)
    {agent : Agent} {id : Nat} (owned : sim.orderOwner id = some agent) :
    (sim.sendOrder clock request).1.orderOwner id = some agent := by
  rcases sendOrder_cases accounted clock request with ⟨-, -, ownerEq, -⟩ | ⟨-, -, ownerEq, -⟩
  · rw [ownerEq]
    exact owned
  · have known : sim.orderOwner id ≠ none := by simp [owned]
    have older : id ≠ sim.book.nextOrderId := ((accounted.registered id).mp known).2.ne
    rw [ownerEq, Function.update_of_ne older]
    exact owned

theorem book_sendCancel (agent : Agent) (orderId : Nat) :
    (sim.sendCancel agent orderId).book = (sim.book.cancelOrder orderId).1 := by
  change (sim.engine.cancelOrder sim.config.symbol orderId).1.book sim.config.symbol = _
  rw [(MatchingEngine.book_cancelOrder _ _ _ _).1, if_pos rfl]
  rfl

theorem orderAt_sendCancel (accounted : sim.Accounted) (agent : Agent) (orderId id : Nat) :
    (sim.sendCancel agent orderId).book.orderAt id =
      if id = orderId then none else sim.book.orderAt id := by
  obtain ⟨linked, unfilled⟩ := accounted.linked
  rw [book_sendCancel]
  exact (OrderBook.cancelOrder_conserved linked unfilled orderId).2.2.2.2 id

/-! ### The trades in the log -/

/-- Both parties of every logged trade are orders that the engine has issued. -/
def LogIssued (sim : Simulation) : Prop :=
  ∀ trade ∈ sim.tradeLog, trade.buyOrderId < sim.book.nextOrderId ∧
    trade.sellOrderId < sim.book.nextOrderId

theorem logIssued_new (config : SimulationConfig) : (new config).LogIssued := by
  simp [LogIssued, new]

theorem LogIssued.congr (same : SameAccounts sim next) (issued : sim.LogIssued) :
    next.LogIssued := by
  unfold LogIssued book
  rw [same.tradeLog, same.engine, same.config]
  exact issued

theorem LogIssued.sendCancel (issued : sim.LogIssued) (accounted : sim.Accounted)
    (agent : Agent) (orderId : Nat) : (sim.sendCancel agent orderId).LogIssued := by
  obtain ⟨linked, unfilled⟩ := accounted.linked
  unfold LogIssued
  rw [book_sendCancel, (OrderBook.cancelOrder_conserved linked unfilled orderId).2.2.1]
  exact issued

theorem LogIssued.sendOrder (issued : sim.LogIssued) (accounted : sim.Accounted) (clock : Clock)
    (request : OrderRequest) : (sim.sendOrder clock request).1.LogIssued := by
  obtain ⟨linked, unfilled⟩ := accounted.linked
  unfold LogIssued
  rcases sendOrder_cases accounted clock request with
    ⟨-, bookEq, -, logEq⟩ | ⟨-, bookEq, -, logEq⟩
  · rw [bookEq, logEq]
    exact issued
  · have nextEq : (sim.accepted clock request).1.nextOrderId = sim.book.nextOrderId + 1 :=
      (OrderBook.acceptOrder_conserved clock _ _ _ _ linked unfilled).2.2.1
    rw [bookEq, logEq, nextEq]
    intro trade logged
    rcases List.mem_append.mp logged with earlier | traded
    · have older := issued trade earlier
      omega
    · obtain ⟨resting, -, -, older, -, -, buyer, seller⟩ := OrderBook.acceptOrder_trade_terms
        clock _ _ _ _ linked unfilled traded
      rw [buyer, seller]
      split <;> omega

/-! ### The two sides of the market maker -/

/-- The quote that the market maker remembers: its bid for `true`, its ask for
`false`, and zero for none. -/
def activeId (sim : Simulation) : Bool → Nat
  | true => sim.activeBidId
  | false => sim.activeAskId

def quotePrice (sim : Simulation) : Bool → Price
  | true => sim.bidPrice
  | false => sim.askPrice

/-- `cancelBid` for `true` and `cancelAsk` for `false`. -/
def cancelQuote (sim : Simulation) : Bool → Simulation
  | true => sim.cancelBid
  | false => sim.cancelAsk

def quoteStep : Bool → Clock → SimStep
  | true, clock => .quoteBid clock
  | false, clock => .quoteAsk clock

/-- The order that the market maker sends to quote on a side. -/
def quoteRequest (sim : Simulation) (buy : Bool) : OrderRequest :=
  ⟨.marketMaker, if buy then .buy else .sell, .limit, sim.quotePrice buy, 100⟩

theorem SameQuotes.activeId_eq (same : SameQuotes sim next) : next.activeId = sim.activeId := by
  funext buy
  cases buy
  · exact same.activeAskId
  · exact same.activeBidId

theorem SameQuotes.quotePrice_eq (same : SameQuotes sim next) :
    next.quotePrice = sim.quotePrice := by
  funext buy
  cases buy
  · exact same.askPrice
  · exact same.bidPrice

theorem activeId_remember (sim : Simulation) (id : Nat) (buy : Bool) (clock : Clock)
    (other : Bool) :
    (sim.remember id (quoteStep buy clock)).activeId other =
      if other = buy then id else sim.activeId other := by
  cases buy <;> cases other <;> rfl

theorem quotePrice_remember (sim : Simulation) (id : Nat) (buy : Bool) (clock : Clock)
    (other : Bool) :
    (sim.remember id (quoteStep buy clock)).quotePrice other = sim.quotePrice other := by
  cases buy <;> cases other <;> rfl

/-- Quoting on a side sends the quote and remembers it, or does nothing. -/
theorem step_quoteStep (sim : Simulation) (buy : Bool) (clock : Clock) :
    (sim.request (quoteStep buy clock) = none ∧ (sim.step (quoteStep buy clock)).1 = sim) ∨
      (sim.request (quoteStep buy clock) = some (sim.quoteRequest buy) ∧
        (sim.step (quoteStep buy clock)).1 = (sim.sendOrder clock (sim.quoteRequest buy)).1.remember
          (sim.sendOrder clock (sim.quoteRequest buy)).2 (quoteStep buy clock)) := by
  cases requested : sim.request (quoteStep buy clock) with
  | none =>
      rw [step_of_none requested]
      cases buy <;> exact Or.inl ⟨rfl, rfl⟩
  | some request =>
      have sends : request = sim.quoteRequest buy := by
        cases buy with
        | true =>
            change (if _ then some (sim.quoteRequest true) else none) = some request at requested
            split at requested
            · exact (Option.some.inj requested).symm
            · simp at requested
        | false =>
            change (if _ then some (sim.quoteRequest false) else none) = some request at requested
            split at requested
            · exact (Option.some.inj requested).symm
            · simp at requested
      subst sends
      rw [step_of_some requested]
      cases buy <;> exact Or.inr ⟨rfl, rfl⟩

theorem sameQuotes_remember (sim : Simulation) (id : Nat) {action : SimStep}
    (notMaker : action.sender ≠ .marketMaker) : SameQuotes sim (sim.remember id action) := by
  cases action with
  | followTrend | noise => exact ⟨rfl, rfl, rfl, rfl, rfl, rfl⟩
  | advance | cancelQuotes | quoteBid | quoteAsk => exact absurd rfl notMaker

/-- A step of another agent sends an order or does nothing, and does not touch what
the market maker remembers. -/
theorem step_other (sim : Simulation) {action : SimStep}
    (notMaker : action.sender ≠ .marketMaker) :
    (sim.step action).1 = sim ∨
      ∃ request, request.agent ≠ .marketMaker ∧
        SameAccounts (sim.sendOrder action.clock request).1 (sim.step action).1 ∧
        SameQuotes (sim.sendOrder action.clock request).1 (sim.step action).1 := by
  cases requested : sim.request action with
  | none =>
      rw [step_of_none requested]
      cases action with
      | followTrend | noise => exact Or.inl rfl
      | advance | cancelQuotes | quoteBid | quoteAsk => exact absurd rfl notMaker
  | some request =>
      rw [step_of_some requested]
      exact Or.inr ⟨request, agent_of_request requested ▸ notMaker,
        sameAccounts_remember _ _ action, sameQuotes_remember _ _ notMaker⟩

/-- Cancelling a quote sends a cancel if there is one to send, and forgets it. -/
theorem cancelQuote_cases (sim : Simulation) (buy : Bool) :
    (sim.activeId buy = 0 ∧ sim.cancelQuote buy = sim) ∨
      (SameAccounts (sim.sendCancel .marketMaker (sim.activeId buy)) (sim.cancelQuote buy) ∧
        (∀ other, (sim.cancelQuote buy).activeId other =
          if other = buy then 0 else sim.activeId other) ∧
        ∀ other, (sim.cancelQuote buy).quotePrice other = sim.quotePrice other) := by
  cases buy with
  | true =>
      change (sim.activeBidId = 0 ∧ sim.cancelBid = sim) ∨ _
      unfold cancelQuote cancelBid
      split
      · refine Or.inr ⟨⟨rfl, rfl, rfl, rfl, rfl⟩, ?_, ?_⟩ <;> intro other <;> cases other <;> rfl
      · next none => exact Or.inl ⟨Nat.eq_zero_of_not_pos none, rfl⟩
  | false =>
      change (sim.activeAskId = 0 ∧ sim.cancelAsk = sim) ∨ _
      unfold cancelQuote cancelAsk
      split
      · refine Or.inr ⟨⟨rfl, rfl, rfl, rfl, rfl⟩, ?_, ?_⟩ <;> intro other <;> cases other <;> rfl
      · next none => exact Or.inl ⟨Nat.eq_zero_of_not_pos none, rfl⟩

theorem activeId_cancelQuote (sim : Simulation) (buy : Bool) (other : Bool) :
    (sim.cancelQuote buy).activeId other = if other = buy then 0 else sim.activeId other := by
  rcases cancelQuote_cases sim buy with ⟨none, unchanged⟩ | ⟨-, idEq, -⟩
  · rw [unchanged]
    split
    · next same => rw [same, none]
    · rfl
  · exact idEq other

/-- The market maker computes its prices without a quote. -/
theorem activeId_cancelQuotes (sim : Simulation) (noise : ℚ) (buy : Bool) :
    (sim.cancelQuotes noise).activeId buy = 0 := by
  have kept : (sim.cancelQuotes noise).activeId buy =
      ((sim.cancelQuote true).cancelQuote false).activeId buy := by
    cases buy <;> rfl
  rw [kept, activeId_cancelQuote, activeId_cancelQuote]
  cases buy <;> rfl

/-! ### The market maker's orders -/

/-- An order with the identifier and at the price that the market maker remembers
for the order's side. -/
def IsQuote (sim : Simulation) (id : Nat) (order : Order) : Prop :=
  id = sim.activeId order.side.isBuy ∧ order.price = sim.quotePrice order.side.isBuy

/-- The market maker's orders on the book are its quotes, and the quotes it
remembers are its own. -/
structure OwnQuotes (sim : Simulation) : Prop where
  accounted : sim.Accounted
  owned : ∀ buy, sim.activeId buy ≠ 0 → sim.orderOwner (sim.activeId buy) = some .marketMaker
  distinct : sim.activeId true ≠ 0 → sim.activeId true ≠ sim.activeId false
  quotes : ∀ id order, sim.orderOwner id = some .marketMaker → sim.book.orderAt id = some order →
    sim.IsQuote id order

theorem ownQuotes_new (config : SimulationConfig) : (new config).OwnQuotes where
  accounted := accounted_new config
  owned := by
    intro buy nonzero
    cases buy <;> exact absurd rfl nonzero
  distinct := fun nonzero => absurd rfl nonzero
  quotes := by
    intro id order owned
    simp [new] at owned

theorem IsQuote.congr (ids : next.activeId = sim.activeId)
    (prices : next.quotePrice = sim.quotePrice) {id : Nat} {order : Order}
    (quote : sim.IsQuote id order) : next.IsQuote id order := by
  unfold IsQuote
  rw [ids, prices]
  exact quote

theorem IsQuote.sameTerms {id : Nat} {older order : Order} (quote : sim.IsQuote id older)
    (terms : older.SameTerms order) : sim.IsQuote id order := by
  unfold IsQuote
  rw [← terms.side, ← terms.price]
  exact quote

namespace OwnQuotes

theorem id_ne_zero (own : sim.OwnQuotes) {id : Nat} {order : Order}
    (found : sim.book.orderAt id = some order) : id ≠ 0 := by
  rw [← own.accounted.linked.1.id_of_orderAt found]
  exact own.accounted.numbered.resting.all sim.config.symbol id order found

theorem isQuote_active (own : sim.OwnQuotes) {buy : Bool} {order : Order}
    (found : sim.book.orderAt (sim.activeId buy) = some order) :
    order.side.isBuy = buy ∧ order.price = sim.quotePrice buy := by
  have nonzero := own.id_ne_zero found
  obtain ⟨idEq, priceEq⟩ := own.quotes _ order (own.owned buy nonzero) found
  have sideEq : order.side.isBuy = buy := by
    cases buy <;> cases side : order.side.isBuy
    · rfl
    · rw [side] at idEq
      exact absurd idEq.symm (own.distinct (idEq ▸ nonzero))
    · rw [side] at idEq
      exact absurd idEq (own.distinct nonzero)
    · rfl
  rw [sideEq] at priceEq
  exact ⟨sideEq, priceEq⟩

theorem congr (same : SameAccounts sim next) (ids : next.activeId = sim.activeId)
    (prices : next.quotePrice = sim.quotePrice) (own : sim.OwnQuotes) : next.OwnQuotes where
  accounted := own.accounted.congr same
  owned := by
    intro buy
    rw [ids, same.orderOwner]
    exact own.owned buy
  distinct := by
    rw [ids]
    exact own.distinct
  quotes := by
    intro id order owned found
    rw [same.orderOwner] at owned
    rw [book, same.engine, same.config] at found
    exact (own.quotes id order owned found).congr ids prices

/-- After any submission the market maker's orders are its quotes, or the order
it has just sent. -/
theorem quotes_sendOrder (own : sim.OwnQuotes) (clock : Clock) (request : OrderRequest) {id : Nat}
    {order : Order}
    (owned : (sim.sendOrder clock request).1.orderOwner id = some .marketMaker)
    (found : (sim.sendOrder clock request).1.book.orderAt id = some order) :
    sim.IsQuote id order ∨
      (request.agent = .marketMaker ∧ id = (sim.sendOrder clock request).2 ∧
        order.side = request.side ∧ order.price = request.price) := by
  rcases owned_sendOrder own.accounted clock request owned found with
    ⟨older, olderOwned, olderFound, terms⟩ | ⟨sender, idEq, -, sideEq, priceEq⟩
  · exact Or.inl ((own.quotes id older olderOwned olderFound).sameTerms terms)
  · exact Or.inr ⟨sender, idEq, sideEq, priceEq⟩

theorem sendOther (own : sim.OwnQuotes) (clock : Clock) {request : OrderRequest}
    (other : request.agent ≠ .marketMaker) : (sim.sendOrder clock request).1.OwnQuotes := by
  have same := sameQuotes_sendOrder sim clock request
  constructor
  case accounted => exact own.accounted.sendOrder clock request
  case owned =>
    intro buy
    rw [same.activeId_eq]
    exact fun nonzero => owner_sendOrder own.accounted clock request (own.owned buy nonzero)
  case distinct =>
    rw [same.activeId_eq]
    exact own.distinct
  case quotes =>
    intro id order owned found
    rcases own.quotes_sendOrder clock request owned found with quote | ⟨sender, -⟩
    · exact quote.congr same.activeId_eq same.quotePrice_eq
    · exact absurd sender other

theorem owner_sent (own : sim.OwnQuotes) (clock : Clock) {request : OrderRequest}
    (sender : request.agent = .marketMaker) (accepted : (sim.sendOrder clock request).2 ≠ 0) :
    (sim.sendOrder clock request).1.orderOwner (sim.sendOrder clock request).2 =
      some .marketMaker := by
  rcases sendOrder_cases own.accounted clock request with ⟨refused, -⟩ | ⟨idEq, -, ownerEq, -⟩
  · exact absurd refused accepted
  · rw [ownerEq, idEq, Function.update_self, sender]

theorem sent_ne_activeId (own : sim.OwnQuotes) (clock : Clock) (request : OrderRequest)
    (accepted : (sim.sendOrder clock request).2 ≠ 0) (buy : Bool) :
    (sim.sendOrder clock request).2 ≠ sim.activeId buy := by
  intro equal
  rcases sendOrder_cases own.accounted clock request with ⟨refused, -⟩ | ⟨idEq, -⟩
  · exact accepted refused
  · have known : sim.orderOwner (sim.activeId buy) ≠ none := by
      rw [own.owned buy (equal ▸ accepted)]
      simp
    have older := ((own.accounted.registered _).mp known).2
    rw [← equal, idEq] at older
    exact lt_irrefl _ older

/-- The market maker may quote on a side on which it remembers no quote. -/
theorem quote (own : sim.OwnQuotes) {buy : Bool} (clock : Clock)
    (cancelled : sim.activeId buy = 0) : (sim.step (quoteStep buy clock)).1.OwnQuotes := by
  rcases step_quoteStep sim buy clock with ⟨-, unchanged⟩ | ⟨-, sent⟩
  · rw [unchanged]
    exact own
  rw [sent]
  have same := sameQuotes_sendOrder sim clock (sim.quoteRequest buy)
  have remembered := sameAccounts_remember (sim.sendOrder clock (sim.quoteRequest buy)).1
    (sim.sendOrder clock (sim.quoteRequest buy)).2 (quoteStep buy clock)
  have requestSide : (sim.quoteRequest buy).side.isBuy = buy := by cases buy <;> rfl
  have accountedAfter := (own.accounted.sendOrder clock (sim.quoteRequest buy)).congr remembered
  refine ⟨accountedAfter, ?_, ?_, ?_⟩
  · intro other
    rw [activeId_remember, remembered.orderOwner]
    split
    · exact own.owner_sent clock rfl
    · rw [same.activeId_eq]
      exact fun nonzero => owner_sendOrder own.accounted clock _ (own.owned other nonzero)
  · rw [activeId_remember, activeId_remember, same.activeId_eq]
    have fresh := own.sent_ne_activeId clock (sim.quoteRequest buy)
    cases buy with
    | true => exact fun accepted => fresh accepted false
    | false =>
        intro nonzero equal
        have sentId : sim.activeId true = (sim.sendOrder clock (sim.quoteRequest false)).2 := equal
        exact fresh (sentId ▸ nonzero) true sentId.symm
  · intro id order owned found
    rw [remembered.orderOwner] at owned
    rw [book, remembered.engine, remembered.config] at found
    unfold IsQuote
    rw [activeId_remember, quotePrice_remember, same.quotePrice_eq, same.activeId_eq]
    rcases own.quotes_sendOrder clock _ owned found with ⟨idEq, priceEq⟩ | ⟨-, idEq, sideEq, priceEq⟩
    · have otherSide : order.side.isBuy ≠ buy := by
        intro sameSide
        rw [sameSide, cancelled] at idEq
        have issued := ((own.accounted.sendOrder clock (sim.quoteRequest buy)).registered id).mp
          (by rw [owned]; simp)
        exact issued.1 idEq
      rw [if_neg otherSide]
      exact ⟨idEq, priceEq⟩
    · rw [sideEq, requestSide, if_pos rfl]
      exact ⟨idEq, priceEq⟩

theorem sendCancel (own : sim.OwnQuotes) (agent : Agent) (orderId : Nat) :
    (sim.sendCancel agent orderId).OwnQuotes where
  accounted := own.accounted.sendCancel agent orderId
  owned := own.owned
  distinct := own.distinct
  quotes := by
    intro id order owned found
    rw [orderAt_sendCancel own.accounted] at found
    split at found
    · simp at found
    · exact own.quotes id order owned found

theorem cancelQuote (own : sim.OwnQuotes) (buy : Bool) : (sim.cancelQuote buy).OwnQuotes := by
  rcases cancelQuote_cases sim buy with ⟨-, unchanged⟩ | ⟨same, idEq, priceEq⟩
  · rw [unchanged]
    exact own
  · refine ⟨(own.accounted.sendCancel _ _).congr same, ?_, ?_, ?_⟩
    · intro other
      rw [idEq, same.orderOwner]
      split
      · exact fun nonzero => absurd rfl nonzero
      · exact own.owned other
    · rw [idEq, idEq]
      cases buy with
      | true => exact fun nonzero => absurd rfl nonzero
      | false => exact id
    · intro id order owned found
      rw [same.orderOwner] at owned
      rw [book, same.engine, same.config] at found
      change (sim.sendCancel _ _).book.orderAt id = some order at found
      rw [orderAt_sendCancel own.accounted] at found
      split at found
      · simp at found
      · next kept =>
          obtain ⟨ownId, ownPrice⟩ := own.quotes id order owned found
          have otherSide : order.side.isBuy ≠ buy := by
            rintro rfl
            exact kept ownId
          unfold IsQuote
          rw [idEq, priceEq, if_neg otherSide]
          exact ⟨ownId, ownPrice⟩

theorem priceQuotes (own : sim.OwnQuotes) (noQuotes : ∀ buy, sim.activeId buy = 0) (noise : ℚ) :
    (sim.priceQuotes noise).OwnQuotes where
  accounted := by
    have same : SameAccounts sim (sim.priceQuotes noise) := ⟨rfl, rfl, rfl, rfl, rfl⟩
    exact own.accounted.congr same
  owned := own.owned
  distinct := own.distinct
  quotes := by
    intro id order owned found
    have quote := own.quotes id order owned found
    exact absurd (quote.1.trans (noQuotes _)) (own.id_ne_zero found)

theorem cancelQuotes (own : sim.OwnQuotes) (noise : ℚ) : (sim.cancelQuotes noise).OwnQuotes := by
  apply ((own.cancelQuote true).cancelQuote false).priceQuotes
  intro buy
  rw [activeId_cancelQuote, activeId_cancelQuote]
  cases buy <;> rfl

/-- On a side on which it remembers no quote, the market maker has no order. -/
theorem absent_of_cancelled (own : sim.OwnQuotes) {id : Nat} {order : Order}
    (owned : sim.orderOwner id = some .marketMaker) (found : sim.book.orderAt id = some order) :
    sim.activeId order.side.isBuy ≠ 0 := by
  intro cancelled
  have quote := own.quotes id order owned found
  exact own.id_ne_zero found (quote.1.trans cancelled)

end OwnQuotes

end Simulation

end OrderBookExchange
