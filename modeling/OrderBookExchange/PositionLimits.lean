import OrderBookExchange.ListCounts
import OrderBookExchange.QuotingDiscipline

/-!
# Position limits

Two agents have a limit on the shares they hold.  Each of them compares the
position it knows of with the limit before it sends an order, and leaves the size
of the order out of the comparison.  The position it knows of also misses the
fills of its own submissions.  The limits are kept in a run in which each order of
the two agents fits below the limit as a whole.

The proof bounds what an agent would hold if all its open orders of one side were
filled.  A trade moves shares from the open orders to the position, so only a new
order can raise this bound, and by no more than its size.
-/

namespace OrderBookExchange

/-- The order of a trade on one side, the buying one for `true`. -/
def Trade.party (trade : Trade) (buy : Bool) : Nat :=
  if buy then trade.buyOrderId else trade.sellOrderId

/-- What an order trades on one side. -/
def partyQty (trades : List Trade) (buy : Bool) (id : Nat) : Nat :=
  (trades.map fun trade => if trade.party buy = id then trade.quantity.toNat else 0).sum

theorem Trade.names_party (trade : Trade) (buy : Bool) : trade.Names (trade.party buy) := by
  cases buy
  · exact Or.inr rfl
  · exact Or.inl rfl

theorem partyQty_le_tradedQty (trades : List Trade) (buy : Bool) (id : Nat) :
    partyQty trades buy id ≤ tradedQty trades id := by
  induction trades with
  | nil => exact le_rfl
  | cons trade trades ih =>
      have first : (if trade.party buy = id then trade.quantity.toNat else 0) ≤
          tradedQty [trade] id := by
        rw [tradedQty_singleton]
        split
        · next isParty => rw [if_pos (isParty ▸ trade.names_party buy)]
        · exact Nat.zero_le _
      have append : tradedQty (trade :: trades) id = tradedQty [trade] id + tradedQty trades id :=
        tradedQty_append [trade] trades id
      rw [append]
      exact Nat.add_le_add first ih

theorem partyQty_eq_zero {trades : List Trade} {buy : Bool} {id : Nat}
    (absent : ∀ trade ∈ trades, trade.party buy ≠ id) : partyQty trades buy id = 0 := by
  apply List.sum_eq_zero
  intro shares member
  obtain ⟨trade, traded, rfl⟩ := List.mem_map.mp member
  exact if_neg (absent trade traded)

namespace OrderBook

variable {book : OrderBook}

/-- What an order on the book has left to trade on one side. -/
def openQty (book : OrderBook) (buy : Bool) (id : Nat) : Nat :=
  match book.orderAt id with
  | some order => if order.side.isBuy = buy then order.remainingQty.toNat else 0
  | none => 0

theorem openQty_le_remainingOf (book : OrderBook) (buy : Bool) (id : Nat) :
    book.openQty buy id ≤ book.remainingOf id := by
  unfold openQty remainingOf
  cases book.orderAt id with
  | none => exact le_rfl
  | some order =>
      dsimp only
      split
      · exact le_rfl
      · exact Nat.zero_le _

theorem openQty_of_side {buy : Bool} {id : Nat} {order : Order}
    (found : book.orderAt id = some order) (side : order.side.isBuy = buy) :
    book.openQty buy id = book.remainingOf id := by
  simp [openQty, remainingOf, found, side]

theorem openQty_eq_zero {buy : Bool} {id : Nat}
    (absent : ∀ order, book.orderAt id = some order → order.side.isBuy ≠ buy) :
    book.openQty buy id = 0 := by
  unfold openQty
  cases found : book.orderAt id with
  | none => rfl
  | some order => exact if_neg (absent order found)

section Accept

variable (clock : Clock) (side : Side) (type : OrderType) (price : Price) (quantity : Quantity)

/-- An order that may trade on one side in a submission: the new one, or an order
on the book. -/
def OnSide (book : OrderBook) (side : Side) (buy : Bool) (id : Nat) : Prop :=
  (id = book.nextOrderId ∧ side.isBuy = buy) ∨
    ∃ order, book.orderAt id = some order ∧ order.side.isBuy = buy

theorem onSide_of_orderAt (linked : book.Linked) (unfilled : book.Unfilled) {id : Nat}
    {order : Order}
    (found : (book.acceptOrder clock side type price quantity).1.orderAt id = some order) :
    book.OnSide side order.side.isBuy id := by
  rcases acceptOrder_terms clock side type price quantity linked unfilled found with
    ⟨older, olderFound, terms⟩ | ⟨terms, -⟩
  · exact Or.inr ⟨older, olderFound, by rw [terms.side]⟩
  · have newSide : side = order.side := terms.side
    exact Or.inl ⟨id_of_added linked unfilled found terms, by rw [newSide]⟩

theorem onSide_of_party (linked : book.Linked) (unfilled : book.Unfilled) {trade : Trade}
    (traded : trade ∈ (book.acceptOrder clock side type price quantity).2.2) (buy : Bool) :
    book.OnSide side buy (trade.party buy) := by
  obtain ⟨resting, found, opposite, -, -, -, buyer, seller⟩ :=
    acceptOrder_trade_terms clock side type price quantity linked unfilled traded
  unfold Trade.party
  rw [buyer, seller]
  cases buying : side.isBuy <;> cases buy <;> rw [buying] at opposite
  · exact Or.inl ⟨rfl, buying⟩
  · exact Or.inr ⟨resting, found, opposite⟩
  · exact Or.inr ⟨resting, found, opposite⟩
  · exact Or.inl ⟨rfl, buying⟩

theorem party_lt_of_mem (linked : book.Linked) (unfilled : book.Unfilled) {trade : Trade}
    (traded : trade ∈ (book.acceptOrder clock side type price quantity).2.2) (buy : Bool) :
    trade.party buy < book.nextOrderId + 1 := by
  rcases onSide_of_party clock side type price quantity linked unfilled traded buy with
    ⟨isNew, -⟩ | ⟨order, found, -⟩
  · omega
  · have below := linked.lt_of_orderAt found
    omega

/-- What a submission trades on one side was open there before, or is part of the
new order. -/
theorem openQty_acceptOrder (linked : book.Linked) (unfilled : book.Unfilled) (buy : Bool)
    (id : Nat) :
    (book.acceptOrder clock side type price quantity).1.openQty buy id +
        partyQty (book.acceptOrder clock side type price quantity).2.2 buy id ≤
      book.openQty buy id +
        if id = book.nextOrderId ∧ side.isBuy = buy then quantity.toNat else 0 := by
  have conserved := (acceptOrder_conserved clock side type price quantity linked unfilled).2.2.2 id
  have stillOpen := openQty_le_remainingOf
    (book.acceptOrder clock side type price quantity).1 buy id
  have traded := partyQty_le_tradedQty
    (book.acceptOrder clock side type price quantity).2.2 buy id
  by_cases onSide : book.OnSide side buy id
  · rcases onSide with ⟨isNew, newSide⟩ | ⟨order, found, sideEq⟩
    · have absent : book.remainingOf id = 0 :=
        remainingOf_of_none (linked.orderAt_none_of_le isNew.ge)
      rw [if_pos ⟨isNew, newSide⟩]
      rw [if_pos isNew, absent] at conserved
      omega
    · have older : id ≠ book.nextOrderId := (linked.lt_of_orderAt found).ne
      rw [openQty_of_side found sideEq]
      rw [if_neg older, if_neg older] at conserved
      omega
  · -- The order is on the other side, where its trades do not count.
    have closed : (book.acceptOrder clock side type price quantity).1.openQty buy id = 0 := by
      apply openQty_eq_zero
      rintro order found rfl
      exact onSide (onSide_of_orderAt clock side type price quantity linked unfilled found)
    have untraded : partyQty (book.acceptOrder clock side type price quantity).2.2 buy id = 0 := by
      apply partyQty_eq_zero
      rintro trade member rfl
      exact onSide (onSide_of_party clock side type price quantity linked unfilled member buy)
    rw [closed, untraded]
    exact Nat.zero_le _

end Accept

end OrderBook

namespace Simulation

variable {sim next : Simulation}

/-- The shares that an agent has in some trades on one side. -/
def sharesOf (owner : Nat → Option Agent) (trades : List Trade) (buy : Bool) (agent : Agent) :
    Nat :=
  (trades.map fun trade =>
    if owner (trade.party buy) = some agent then trade.quantity.toNat else 0).sum

/-- The shares that an agent has traded on one side, over the whole log. -/
def tradedShares (sim : Simulation) (buy : Bool) (agent : Agent) : Nat :=
  sharesOf sim.orderOwner sim.tradeLog buy agent

/-- The shares bought less the shares sold, over all trades with an order of the
agent. -/
def truePosition (sim : Simulation) (agent : Agent) : Int :=
  sim.tradedShares true agent - sim.tradedShares false agent

/-- The position of an agent, counted in the direction of an order. -/
def held (sim : Simulation) (buy : Bool) (agent : Agent) : Int :=
  if buy then sim.truePosition agent else -sim.truePosition agent

/-- What the orders of an agent have left to trade on one side. -/
def openShares (sim : Simulation) (buy : Bool) (agent : Agent) : Nat :=
  ∑ id ∈ Finset.range sim.book.nextOrderId,
    if sim.orderOwner id = some agent then sim.book.openQty buy id else 0

/-- What an agent holds once all its orders on one side are filled. -/
def exposure (sim : Simulation) (buy : Bool) (agent : Agent) : Int :=
  sim.held buy agent + sim.openShares buy agent

/-- What a request adds to the open orders of an agent on one side. -/
def sentShares (request : OrderRequest) (buy : Bool) (agent : Agent) : Nat :=
  if request.agent = agent ∧ request.side.isBuy = buy then request.quantity.toNat else 0

theorem held_eq (sim : Simulation) (buy : Bool) (agent : Agent) :
    sim.held buy agent = sim.tradedShares buy agent - sim.tradedShares (!buy) agent := by
  cases buy with
  | true => rfl
  | false => exact neg_sub _ _

theorem openShares_eq_zero {buy : Bool} {agent : Agent}
    (absent : ∀ id order, sim.orderOwner id = some agent → sim.book.orderAt id = some order →
      order.side.isBuy ≠ buy) : sim.openShares buy agent = 0 := by
  apply Finset.sum_eq_zero
  intro id _
  split
  · next owned => exact OrderBook.openQty_eq_zero fun order found => absent id order owned found
  · rfl

/-! ### Orders and cancels -/

/-- The trades of a submission, as shares of the agents on one side. -/
theorem tradedShares_sendOrder (issued : sim.LogIssued) {clock : Clock} {request : OrderRequest}
    (ownerEq : (sim.sendOrder clock request).1.orderOwner =
      Function.update sim.orderOwner sim.book.nextOrderId (some request.agent))
    (logEq : (sim.sendOrder clock request).1.tradeLog =
      sim.tradeLog ++ (sim.accepted clock request).2.2) (buy : Bool) (agent : Agent) :
    (sim.sendOrder clock request).1.tradedShares buy agent = sim.tradedShares buy agent +
      sharesOf (sim.sendOrder clock request).1.orderOwner (sim.accepted clock request).2.2 buy
        agent := by
  unfold tradedShares sharesOf
  rw [logEq, List.map_append, List.sum_append]
  congr 2
  apply List.map_congr_left
  intro trade logged
  have older : trade.party buy ≠ sim.book.nextOrderId := by
    obtain ⟨buyerOlder, sellerOlder⟩ := issued trade logged
    cases buy
    · exact sellerOlder.ne
    · exact buyerOlder.ne
  rw [ownerEq, Function.update_of_ne older]

/-- The open orders of an agent lose what they trade. -/
theorem openShares_sendOrder (accounted : sim.Accounted) {clock : Clock} {request : OrderRequest}
    (bookEq : (sim.sendOrder clock request).1.book = (sim.accepted clock request).1)
    (ownerEq : (sim.sendOrder clock request).1.orderOwner =
      Function.update sim.orderOwner sim.book.nextOrderId (some request.agent)) (buy : Bool)
    (agent : Agent) :
    (sim.sendOrder clock request).1.openShares buy agent +
        sharesOf (sim.sendOrder clock request).1.orderOwner (sim.accepted clock request).2.2 buy
          agent ≤
      sim.openShares buy agent + sentShares request buy agent := by
  obtain ⟨linked, unfilled⟩ := accounted.linked
  have nextEq : (sim.accepted clock request).1.nextOrderId = sim.book.nextOrderId + 1 :=
    (OrderBook.acceptOrder_conserved clock _ _ _ _ linked unfilled).2.2.1
  have issued : ∀ trade ∈ (sim.accepted clock request).2.2,
      trade.party buy ∈ Finset.range (sim.book.nextOrderId + 1) := by
    intro trade traded
    exact Finset.mem_range.mpr (OrderBook.party_lt_of_mem clock _ _ _ _ linked unfilled traded buy)
  rw [sharesOf, ListCounts.sum_selected_eq_sum_keys (fun trade : Trade => trade.party buy)
    (fun id => (sim.sendOrder clock request).1.orderOwner id = some agent)
    (fun trade => trade.quantity.toNat) (Finset.range (sim.book.nextOrderId + 1)) issued]
  unfold openShares
  rw [bookEq, nextEq, ownerEq, ← Finset.sum_add_distrib, Finset.sum_range_succ]
  have onSide := OrderBook.openQty_acceptOrder clock request.side request.type
    (effectivePrice request.side request.type request.price) request.quantity linked unfilled buy
  -- The older orders one by one, and then the new one, which had nothing open.
  refine Nat.add_le_add (Finset.sum_le_sum ?_) ?_
  · intro id member
    have older : id ≠ sim.book.nextOrderId := (Finset.mem_range.mp member).ne
    have balance := onSide id
    rw [if_neg fun isNew => older isNew.1] at balance
    rw [Function.update_of_ne older]
    split
    · exact balance
    · exact le_rfl
  · have balance := onSide sim.book.nextOrderId
    have fresh : sim.book.openQty buy sim.book.nextOrderId = 0 :=
      OrderBook.openQty_eq_zero fun _ found => absurd (linked.lt_of_orderAt found) (lt_irrefl _)
    rw [fresh] at balance
    unfold sentShares
    rw [Function.update_self]
    by_cases sender : request.agent = agent
    · simp only [sender, true_and, if_true, Nat.zero_add] at balance ⊢
      exact balance
    · simp [sender]

/-- A submission raises what its sender may hold by at most its size. -/
theorem exposure_sendOrder (accounted : sim.Accounted) (issued : sim.LogIssued) (clock : Clock)
    (request : OrderRequest) (buy : Bool) (agent : Agent) :
    (sim.sendOrder clock request).1.exposure buy agent ≤
      sim.exposure buy agent + sentShares request buy agent := by
  unfold exposure
  rw [held_eq, held_eq]
  rcases sendOrder_cases accounted clock request with
    ⟨-, bookEq, ownerEq, logEq⟩ | ⟨-, bookEq, ownerEq, logEq⟩
  · unfold tradedShares openShares
    rw [bookEq, ownerEq, logEq]
    omega
  · have gained := tradedShares_sendOrder issued ownerEq logEq buy agent
    have lost := tradedShares_sendOrder issued ownerEq logEq (!buy) agent
    have opened := openShares_sendOrder accounted bookEq ownerEq buy agent
    omega

theorem exposure_congr (same : SameAccounts sim next) (buy : Bool) (agent : Agent) :
    next.exposure buy agent = sim.exposure buy agent := by
  unfold exposure openShares book
  rw [held_eq, held_eq]
  unfold tradedShares
  rw [same.config, same.engine, same.orderOwner, same.tradeLog]

theorem exposure_sendCancel (accounted : sim.Accounted) (sender : Agent) (orderId : Nat)
    (buy : Bool) (agent : Agent) :
    (sim.sendCancel sender orderId).exposure buy agent ≤ sim.exposure buy agent := by
  obtain ⟨linked, unfilled⟩ := accounted.linked
  have closes : ∀ id, (sim.sendCancel sender orderId).book.openQty buy id ≤
      sim.book.openQty buy id := by
    intro id
    unfold OrderBook.openQty
    rw [orderAt_sendCancel accounted]
    by_cases cancelled : id = orderId
    · simp [cancelled]
    · simp [cancelled]
  have nextEq : (sim.sendCancel sender orderId).book.nextOrderId = sim.book.nextOrderId := by
    rw [book_sendCancel]
    exact (OrderBook.cancelOrder_conserved linked unfilled orderId).2.2.1
  have opened : (sim.sendCancel sender orderId).openShares buy agent ≤
      sim.openShares buy agent := by
    unfold openShares
    rw [nextEq]
    apply Finset.sum_le_sum
    intro id _
    change (if sim.orderOwner id = some agent then _ else 0) ≤ _
    split
    · exact closes id
    · exact le_rfl
  have unmoved : (sim.sendCancel sender orderId).held buy agent = sim.held buy agent := rfl
  unfold exposure
  omega

/-! ### The limits -/

/-- `max_position_` of the agents that have one. -/
def maxPosition : Agent → Option Nat
  | .marketMaker => some 1000
  | .momentumTrader => some 500
  | .noiseTrader _ => none

/-- The order of a step, if it comes from an agent with a limit, fits below the
limit as a whole. -/
def Fits (sim : Simulation) (action : SimStep) : Prop :=
  ∀ request ∈ sim.request action, ∀ limit ∈ maxPosition request.agent,
    sim.held request.side.isBuy request.agent + request.quantity.toNat ≤ limit

instance (sim : Simulation) (action : SimStep) : Decidable (sim.Fits action) :=
  inferInstanceAs (Decidable (∀ request ∈ _, ∀ limit ∈ _, _))

/-- No limit is passed even if all open orders are filled.  The momentum trader has
no open orders: it sends only market orders. -/
structure Bounded (sim : Simulation) : Prop where
  accounted : sim.Accounted
  issued : sim.LogIssued
  immediate : ∀ id, sim.orderOwner id = some .momentumTrader → sim.book.orderAt id = none
  within : ∀ buy agent, ∀ limit ∈ maxPosition agent, sim.exposure buy agent ≤ limit

namespace Bounded

theorem held_le (bounded : sim.Bounded) {agent : Agent} {limit : Nat}
    (limited : limit ∈ maxPosition agent) (buy : Bool) : sim.held buy agent ≤ limit := by
  have exposed := bounded.within buy agent limit limited
  unfold exposure at exposed
  omega

theorem congr (same : SameAccounts sim next) (bounded : sim.Bounded) : next.Bounded where
  accounted := bounded.accounted.congr same
  issued := bounded.issued.congr same
  immediate := by
    unfold book
    rw [same.orderOwner, same.engine, same.config]
    exact bounded.immediate
  within := by
    intro buy agent
    rw [exposure_congr same]
    exact bounded.within buy agent

theorem sendCancel (bounded : sim.Bounded) (agent : Agent) (orderId : Nat) :
    (sim.sendCancel agent orderId).Bounded where
  accounted := bounded.accounted.sendCancel agent orderId
  issued := bounded.issued.sendCancel bounded.accounted agent orderId
  immediate := by
    intro id owned
    rw [orderAt_sendCancel bounded.accounted, bounded.immediate id owned, ite_self]
  within := by
    intro buy other limit limited
    exact (exposure_sendCancel bounded.accounted agent orderId buy other).trans
      (bounded.within buy other limit limited)

/-- An agent with a limit sends an order that fits, on a side on which it has no
other order. -/
theorem sendOrder (bounded : sim.Bounded) (clock : Clock) {request : OrderRequest}
    (market : request.agent = .momentumTrader → request.type = .market)
    (closed : ∀ limit ∈ maxPosition request.agent,
      sim.openShares request.side.isBuy request.agent = 0)
    (fits : ∀ limit ∈ maxPosition request.agent,
      sim.held request.side.isBuy request.agent + request.quantity.toNat ≤ limit) :
    (sim.sendOrder clock request).1.Bounded where
  accounted := bounded.accounted.sendOrder clock request
  issued := bounded.issued.sendOrder bounded.accounted clock request
  immediate := by
    intro id owned
    cases found : (sim.sendOrder clock request).1.book.orderAt id with
    | none => rfl
    | some order =>
        rcases owned_sendOrder bounded.accounted clock request owned found with
          ⟨older, olderOwned, olderFound, -⟩ | ⟨sender, -, rests, -⟩
        · rw [bounded.immediate id olderOwned] at olderFound
          simp at olderFound
        · exact absurd (Or.inl (market sender)) rests
  within := by
    intro buy agent limit limited
    have raised := exposure_sendOrder bounded.accounted bounded.issued clock request buy agent
    unfold sentShares at raised
    -- With nothing else open, the order may raise the position by its size.
    by_cases sent : request.agent = agent ∧ request.side.isBuy = buy
    · obtain ⟨rfl, rfl⟩ := sent
      have below := fits limit limited
      have unopened : sim.exposure request.side.isBuy request.agent =
          sim.held request.side.isBuy request.agent := by
        rw [exposure, closed limit limited, Nat.cast_zero, add_zero]
      rw [if_pos ⟨rfl, rfl⟩, unopened] at raised
      exact raised.trans below
    · have before := bounded.within buy agent limit limited
      rw [if_neg sent] at raised
      omega

end Bounded

/-! ### The steps of a tick -/

theorem type_of_followTrend {tick : Nat} {clock : Clock} {request : OrderRequest}
    (requested : sim.request (.followTrend tick clock) = some request) :
    request.type = .market := by
  simp only [Simulation.request] at requested
  split_ifs at requested <;> cases requested <;> rfl

theorem OwnQuotes.openShares_of_cancelled (own : sim.OwnQuotes) {buy : Bool}
    (cancelled : sim.activeId buy = 0) : sim.openShares buy .marketMaker = 0 := by
  apply openShares_eq_zero
  rintro id order owned found rfl
  exact own.absent_of_cancelled owned found cancelled

end Simulation

/-- The sides on which the market maker is still going to quote in its tick. -/
def QuotePhase.pending : QuotePhase → List Bool
  | .priced => [true, false]
  | .bidQuoted => [false]
  | _ => []

namespace Simulation

variable {sim : Simulation} {config : SimulationConfig}

/-- The market maker quotes only where it has cancelled its last quote. -/
structure Quoting (phase : QuotePhase) (sim : Simulation) : Prop where
  own : sim.OwnQuotes
  cancelled : ∀ buy ∈ phase.pending, sim.activeId buy = 0

namespace Quoting

theorem other (quoting : Quoting .resting sim) {action : SimStep}
    (notMaker : action.sender ≠ .marketMaker) : Quoting .resting (sim.step action).1 := by
  rcases step_other sim notMaker with unchanged | ⟨request, other, same, forgotten⟩
  · rw [unchanged]
    exact quoting
  · have own := (quoting.own.sendOther action.clock other).congr same forgotten.activeId_eq
      forgotten.quotePrice_eq
    exact ⟨own, by simp [QuotePhase.pending]⟩

theorem step {phase later : QuotePhase} (quoting : Quoting phase sim) {action : SimStep}
    (inOrder : phase.after action = some later) : Quoting later (sim.step action).1 := by
  cases action with
  | advance tick returnPct =>
      cases phase <;> cases inOrder
      obtain ⟨same, ids, prices, -⟩ := fields_advance sim tick returnPct
      exact ⟨quoting.own.congr same ids prices, by simp [QuotePhase.pending]⟩
  | cancelQuotes noise =>
      cases phase <;> cases inOrder
      exact ⟨quoting.own.cancelQuotes noise, fun buy _ => activeId_cancelQuotes sim noise buy⟩
  | quoteBid clock =>
      cases phase <;> cases inOrder
      refine ⟨quoting.own.quote clock (quoting.cancelled true (by simp [QuotePhase.pending])), ?_⟩
      intro buy pending
      obtain rfl := List.mem_singleton.mp pending
      have unquoted := quoting.cancelled false (by simp [QuotePhase.pending])
      exact ((quoteStep_others sim true clock).1 false (by simp)).trans unquoted
  | quoteAsk clock =>
      cases phase <;> cases inOrder
      have cancelled := quoting.cancelled false (by simp [QuotePhase.pending])
      exact ⟨quoting.own.quote clock cancelled, by simp [QuotePhase.pending]⟩
  | followTrend tick clock =>
      cases phase <;> cases inOrder
      exact quoting.other (by simp [SimStep.sender])
  | noise index draws clock =>
      cases phase <;> cases inOrder
      exact quoting.other (by simp [SimStep.sender])

theorem closed {phase later : QuotePhase} (quoting : Quoting phase sim) (bounded : sim.Bounded)
    {action : SimStep} (inOrder : phase.after action = some later) {request : OrderRequest}
    (requested : sim.request action = some request) {limit : Nat}
    (limited : limit ∈ maxPosition request.agent) :
    sim.openShares request.side.isBuy request.agent = 0 := by
  have sender := agent_of_request requested
  cases action with
  | advance tick returnPct => simp [Simulation.request] at requested
  | cancelQuotes noise => simp [Simulation.request] at requested
  | quoteBid clock =>
      cases phase <;> cases inOrder
      rcases step_quoteStep sim true clock with ⟨idle, -⟩ | ⟨quotes, -⟩
      · exact absurd (idle.symm.trans requested) (by simp)
      · obtain rfl := Option.some.inj (quotes.symm.trans requested)
        exact quoting.own.openShares_of_cancelled
          (quoting.cancelled true (by simp [QuotePhase.pending]))
  | quoteAsk clock =>
      cases phase <;> cases inOrder
      rcases step_quoteStep sim false clock with ⟨idle, -⟩ | ⟨quotes, -⟩
      · exact absurd (idle.symm.trans requested) (by simp)
      · obtain rfl := Option.some.inj (quotes.symm.trans requested)
        exact quoting.own.openShares_of_cancelled
          (quoting.cancelled false (by simp [QuotePhase.pending]))
  | followTrend tick clock =>
      rw [sender]
      apply openShares_eq_zero
      intro id order owned found
      rw [bounded.immediate id owned] at found
      simp at found
  | noise index draws clock =>
      rw [sender] at limited
      simp [maxPosition, SimStep.sender] at limited

end Quoting

/-- A step in which the order of an agent with a limit fits keeps the limits. -/
theorem Bounded.step {phase later : QuotePhase} (bounded : sim.Bounded)
    (quoting : Quoting phase sim) {action : SimStep} (inOrder : phase.after action = some later)
    (fits : sim.Fits action) : (sim.step action).1.Bounded := by
  apply step_invariant (fun before same => before.congr same)
    (fun orderId before => before.sendCancel .marketMaker orderId) bounded
  intro request requested
  have market : request.agent = .momentumTrader → request.type = .market := by
    intro sender
    rw [agent_of_request requested] at sender
    cases action with
    | followTrend tick clock => exact type_of_followTrend requested
    | advance | cancelQuotes | quoteBid | quoteAsk | noise => cases sender
  exact bounded.sendOrder action.clock market
    (fun _ limited => quoting.closed bounded inOrder requested limited)
    (fits request requested)

/-! ### Whole runs -/

theorem quoting_new (config : SimulationConfig) : Quoting .resting (new config) :=
  ⟨ownQuotes_new config, by simp [QuotePhase.pending]⟩

theorem bounded_new (config : SimulationConfig) : (new config).Bounded where
  accounted := accounted_new config
  issued := logIssued_new config
  immediate := by simp [new]
  within := by
    intro buy agent limit _
    have unopened : (new config).openShares buy agent = 0 :=
      openShares_eq_zero fun id order owned => by simp [new] at owned
    have nothing : (new config).held buy agent = 0 := by
      rw [held_eq]
      simp [tradedShares, sharesOf, new]
    rw [exposure, unopened, nothing]
    omega

theorem bounded_run {inputs : Nat → TickInput} {ticks : Nat}
    (fits : Transition.Along step Fits (new config) (runSteps inputs ticks)) :
    (afterTicks config inputs ticks).Bounded := by
  have both : (afterTicks config inputs ticks).Bounded ∧
      Quoting .resting (afterTicks config inputs ticks) := by
    refine Transition.run_phased QuotePhase.after
      (fun phase sim => sim.Bounded ∧ Quoting phase sim) ?_
      ⟨bounded_new config, quoting_new config⟩ (inOrder_runSteps inputs ticks) fits
    rintro phase later sim action ⟨bounded, quoting⟩ inOrder fits
    exact ⟨bounded.step quoting inOrder fits, quoting.step inOrder⟩
  exact both.1

theorem Bounded.abs_truePosition_le (bounded : sim.Bounded) {agent : Agent} {limit : Nat}
    (limited : limit ∈ maxPosition agent) : |sim.truePosition agent| ≤ limit := by
  have long := bounded.held_le limited true
  have short := bounded.held_le limited false
  simp only [held, if_true, Bool.false_eq_true, if_false] at long short
  exact abs_le.mpr ⟨by omega, long⟩

/-- If in a run every order of the market maker and of the momentum trader fits
below the limit of its sender as a whole, both hold no more than their limits
after every tick. -/
theorem positions_within_limits (config : SimulationConfig) (inputs : Nat → TickInput)
    (fits : Transition.Along step Fits (new config) (runSteps inputs config.numTicks)) :
    ∀ ticks ≤ config.numTicks,
      |(afterTicks config inputs ticks).truePosition .marketMaker| ≤ 1000 ∧
        |(afterTicks config inputs ticks).truePosition .momentumTrader| ≤ 500 := by
  intro ticks within
  obtain ⟨rest, whole⟩ := runSteps_mono inputs within
  rw [← whole, Transition.along_append] at fits
  have bounded := bounded_run fits.1
  exact ⟨bounded.abs_truePosition_le rfl, bounded.abs_truePosition_le rfl⟩

/-- A still price, and on every tick a market order of the first noise trader to
sell, fifty shares at first and then as many as the market maker bids for. -/
def sellingNoise (tick : Nat) : TickInput where
  returnPct := 0
  makerNoise := 0
  draws := fun index =>
    ⟨if index.val = 0 then 0 else 1, 1, if tick = 0 then 5 else 10, 9 / 10, 0⟩
  clocks := fun _ _ => 0

/-- After ten ticks the market maker holds 950 shares, and each of its orders has
fitted. -/
theorem positions_within_limits_ten_ticks :
    Transition.Along step Fits (new { numTicks := 10 }) (runSteps sellingNoise 10) ∧
      (afterTicks { numTicks := 10 } sellingNoise 10).truePosition .marketMaker = 950 ∧
      |(afterTicks { numTicks := 10 } sellingNoise 10).truePosition .marketMaker| ≤ 1000 ∧
      |(afterTicks { numTicks := 10 } sellingNoise 10).truePosition .momentumTrader| ≤ 500 := by
  have fits : Transition.Along step Fits (new { numTicks := 10 }) (runSteps sellingNoise 10) := by
    decide +kernel
  have position :
      (afterTicks { numTicks := 10 } sellingNoise 10).truePosition .marketMaker = 950 := by
    decide +kernel
  exact ⟨fits, position, positions_within_limits { numTicks := 10 } sellingNoise fits 10 le_rfl⟩

/-- With 950 shares the market maker still bids for a hundred. -/
theorem market_maker_passes_limit :
    (afterTicks { numTicks := 20 } sellingNoise 11).truePosition .marketMaker = 1050 ∧
      ¬∀ ticks ≤ 20,
        |(afterTicks { numTicks := 20 } sellingNoise ticks).truePosition .marketMaker| ≤ 1000 ∧
          |(afterTicks { numTicks := 20 } sellingNoise ticks).truePosition .momentumTrader| ≤
            500 := by
  have position :
      (afterTicks { numTicks := 20 } sellingNoise 11).truePosition .marketMaker = 1050 := by
    decide +kernel
  refine ⟨position, fun limited => ?_⟩
  have within := (limited 11 (by decide)).1
  rw [position] at within
  exact absurd within (by decide)

end Simulation

end OrderBookExchange
