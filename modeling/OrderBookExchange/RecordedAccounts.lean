import OrderBookExchange.PositionLimits
import OrderBookExchange.RiskChecker

/-!
# What the agents record

An agent learns of a trade from the trade callback, which looks up the owners of
both orders while the submission that trades is still running.  The submitted
order is registered afterwards, so the callback finds the owner of the order on
the book and of no other.  What an agent has recorded, its fills, its position
and its cash, is the sum over the trades in which its order was the resting one,
the older of the two.

The momentum trader sends only market orders, and these never rest.  It is never
told of a fill, and compares its limit with a position that stays zero.  The
market maker's quotes rest.  It stops to quote on a side once its recorded
position is at the limit, so what it records goes past the limit by less than one
quote.
-/

namespace OrderBookExchange

namespace Trade

/-- The side of the resting order of a trade, which is the older one. -/
def restingSide (trade : Trade) : Side :=
  if trade.buyOrderId < trade.sellOrderId then .buy else .sell

theorem restingSide_cases (trade : Trade) :
    trade.restingSide = .buy ∨ trade.restingSide = .sell := by
  unfold restingSide
  split
  · exact Or.inl rfl
  · exact Or.inr rfl

def restingId (trade : Trade) : Nat :=
  trade.party trade.restingSide.isBuy

def incomingId (trade : Trade) : Nat :=
  trade.party !trade.restingSide.isBuy

theorem restingId_of_older {trade : Trade} {side : Side} {older newer : Nat}
    (age : older < newer)
    (buyer : trade.buyOrderId = if side.isBuy then newer else older)
    (seller : trade.sellOrderId = if side.isBuy then older else newer) :
    trade.restingId = older ∧ trade.incomingId = newer := by
  unfold restingId incomingId restingSide party
  rw [buyer, seller]
  cases side.isBuy with
  | true =>
      rw [if_pos rfl, if_pos rfl, if_neg (Nat.not_lt_of_lt age)]
      exact ⟨rfl, rfl⟩
  | false =>
      rw [if_neg Bool.false_ne_true, if_neg Bool.false_ne_true, if_pos age]
      exact ⟨rfl, rfl⟩

end Trade

/-- What an agent records of its fills. -/
structure Account where
  fills : Nat := 0
  position : Int := 0
  cash : Double := .finite 100000

namespace Account

def fill (account : Account) (side : Side) (price : Price) (quantity : Quantity) : Account where
  fills := account.fills + 1
  position := account.position + signedQuantity side quantity
  cash :=
    if side.isBuy then account.cash.sub (orderNotional price quantity)
    else account.cash.add (orderNotional price quantity)

/-- The resting order of a trade is filled. -/
def credit (account : Account) (trade : Trade) : Account :=
  account.fill trade.restingSide trade.price trade.quantity

/-- The position of an account, counted in the direction of an order. -/
def held (account : Account) (buy : Bool) : Int :=
  if buy then account.position else -account.position

end Account

def TraderStats.account (stats : TraderStats) : Account where
  fills := stats.fillsReceived
  position := stats.position
  cash := stats.cash

namespace Simulation

variable {sim next : Simulation}

/-- The trades in which an order of an agent was the resting one. -/
def restingLegs (owner : Nat → Option Agent) (trades : List Trade) (agent : Agent) : List Trade :=
  trades.filter fun trade => owner trade.restingId = some agent

/-- The logged trades in which an order of an agent was the resting one. -/
def restingTrades (sim : Simulation) (agent : Agent) : List Trade :=
  restingLegs sim.orderOwner sim.tradeLog agent

/-! ### The trade callback -/

theorem account_withStats (sim : Simulation) (filled : Agent) {stats : TraderStats}
    (sameAccount : stats.account = (sim.stats filled).account) (agent : Agent) :
    ((sim.withStats filled stats).stats agent).account = (sim.stats agent).account := by
  unfold withStats
  dsimp only
  by_cases same : agent = filled
  · rw [same, Function.update_self]
    exact sameAccount
  · rw [Function.update_of_ne same]

theorem account_onFill (sim : Simulation) (filled : Agent) (side : Side) (price : Price)
    (quantity : Quantity) (agent : Agent) :
    ((sim.onFill filled side price quantity).stats agent).account =
      if filled = agent then (sim.stats agent).account.fill side price quantity
      else (sim.stats agent).account := by
  unfold onFill withStats
  dsimp only
  by_cases same : filled = agent
  · subst same
    rw [if_pos rfl, Function.update_self]
    cases side <;> rfl
  · rw [if_neg same, Function.update_of_ne (Ne.symm same)]

theorem account_routeFill (sim : Simulation) (orderId : Nat) (side : Side) (trade : Trade)
    (agent : Agent) :
    ((sim.routeFill orderId side trade).stats agent).account =
      if sim.orderOwner orderId = some agent then
        (sim.stats agent).account.fill side trade.price trade.quantity
      else (sim.stats agent).account := by
  unfold routeFill
  cases sim.orderOwner orderId with
  | none => simp
  | some owner =>
      rw [account_onFill]
      simp only [Option.some.injEq]

/-- While the owner of the incoming order is not known, a trade is told to the owner
of the resting one. -/
theorem account_tradeCallback {trade : Trade} (unknown : sim.orderOwner trade.incomingId = none)
    (agent : Agent) :
    ((sim.tradeCallback trade).stats agent).account =
      if sim.orderOwner trade.restingId = some agent then (sim.stats agent).account.credit trade
      else (sim.stats agent).account := by
  have routed : ((sim.tradeCallback trade).stats agent).account =
      ((({ sim with tradeLog := sim.tradeLog ++ [trade] }.routeFill trade.buyOrderId .buy
        trade).routeFill trade.sellOrderId .sell trade).stats agent).account := rfl
  rw [routed, account_routeFill, orderOwner_routeFill, account_routeFill]
  unfold Trade.incomingId Trade.party at unknown
  unfold Account.credit Trade.restingId Trade.party
  rcases trade.restingSide_cases with resting | resting
  · rw [resting] at unknown ⊢
    change sim.orderOwner trade.sellOrderId = none at unknown
    simp [unknown, Side.isBuy]
  · rw [resting] at unknown ⊢
    change sim.orderOwner trade.buyOrderId = none at unknown
    simp [unknown, Side.isBuy]

theorem account_foldl_tradeCallback {trades : List Trade}
    (unknown : ∀ trade ∈ trades, sim.orderOwner trade.incomingId = none) (agent : Agent) :
    ((trades.foldl tradeCallback sim).stats agent).account =
      (restingLegs sim.orderOwner trades agent).foldl Account.credit
        (sim.stats agent).account := by
  induction trades generalizing sim with
  | nil => rfl
  | cons trade trades induction =>
      have owners := (fields_tradeCallback sim trade).2.2.1
      have first := account_tradeCallback (unknown trade List.mem_cons_self) agent
      have later : ∀ other ∈ trades,
          (sim.tradeCallback trade).orderOwner other.incomingId = none := by
        intro other member
        rw [owners]
        exact unknown other (List.mem_cons_of_mem _ member)
      rw [List.foldl_cons, induction later, owners, first]
      unfold restingLegs
      by_cases owned : sim.orderOwner trade.restingId = some agent
      · rw [if_pos owned, List.filter_cons_of_pos (by simpa using owned), List.foldl_cons]
      · rw [if_neg owned, List.filter_cons_of_neg (by simpa using owned)]

/-! ### Orders and cancels -/

/-- A trade of a submission is between an order on the book and the new one. -/
theorem resting_of_mem_submission (accounted : sim.Accounted) (clock : Clock)
    (request : OrderRequest) {trade : Trade}
    (traded : trade ∈ (sim.submission clock request).2.2) :
    trade.incomingId = sim.book.nextOrderId ∧
      ∃ resting, sim.book.orderAt trade.restingId = some resting := by
  obtain ⟨linked, unfilled⟩ := accounted.linked
  unfold submission at traded
  by_cases rejected : rejects request.type request.price request.quantity = true
  · simp [MatchingEngine.submitOrder, rejected] at traded
  · rw [MatchingEngine.submitOrder_result _ _ _ _ rejected] at traded
    obtain ⟨resting, found, -, older, -, -, buyer, seller⟩ :=
      OrderBook.acceptOrder_trade_terms clock _ _ _ _ linked unfilled traded
    obtain ⟨restingEq, incomingEq⟩ := Trade.restingId_of_older older buyer seller
    rw [restingEq]
    exact ⟨incomingEq, resting, found⟩

theorem orderOwner_sendOrder (accounted : sim.Accounted) (clock : Clock)
    (request : OrderRequest) {id : Nat} (older : id < sim.book.nextOrderId) :
    (sim.sendOrder clock request).1.orderOwner id = sim.orderOwner id := by
  rcases sendOrder_cases accounted clock request with ⟨-, -, ownerEq, -⟩ | ⟨-, -, ownerEq, -⟩
  · rw [ownerEq]
  · rw [ownerEq, Function.update_of_ne older.ne]

theorem restingLegs_congr {owner other : Nat → Option Agent} {trades : List Trade}
    (agree : ∀ trade ∈ trades, other trade.restingId = owner trade.restingId) (agent : Agent) :
    restingLegs other trades agent = restingLegs owner trades agent := by
  apply List.filter_congr
  intro trade member
  rw [agree trade member]

/-- What a submission adds to the accounts. -/
theorem account_sendOrder (accounted : sim.Accounted) (clock : Clock) (request : OrderRequest)
    (agent : Agent) :
    ((sim.sendOrder clock request).1.stats agent).account =
      (restingLegs (sim.sendOrder clock request).1.orderOwner (sim.submission clock request).2.2
        agent).foldl Account.credit (sim.stats agent).account := by
  obtain ⟨linked, -⟩ := accounted.linked
  have unknown : ∀ trade ∈ (sim.submission clock request).2.2,
      (sim.submitted clock request).orderOwner trade.incomingId = none := by
    intro trade traded
    rw [(resting_of_mem_submission accounted clock request traded).1]
    by_contra known
    exact absurd ((accounted.registered _).mp known).2 (lt_irrefl _)
  have agree : ∀ trade ∈ (sim.submission clock request).2.2,
      (sim.sendOrder clock request).1.orderOwner trade.restingId =
        (sim.submitted clock request).orderOwner trade.restingId := by
    intro trade traded
    obtain ⟨-, resting, found⟩ := resting_of_mem_submission accounted clock request traded
    exact orderOwner_sendOrder accounted clock request (linked.lt_of_orderAt found)
  have counted : ((sim.submitted clock request).stats agent).account =
      (sim.stats agent).account := by
    apply account_withStats sim request.agent
    rfl
  rw [restingLegs_congr agree, ← counted, ← account_foldl_tradeCallback unknown agent,
    sendOrder_eq]

theorem account_sendCancel (sim : Simulation) (sender : Agent) (orderId : Nat) (agent : Agent) :
    ((sim.sendCancel sender orderId).stats agent).account = (sim.stats agent).account := by
  apply account_withStats sim sender
  rfl

/-! ### The accounts of a run -/

/-- Every account is the sum over the trades in which an order of the agent was the
resting one.  The momentum trader has no such orders. -/
structure Recorded (sim : Simulation) : Prop where
  accounted : sim.Accounted
  issued : sim.LogIssued
  owned : ∀ trade ∈ sim.tradeLog, sim.orderOwner trade.restingId ≠ none
  credited : ∀ agent,
    (sim.stats agent).account = (sim.restingTrades agent).foldl Account.credit {}
  immediate : ∀ id, sim.orderOwner id = some .momentumTrader → sim.book.orderAt id = none
  untold : sim.restingTrades .momentumTrader = []

theorem LogIssued.restingId_lt (issued : sim.LogIssued) {trade : Trade}
    (logged : trade ∈ sim.tradeLog) : trade.restingId < sim.book.nextOrderId := by
  obtain ⟨buyerOlder, sellerOlder⟩ := issued trade logged
  unfold Trade.restingId Trade.party
  split
  · exact buyerOlder
  · exact sellerOlder

/-- The trades of a submission follow those of the log. -/
theorem restingTrades_sendOrder (accounted : sim.Accounted) (issued : sim.LogIssued)
    (clock : Clock) (request : OrderRequest) (agent : Agent) :
    (sim.sendOrder clock request).1.restingTrades agent =
      sim.restingTrades agent ++ restingLegs (sim.sendOrder clock request).1.orderOwner
        (sim.submission clock request).2.2 agent := by
  have earlier : restingLegs (sim.sendOrder clock request).1.orderOwner sim.tradeLog agent =
      sim.restingTrades agent := by
    apply restingLegs_congr
    intro trade logged
    exact orderOwner_sendOrder accounted clock request (issued.restingId_lt logged)
  rw [restingTrades, (fields_sendOrder sim clock request).2.2.1, ← earlier]
  exact List.filter_append _ _

namespace Recorded

theorem new (config : SimulationConfig) : (Simulation.new config).Recorded where
  accounted := accounted_new config
  issued := logIssued_new config
  owned := by simp [Simulation.new]
  credited := fun _ => rfl
  immediate := by simp [Simulation.new]
  untold := rfl

theorem congr (recorded : sim.Recorded) (same : SameAccounts sim next) : next.Recorded where
  accounted := recorded.accounted.congr same
  issued := recorded.issued.congr same
  owned := by
    rw [same.tradeLog, same.orderOwner]
    exact recorded.owned
  credited := by
    intro agent
    rw [restingTrades, same.stats, same.orderOwner, same.tradeLog]
    exact recorded.credited agent
  immediate := by
    unfold book
    rw [same.orderOwner, same.engine, same.config]
    exact recorded.immediate
  untold := by
    rw [restingTrades, same.orderOwner, same.tradeLog]
    exact recorded.untold

theorem sendCancel (recorded : sim.Recorded) (sender : Agent) (orderId : Nat) :
    (sim.sendCancel sender orderId).Recorded where
  accounted := recorded.accounted.sendCancel sender orderId
  issued := recorded.issued.sendCancel recorded.accounted sender orderId
  owned := recorded.owned
  credited := by
    intro agent
    rw [account_sendCancel]
    exact recorded.credited agent
  immediate := by
    intro id owned
    rw [orderAt_sendCancel recorded.accounted, recorded.immediate id owned, ite_self]
  untold := recorded.untold

theorem sendOrder (recorded : sim.Recorded) (clock : Clock) {request : OrderRequest}
    (market : request.agent = .momentumTrader → request.type = .market) :
    (sim.sendOrder clock request).1.Recorded where
  accounted := recorded.accounted.sendOrder clock request
  issued := recorded.issued.sendOrder recorded.accounted clock request
  owned := by
    obtain ⟨linked, -⟩ := recorded.accounted.linked
    intro trade logged
    rw [(fields_sendOrder sim clock request).2.2.1] at logged
    rcases List.mem_append.mp logged with earlier | traded
    · rw [orderOwner_sendOrder recorded.accounted clock request
        (recorded.issued.restingId_lt earlier)]
      exact recorded.owned trade earlier
    · obtain ⟨-, resting, found⟩ :=
        resting_of_mem_submission recorded.accounted clock request traded
      have older := linked.lt_of_orderAt found
      rw [orderOwner_sendOrder recorded.accounted clock request older]
      apply (recorded.accounted.registered _).mpr
      refine ⟨?_, older⟩
      rw [← linked.id_of_orderAt found]
      exact recorded.accounted.numbered.resting.all sim.config.symbol _ resting found
  credited := by
    intro agent
    rw [account_sendOrder recorded.accounted, recorded.credited agent,
      restingTrades_sendOrder recorded.accounted recorded.issued, List.foldl_append]
  immediate := by
    intro id owned
    cases found : (sim.sendOrder clock request).1.book.orderAt id with
    | none => rfl
    | some order =>
        rcases owned_sendOrder recorded.accounted clock request owned found with
          ⟨older, olderOwned, olderFound, -⟩ | ⟨sender, -, rests, -⟩
        · rw [recorded.immediate id olderOwned] at olderFound
          cases olderFound
        · exact absurd (Or.inl (market sender)) rests
  untold := by
    obtain ⟨linked, -⟩ := recorded.accounted.linked
    rw [restingTrades_sendOrder recorded.accounted recorded.issued, recorded.untold,
      List.nil_append]
    apply List.filter_eq_nil_iff.mpr
    intro trade traded owned
    obtain ⟨-, resting, found⟩ :=
      resting_of_mem_submission recorded.accounted clock request traded
    rw [orderOwner_sendOrder recorded.accounted clock request (linked.lt_of_orderAt found),
      decide_eq_true_eq] at owned
    rw [recorded.immediate _ owned] at found
    cases found

end Recorded

theorem type_of_momentumTrader {action : SimStep} {request : OrderRequest}
    (requested : sim.request action = some request) (sender : request.agent = .momentumTrader) :
    request.type = .market := by
  rw [agent_of_request requested] at sender
  cases action with
  | followTrend tick clock => exact type_of_followTrend requested
  | advance | cancelQuotes | quoteBid | quoteAsk | noise => cases sender

theorem Recorded.step (recorded : sim.Recorded) (action : SimStep) :
    (sim.step action).1.Recorded := by
  apply step_invariant (fun before same => before.congr same)
    (fun orderId before => before.sendCancel .marketMaker orderId) recorded
  intro request requested
  exact recorded.sendOrder action.clock (type_of_momentumTrader requested)

/-- In every run the fills, the position and the cash that an agent has recorded are
those of the trades in which its order was the resting one.  Each logged trade is one
of these for some agent, and none of them for the momentum trader. -/
theorem accounts_are_of_resting_orders (config : SimulationConfig) (actions : List SimStep) :
    let sim := (Transition.run step (new config) actions).1
    (∀ agent, (sim.stats agent).account = (sim.restingTrades agent).foldl Account.credit {}) ∧
      (∀ trade ∈ sim.tradeLog, ∃ agent, trade ∈ sim.restingTrades agent) ∧
      sim.restingTrades .momentumTrader = [] := by
  intro sim
  have recorded : sim.Recorded :=
    Transition.run_of_preserved Recorded (fun _ action before => before.step action)
      (Recorded.new config) actions
  refine ⟨recorded.credited, ?_, recorded.untold⟩
  intro trade logged
  obtain ⟨agent, owner⟩ := Option.ne_none_iff_exists'.mp (recorded.owned trade logged)
  refine ⟨agent, List.mem_filter.mpr ⟨logged, ?_⟩⟩
  rw [owner, decide_eq_true_eq]

/-! ### The market maker's inventory -/

theorem held_credit (account : Account) (trade : Trade) (buy : Bool) :
    (account.credit trade).held buy = account.held buy +
      if trade.restingSide.isBuy = buy then (trade.quantity.toNat : Int)
      else -trade.quantity.toNat := by
  unfold Account.credit Account.fill Account.held signedQuantity
  cases trade.restingSide.isBuy <;> cases buy <;> simp <;> omega

/-- An account moves in the direction of an order by at most the shares that the
agent trades on that side. -/
theorem held_foldl_credit (owner : Nat → Option Agent) (trades : List Trade) (agent : Agent)
    (buy : Bool) (account : Account) :
    ((restingLegs owner trades agent).foldl Account.credit account).held buy ≤
      account.held buy + sharesOf owner trades buy agent := by
  induction trades generalizing account with
  | nil => simp [restingLegs, sharesOf]
  | cons trade trades induction =>
      have shares : sharesOf owner (trade :: trades) buy agent =
          (if owner (trade.party buy) = some agent then trade.quantity.toNat else 0) +
            sharesOf owner trades buy agent := List.sum_cons
      by_cases owned : owner trade.restingId = some agent
      · have legs : restingLegs owner (trade :: trades) agent =
            trade :: restingLegs owner trades agent :=
          List.filter_cons_of_pos (by simpa using owned)
        have later := induction (account.credit trade)
        rw [held_credit] at later
        rw [legs, List.foldl_cons, shares]
        by_cases onSide : trade.restingSide.isBuy = buy
        · have party : owner (trade.party buy) = some agent := onSide ▸ owned
          rw [if_pos onSide] at later
          rw [if_pos party]
          omega
        · rw [if_neg onSide] at later
          omega
      · have legs : restingLegs owner (trade :: trades) agent = restingLegs owner trades agent :=
          List.filter_cons_of_neg (by simpa using owned)
        have later := induction account
        rw [legs, shares]
        omega

/-- What the market maker has recorded once all its quotes on one side are filled. -/
def recordedExposure (sim : Simulation) (buy : Bool) : Int :=
  (sim.stats .marketMaker).account.held buy + sim.openShares buy .marketMaker

theorem recordedExposure_congr (same : SameAccounts sim next) (buy : Bool) :
    next.recordedExposure buy = sim.recordedExposure buy := by
  unfold recordedExposure openShares book
  rw [same.stats, same.config, same.engine, same.orderOwner]

theorem recordedExposure_sendCancel (accounted : sim.Accounted) (sender : Agent) (orderId : Nat)
    (buy : Bool) :
    (sim.sendCancel sender orderId).recordedExposure buy ≤ sim.recordedExposure buy := by
  have lowered := exposure_sendCancel accounted sender orderId buy .marketMaker
  have unmoved : (sim.sendCancel sender orderId).held buy .marketMaker =
      sim.held buy .marketMaker := rfl
  unfold exposure at lowered
  unfold recordedExposure
  rw [account_sendCancel]
  omega

theorem recordedExposure_sendOrder (accounted : sim.Accounted) (clock : Clock)
    (request : OrderRequest) (buy : Bool) :
    (sim.sendOrder clock request).1.recordedExposure buy ≤
      sim.recordedExposure buy + sentShares request buy .marketMaker := by
  have recorded := held_foldl_credit (sim.sendOrder clock request).1.orderOwner
    (sim.submission clock request).2.2 .marketMaker buy (sim.stats .marketMaker).account
  rw [← account_sendOrder accounted] at recorded
  have logged := (fields_sendOrder sim clock request).2.2.1
  unfold recordedExposure
  rcases sendOrder_cases accounted clock request with
    ⟨-, bookEq, ownerEq, logEq⟩ | ⟨-, bookEq, ownerEq, logEq⟩
  · have untraded : (sim.submission clock request).2.2 = [] :=
      List.append_right_eq_self.mp (logged.symm.trans logEq)
    rw [untraded] at recorded
    have shares : sharesOf (sim.sendOrder clock request).1.orderOwner [] buy .marketMaker = 0 := rfl
    have unopened : (sim.sendOrder clock request).1.openShares buy .marketMaker =
        sim.openShares buy .marketMaker := by
      unfold openShares
      rw [bookEq, ownerEq]
    omega
  · have traded : (sim.submission clock request).2.2 = (sim.accepted clock request).2.2 :=
      List.append_cancel_left (logged.symm.trans logEq)
    rw [traded] at recorded
    have opened := openShares_sendOrder accounted bookEq ownerEq buy .marketMaker
    omega

theorem openShares_new (config : SimulationConfig) (buy : Bool) (agent : Agent) :
    (new config).openShares buy agent = 0 := by
  apply openShares_eq_zero
  intro id order owned
  cases owned

/-- The recorded position and the quotes together stay within one quote of the
limit. -/
structure Stocked (sim : Simulation) : Prop where
  accounted : sim.Accounted
  within : ∀ buy, sim.recordedExposure buy ≤ 1099

namespace Stocked

theorem new (config : SimulationConfig) : (Simulation.new config).Stocked where
  accounted := accounted_new config
  within := by
    intro buy
    have nothing : ((Simulation.new config).stats .marketMaker).account.held buy = 0 := by
      cases buy <;> rfl
    rw [recordedExposure, openShares_new, nothing]
    omega

theorem congr (stocked : sim.Stocked) (same : SameAccounts sim next) : next.Stocked where
  accounted := stocked.accounted.congr same
  within := by
    intro buy
    rw [recordedExposure_congr same]
    exact stocked.within buy

theorem sendCancel (stocked : sim.Stocked) (sender : Agent) (orderId : Nat) :
    (sim.sendCancel sender orderId).Stocked where
  accounted := stocked.accounted.sendCancel sender orderId
  within := by
    intro buy
    exact (recordedExposure_sendCancel stocked.accounted sender orderId buy).trans
      (stocked.within buy)

/-- The market maker sends a quote of a hundred shares below its limit, on a side on
which it has no other. -/
theorem sendOrder (stocked : sim.Stocked) (clock : Clock) {request : OrderRequest}
    (below : request.agent = .marketMaker → request.quantity = 100 ∧
      (sim.stats .marketMaker).account.held request.side.isBuy < 1000 ∧
      sim.openShares request.side.isBuy .marketMaker = 0) :
    (sim.sendOrder clock request).1.Stocked where
  accounted := stocked.accounted.sendOrder clock request
  within := by
    intro buy
    have raised := recordedExposure_sendOrder stocked.accounted clock request buy
    unfold sentShares at raised
    by_cases sent : request.agent = .marketMaker ∧ request.side.isBuy = buy
    · obtain ⟨sender, rfl⟩ := sent
      obtain ⟨hundred, inside, closed⟩ := below sender
      have size : request.quantity.toNat = 100 := by rw [hundred]; rfl
      have unquoted : sim.recordedExposure request.side.isBuy =
          (sim.stats .marketMaker).account.held request.side.isBuy := by
        rw [recordedExposure, closed, Nat.cast_zero, add_zero]
      rw [if_pos ⟨sender, rfl⟩, unquoted, size] at raised
      omega
    · have before := stocked.within buy
      rw [if_neg sent] at raised
      omega

theorem step {phase later : QuotePhase} (stocked : sim.Stocked) (quoting : Quoting phase sim)
    {action : SimStep} (inOrder : phase.after action = some later) :
    (sim.step action).1.Stocked := by
  apply step_invariant (fun before same => before.congr same)
    (fun orderId before => before.sendCancel .marketMaker orderId) stocked
  intro request requested
  apply stocked.sendOrder
  intro sender
  rw [agent_of_request requested] at sender
  cases action with
  | advance tick returnPct => cases requested
  | cancelQuotes noise => cases requested
  | quoteBid clock =>
      cases phase <;> cases inOrder
      simp only [Simulation.request, Option.ite_none_right_eq_some, Option.some.injEq] at requested
      obtain ⟨below, rfl⟩ := requested
      exact ⟨rfl, below, quoting.own.openShares_of_cancelled
        (quoting.cancelled true (by simp [QuotePhase.pending]))⟩
  | quoteAsk clock =>
      cases phase <;> cases inOrder
      simp only [Simulation.request, Option.ite_none_right_eq_some, Option.some.injEq] at requested
      obtain ⟨above, rfl⟩ := requested
      have short : (sim.stats .marketMaker).account.held false < 1000 := by
        change -(sim.stats .marketMaker).position < 1000
        omega
      exact ⟨rfl, short, quoting.own.openShares_of_cancelled
        (quoting.cancelled false (by simp [QuotePhase.pending]))⟩
  | followTrend | noise => cases sender

theorem abs_position_le (stocked : sim.Stocked) :
    |(sim.stats .marketMaker).position| ≤ 1099 := by
  have long : (sim.stats .marketMaker).position + sim.openShares true .marketMaker ≤ 1099 :=
    stocked.within true
  have short : -(sim.stats .marketMaker).position + sim.openShares false .marketMaker ≤ 1099 :=
    stocked.within false
  apply abs_le.mpr
  constructor
  · omega
  · omega

end Stocked

/-- At every point of a run, within a tick and between two, the market maker's recorded
position is less than one quote past its limit. -/
theorem recorded_inventory_bounded (config : SimulationConfig) (inputs : Nat → TickInput)
    (ticks steps : Nat) :
    |((Transition.run step (new config) ((runSteps inputs ticks).take steps)).1.stats
      .marketMaker).position| ≤ 1099 := by
  -- The steps taken end in some phase of the market maker's tick.
  have inOrder := inOrder_runSteps inputs ticks
  rw [← List.take_append_drop steps (runSteps inputs ticks), List.foldlM_append] at inOrder
  obtain ⟨phase, reached, -⟩ := Option.bind_eq_some_iff.mp inOrder
  have both := Transition.run_phased QuotePhase.after
    (fun phase (sim : Simulation) => sim.Stocked ∧ Quoting phase sim)
    (fun _ _ _ _ before inOrder _ =>
      ⟨before.1.step before.2 inOrder, before.2.step inOrder⟩)
    ⟨Stocked.new config, quoting_new config⟩ reached
    (Transition.along_of_forall (fun _ _ => trivial) (new config))
  exact both.1.abs_position_le

end Simulation

end OrderBookExchange
