import OrderBookExchange.RollingWindow
import OrderBookExchange.SimulationReport

/-!
# The momentum trader

The momentum trader compares the latest price with the average of a window.  The
window is fed by the trade callback, and once by the tick loop with the price of
the first tick, so it is the end of the trade log with that price in front.

What limits the trader is the time between two of its orders and not its limit on
the position, which it compares with a position that stays zero.  In a run it
sends an order in every fifth tick at most, and may hold fifty shares for each.
-/

namespace OrderBookExchange

namespace Simulation

variable {sim next : Simulation}

/-! ### The window -/

theorem priceHistory_tradeCallback (sim : Simulation) (trade : Trade) :
    (sim.tradeCallback trade).priceHistory =
        RollingWindow.push windowSize sim.priceHistory trade.price ∧
      (sim.tradeCallback trade).lastTradeTick = sim.lastTradeTick := by
  have routed : ∀ (before : Simulation) (orderId : Nat) (side : Side),
      (before.routeFill orderId side trade).priceHistory = before.priceHistory ∧
        (before.routeFill orderId side trade).lastTradeTick = before.lastTradeTick := by
    intro before orderId side
    unfold routeFill
    split <;> exact ⟨rfl, rfl⟩
  unfold tradeCallback updatePrice RollingWindow.push
  dsimp only
  rw [(routed _ trade.sellOrderId .sell).1, (routed _ trade.buyOrderId .buy).1,
    (routed _ trade.sellOrderId .sell).2, (routed _ trade.buyOrderId .buy).2]
  exact ⟨rfl, rfl⟩

theorem priceHistory_foldl_tradeCallback (sim : Simulation) (trades : List Trade) :
    (trades.foldl tradeCallback sim).priceHistory =
        (trades.map Trade.price).foldl (RollingWindow.push windowSize) sim.priceHistory ∧
      (trades.foldl tradeCallback sim).lastTradeTick = sim.lastTradeTick := by
  induction trades generalizing sim with
  | nil => exact ⟨rfl, rfl⟩
  | cons trade trades induction =>
      obtain ⟨historyEq, tickEq⟩ := priceHistory_tradeCallback sim trade
      obtain ⟨laterHistory, laterTick⟩ := induction (sim.tradeCallback trade)
      rw [List.foldl_cons, List.map_cons, List.foldl_cons, laterHistory, historyEq]
      exact ⟨rfl, laterTick.trans tickEq⟩

/-- The trades of a submission enter the window in their order. -/
theorem priceHistory_sendOrder (sim : Simulation) (clock : Clock) (request : OrderRequest) :
    (sim.sendOrder clock request).1.priceHistory =
        ((sim.submission clock request).2.2.map Trade.price).foldl
          (RollingWindow.push windowSize) sim.priceHistory ∧
      (sim.sendOrder clock request).1.lastTradeTick = sim.lastTradeTick := by
  rw [sendOrder_eq]
  exact priceHistory_foldl_tradeCallback (sim.submitted clock request) _

theorem priceHistory_cancelQuotes (sim : Simulation) (noise : ℚ) :
    (sim.cancelQuotes noise).priceHistory = sim.priceHistory ∧
      (sim.cancelQuotes noise).lastTradeTick = sim.lastTradeTick ∧
      (sim.cancelQuotes noise).tradeLog = sim.tradeLog := by
  have bidCancelled : sim.cancelBid.priceHistory = sim.priceHistory ∧
      sim.cancelBid.lastTradeTick = sim.lastTradeTick ∧
      sim.cancelBid.tradeLog = sim.tradeLog := by
    unfold cancelBid
    split <;> exact ⟨rfl, rfl, rfl⟩
  have askCancelled : sim.cancelBid.cancelAsk.priceHistory = sim.cancelBid.priceHistory ∧
      sim.cancelBid.cancelAsk.lastTradeTick = sim.cancelBid.lastTradeTick ∧
      sim.cancelBid.cancelAsk.tradeLog = sim.cancelBid.tradeLog := by
    unfold cancelAsk
    split <;> exact ⟨rfl, rfl, rfl⟩
  exact ⟨askCancelled.1.trans bidCancelled.1, askCancelled.2.1.trans bidCancelled.2.1,
    askCancelled.2.2.trans bidCancelled.2.2⟩

end Simulation

/-- The step of a run that tells the momentum trader the reference price. -/
def SimStep.Opens : SimStep → Prop
  | .advance tick _ => tick = 0
  | _ => False

/-- A bound on the tick in which the momentum trader acts. -/
def SimStep.Before (bound : Nat) : SimStep → Prop
  | .followTrend tick _ => tick ≤ bound
  | _ => True

/-- The momentum trader acts within five ticks. -/
def SimStep.Within (first : Nat) : SimStep → Prop
  | .followTrend tick _ => first ≤ tick ∧ tick < first + 5
  | _ => True

namespace Simulation

variable {sim next : Simulation}

/-- The window is the end of the log, with some earlier prices in front of it. -/
def Windowed (opening : List Double) (sim : Simulation) : Prop :=
  sim.priceHistory = (opening ++ sim.tradeLog.map Trade.price).rtake windowSize

theorem Windowed.prepare {opening : List Double} (windowed : sim.Windowed opening)
    {action : SimStep} (later : ¬action.Opens) : (sim.prepare action).Windowed opening := by
  cases action with
  | advance tick returnPct =>
      have laterTick : tick ≠ 0 := later
      change (sim.advance tick returnPct).Windowed opening
      unfold Simulation.advance
      dsimp only
      rw [if_neg laterTick]
      exact windowed
  | cancelQuotes noise =>
      obtain ⟨historyEq, -, logEq⟩ := priceHistory_cancelQuotes sim noise
      change (sim.cancelQuotes noise).priceHistory = _
      change _ = (opening ++ (sim.cancelQuotes noise).tradeLog.map Trade.price).rtake windowSize
      rw [historyEq, logEq]
      exact windowed
  | quoteBid | quoteAsk | followTrend | noise => exact windowed

theorem Windowed.sendOrder {opening : List Double} (windowed : sim.Windowed opening)
    (clock : Clock) (request : OrderRequest) :
    (sim.sendOrder clock request).1.Windowed opening := by
  unfold Windowed at *
  rw [(priceHistory_sendOrder sim clock request).1, (fields_sendOrder sim clock request).2.2.1,
    windowed, RollingWindow.foldl_push, List.map_append, List.append_assoc]

theorem Windowed.step {opening : List Double} (windowed : sim.Windowed opening)
    {action : SimStep} (later : ¬action.Opens) : (sim.step action).1.Windowed opening := by
  cases requested : sim.request action with
  | none =>
      rw [step_of_none requested]
      exact windowed.prepare later
  | some request =>
      rw [step_of_some requested]
      have sent := windowed.sendOrder action.clock request
      cases action <;> exact sent

theorem runSteps_opens (inputs : Nat → TickInput) (ticks : Nat) :
    ∃ rest, runSteps inputs (ticks + 1) = .advance 0 (inputs 0).returnPct :: rest ∧
      ∀ action ∈ rest, ¬action.Opens := by
  refine ⟨(tickSteps 0 (inputs 0)).tail ++
    (List.range ticks).flatMap fun tick => tickSteps (tick + 1) (inputs (tick + 1)), ?_, ?_⟩
  · unfold runSteps
    rw [List.range_succ_eq_map, List.flatMap_cons, List.flatMap_map]
    rfl
  · intro action member
    rcases List.mem_append.mp member with first | later
    · simp only [tickSteps, List.tail_cons, List.mem_cons, List.not_mem_nil, or_false] at first
      rcases first with rfl | rfl | rfl | rfl | rfl | rfl | rfl <;> exact id
    · obtain ⟨tick, -, inTick⟩ := List.mem_flatMap.mp later
      simp only [tickSteps, List.mem_cons, List.not_mem_nil, or_false] at inTick
      rcases inTick with rfl | rfl | rfl | rfl | rfl | rfl | rfl | rfl
      · exact Nat.succ_ne_zero tick
      all_goals exact id

/-- At every point of a run after the first move of the price, the momentum trader's
window holds the last twenty prices of the trade log, with the price of the first tick
in front of the log.  Before the nineteenth trade it sends no order. -/
theorem window_is_end_of_log (config : SimulationConfig) (inputs : Nat → TickInput)
    (ticks steps : Nat) :
    let opening := ((new config).advance 0 (inputs 0).returnPct).truePrice
    let sim := (Transition.run step (new config) ((runSteps inputs (ticks + 1)).take
      (steps + 1))).1
    sim.priceHistory = (opening :: sim.tradeLog.map Trade.price).rtake 20 ∧
      (19 ≤ sim.tradeLog.length ∨ ∀ tick clock, sim.request (.followTrend tick clock) = none) := by
  intro opening sim
  obtain ⟨rest, opens, later⟩ := runSteps_opens inputs ticks
  have opened : ((new config).step (.advance 0 (inputs 0).returnPct)).1.Windowed [opening] := rfl
  have simEq : sim = (Transition.run step
      ((new config).step (.advance 0 (inputs 0).returnPct)).1 (rest.take steps)).1 := by
    change (Transition.run step (new config) ((runSteps inputs (ticks + 1)).take (steps + 1))).1 = _
    rw [opens, List.take_succ_cons, Transition.run_cons]
  have windowed : sim.Windowed [opening] := by
    rw [simEq]
    apply Transition.run_invariant (Windowed [opening])
      (fun _ _ before laterStep => before.step laterStep) opened
    exact Transition.along_of_forall
      (fun action member => later action (List.mem_of_mem_take member)) _
  refine ⟨windowed, ?_⟩
  by_cases enough : 19 ≤ sim.tradeLog.length
  · exact Or.inl enough
  · right
    intro tick clock
    have short : sim.priceHistory.length < windowSize := by
      rw [windowed]
      apply RollingWindow.length_rtake_lt
      simp only [List.length_append, List.length_singleton, List.length_map, windowSize]
      omega
    rw [Simulation.request, if_pos short]

/-! ### The time between two orders -/

theorem ordersSent_sendOrder (sim : Simulation) (clock : Clock) (request : OrderRequest)
    (agent : Agent) :
    ((sim.sendOrder clock request).1.stats agent).ordersSent =
      (sim.stats agent).ordersSent + if request.agent = agent then 1 else 0 := by
  rw [(sameSent_sendOrder sim clock request agent).ordersSent]
  unfold submitted withStats
  dsimp only
  by_cases sender : request.agent = agent
  · rw [if_pos sender, ← sender, Function.update_self]
  · rw [if_neg sender, Function.update_of_ne (Ne.symm sender), Nat.add_zero]

/-- An order of the momentum trader is for fifty shares and comes five ticks after the
last one. -/
theorem terms_of_followTrend {tick : Nat} {clock : Clock} {request : OrderRequest}
    (requested : sim.request (.followTrend tick clock) = some request) :
    request.agent = .momentumTrader ∧ request.quantity = 50 ∧ sim.lastTradeTick + 5 ≤ tick := by
  simp only [Simulation.request] at requested
  split at requested
  · cases requested
  · split at requested
    · cases requested
    · have waited : sim.lastTradeTick + 5 ≤ tick := by omega
      split_ifs at requested <;> cases requested <;> exact ⟨rfl, rfl, waited⟩

theorem ordersSent_sendCancel (sim : Simulation) (sender : Agent) (orderId : Nat)
    (agent : Agent) :
    ((sim.sendCancel sender orderId).stats agent).ordersSent = (sim.stats agent).ordersSent := by
  unfold sendCancel withStats
  dsimp only
  by_cases own : agent = sender
  · rw [own, Function.update_self]
  · rw [Function.update_of_ne own]

theorem orders_prepare (sim : Simulation) (action : SimStep) :
    ((sim.prepare action).stats .momentumTrader).ordersSent =
        (sim.stats .momentumTrader).ordersSent ∧
      (sim.prepare action).lastTradeTick = sim.lastTradeTick := by
  constructor
  · apply @prepare_invariant fun later : Simulation =>
      (later.stats .momentumTrader).ordersSent = (sim.stats .momentumTrader).ordersSent
    · intro before after holds same
      rw [same.stats]
      exact holds
    · intro before orderId holds
      rw [ordersSent_sendCancel]
      exact holds
    · rfl
  · cases action with
    | advance tick returnPct =>
        change (sim.advance tick returnPct).lastTradeTick = _
        unfold Simulation.advance
        dsimp only
        split <;> rfl
    | cancelQuotes noise => exact (priceHistory_cancelQuotes sim noise).2.1
    | quoteBid | quoteAsk | followTrend | noise => rfl

/-- A step leaves the count and the memory of the momentum trader's orders alone, or it
sends one, five ticks after the last one or later. -/
theorem orders_step (sim : Simulation) (action : SimStep) :
    (((sim.step action).1.stats .momentumTrader).ordersSent =
          (sim.stats .momentumTrader).ordersSent ∧
        (sim.step action).1.lastTradeTick = sim.lastTradeTick) ∨
      ∃ tick clock, action = .followTrend tick clock ∧ sim.lastTradeTick + 5 ≤ tick ∧
        ((sim.step action).1.stats .momentumTrader).ordersSent =
          (sim.stats .momentumTrader).ordersSent + 1 ∧
        (sim.step action).1.lastTradeTick = tick := by
  cases requested : sim.request action with
  | none =>
      rw [step_of_none requested]
      exact .inl (orders_prepare sim action)
  | some request =>
      rw [step_of_some requested]
      have sender := agent_of_request requested
      have sent := ordersSent_sendOrder sim action.clock request .momentumTrader
      cases action with
      | followTrend tick clock =>
          obtain ⟨own, -, waited⟩ := terms_of_followTrend requested
          rw [if_pos own] at sent
          exact .inr ⟨tick, clock, rfl, waited, sent, rfl⟩
      | advance | cancelQuotes | quoteBid | quoteAsk | noise =>
          have other : request.agent ≠ .momentumTrader := by
            rw [sender]
            exact Agent.noConfusion
          rw [if_neg other] at sent
          exact .inl ⟨sent, (priceHistory_sendOrder sim _ request).2⟩

/-- The orders sent so far fit in the ticks up to the last of them. -/
structure Paced (bound : Nat) (sim : Simulation) : Prop where
  apart : 5 * (sim.stats .momentumTrader).ordersSent ≤ sim.lastTradeTick
  recent : sim.lastTradeTick ≤ bound

theorem Paced.step {bound : Nat} (paced : sim.Paced bound) {action : SimStep}
    (before : action.Before bound) : (sim.step action).1.Paced bound := by
  obtain ⟨apart, recent⟩ := paced
  rcases orders_step sim action with ⟨sent, tickEq⟩ | ⟨tick, clock, rfl, waited, sent, tickEq⟩
  · constructor
    · rw [sent, tickEq]
      exact apart
    · rw [tickEq]
      exact recent
  · constructor
    · omega
    · rw [tickEq]
      exact before

/-- Since a tick, at most one order has been sent. -/
def Rationed (first earlier : Nat) (sim : Simulation) : Prop :=
  (sim.stats .momentumTrader).ordersSent ≤ earlier ∨
    (sim.stats .momentumTrader).ordersSent ≤ earlier + 1 ∧ first ≤ sim.lastTradeTick

theorem Rationed.step {first earlier : Nat} (rationed : sim.Rationed first earlier)
    {action : SimStep} (within : action.Within first) :
    (sim.step action).1.Rationed first earlier := by
  unfold Rationed at *
  rcases orders_step sim action with ⟨sent, tickEq⟩ | ⟨tick, clock, rfl, waited, sent, tickEq⟩
  · rw [sent, tickEq]
    exact rationed
  · -- A second order would come five ticks after one in the same five ticks.
    obtain ⟨started, inside⟩ : first ≤ tick ∧ tick < first + 5 := within
    omega

/-- The momentum trader holds at most fifty shares for each of its orders. -/
structure Exposed (sim : Simulation) : Prop where
  accounted : sim.Accounted
  issued : sim.LogIssued
  within : ∀ buy, sim.exposure buy .momentumTrader ≤
    50 * (sim.stats .momentumTrader).ordersSent

namespace Exposed

theorem new (config : SimulationConfig) : (Simulation.new config).Exposed where
  accounted := accounted_new config
  issued := logIssued_new config
  within := by
    intro buy
    have nothing : (Simulation.new config).held buy .momentumTrader = 0 := by
      rw [held_eq]
      rfl
    rw [exposure, openShares_new, nothing]
    exact le_rfl

theorem congr (exposed : sim.Exposed) (same : SameAccounts sim next) : next.Exposed where
  accounted := exposed.accounted.congr same
  issued := exposed.issued.congr same
  within := by
    intro buy
    rw [exposure_congr same, same.stats]
    exact exposed.within buy

theorem sendCancel (exposed : sim.Exposed) (sender : Agent) (orderId : Nat) :
    (sim.sendCancel sender orderId).Exposed where
  accounted := exposed.accounted.sendCancel sender orderId
  issued := exposed.issued.sendCancel exposed.accounted sender orderId
  within := by
    intro buy
    rw [ordersSent_sendCancel]
    exact (exposure_sendCancel exposed.accounted sender orderId buy .momentumTrader).trans
      (exposed.within buy)

theorem sendOrder (exposed : sim.Exposed) (clock : Clock) {request : OrderRequest}
    (fifty : request.agent = .momentumTrader → request.quantity = 50) :
    (sim.sendOrder clock request).1.Exposed where
  accounted := exposed.accounted.sendOrder clock request
  issued := exposed.issued.sendOrder exposed.accounted clock request
  within := by
    intro buy
    have raised := exposure_sendOrder exposed.accounted exposed.issued clock request buy
      .momentumTrader
    have before := exposed.within buy
    have sent := ordersSent_sendOrder sim clock request .momentumTrader
    by_cases own : request.agent = .momentumTrader
    · have shares : sentShares request buy .momentumTrader ≤ 50 := by
        unfold sentShares
        split
        · rw [fifty own]
          rfl
        · exact Nat.zero_le 50
      rw [if_pos own] at sent
      omega
    · have shares : sentShares request buy .momentumTrader = 0 :=
        if_neg fun both => own both.1
      rw [if_neg own] at sent
      omega

theorem step (exposed : sim.Exposed) (action : SimStep) : (sim.step action).1.Exposed := by
  apply step_invariant (fun before same => before.congr same)
    (fun orderId before => before.sendCancel .marketMaker orderId) exposed
  intro request requested
  apply exposed.sendOrder
  intro own
  rw [agent_of_request requested] at own
  cases action with
  | followTrend tick clock => exact (terms_of_followTrend requested).2.1
  | advance | cancelQuotes | quoteBid | quoteAsk | noise => cases own

theorem abs_truePosition_le (exposed : sim.Exposed) :
    |sim.truePosition .momentumTrader| ≤ 50 * (sim.stats .momentumTrader).ordersSent := by
  have long : sim.truePosition .momentumTrader + sim.openShares true .momentumTrader ≤ _ :=
    exposed.within true
  have short : -sim.truePosition .momentumTrader + sim.openShares false .momentumTrader ≤ _ :=
    exposed.within false
  apply abs_le.mpr
  constructor
  · omega
  · omega

end Exposed

theorem mem_tickSteps_followTrend {tick other : Nat} {input : TickInput} {clock : Clock}
    (inTick : SimStep.followTrend tick clock ∈ tickSteps other input) : tick = other := by
  simp only [tickSteps, List.mem_cons, List.not_mem_nil, or_false, reduceCtorEq, false_or,
    SimStep.followTrend.injEq] at inTick
  exact inTick.1

theorem before_runSteps (inputs : Nat → TickInput) (ticks : Nat) :
    ∀ action ∈ runSteps inputs ticks, action.Before (ticks - 1) := by
  intro action inRun
  obtain ⟨tick, inRange, inTick⟩ := List.mem_flatMap.mp inRun
  have below := List.mem_range.mp inRange
  cases action with
  | followTrend own clock =>
      obtain rfl := mem_tickSteps_followTrend inTick
      exact Nat.le_sub_one_of_lt below
  | advance | cancelQuotes | quoteBid | quoteAsk | noise => trivial

/-- The steps of five ticks behind the first ones. -/
def windowSteps (inputs : Nat → TickInput) (first : Nat) : List SimStep :=
  ((List.range 5).map (first + ·)).flatMap fun tick => tickSteps tick (inputs tick)

theorem runSteps_add_five (inputs : Nat → TickInput) (first : Nat) :
    runSteps inputs (first + 5) = runSteps inputs first ++ windowSteps inputs first := by
  unfold runSteps windowSteps
  rw [List.range_add, List.flatMap_append]

theorem within_windowSteps (inputs : Nat → TickInput) (first : Nat) :
    ∀ action ∈ windowSteps inputs first, action.Within first := by
  intro action inWindow
  obtain ⟨tick, inRange, inTick⟩ := List.mem_flatMap.mp inWindow
  obtain ⟨offset, below, rfl⟩ := List.mem_map.mp inRange
  have offsetBound := List.mem_range.mp below
  cases action with
  | followTrend own clock =>
      obtain rfl := mem_tickSteps_followTrend inTick
      exact ⟨Nat.le_add_right _ _, Nat.add_lt_add_left offsetBound first⟩
  | advance | cancelQuotes | quoteBid | quoteAsk | noise => trivial

theorem ordersSent_five_ticks (config : SimulationConfig) (inputs : Nat → TickInput)
    (ticks : Nat) :
    ((afterTicks config inputs (ticks + 5)).stats .momentumTrader).ordersSent ≤
      ((afterTicks config inputs ticks).stats .momentumTrader).ordersSent + 1 := by
  have rationed := Transition.run_invariant
    (Rationed ticks ((afterTicks config inputs ticks).stats .momentumTrader).ordersSent)
    (fun _ _ earlier within => earlier.step within) (.inl le_rfl)
    (Transition.along_of_forall (within_windowSteps inputs ticks)
      (afterTicks config inputs ticks))
  have splitEq : afterTicks config inputs (ticks + 5) =
      (Transition.run step (afterTicks config inputs ticks) (windowSteps inputs ticks)).1 := by
    unfold afterTicks
    rw [runSteps_add_five, Transition.run_append]
  rw [splitEq]
  rcases rationed with none | ⟨one, -⟩
  · exact Nat.le_succ_of_le none
  · exact one

/-- The momentum trader records no position: its orders trade on arrival, when nobody
owns them yet. -/
theorem Recorded.position_momentumTrader (recorded : sim.Recorded) :
    (sim.stats .momentumTrader).position = 0 := by
  have account := recorded.credited .momentumTrader
  rw [recorded.untold] at account
  exact congrArg Account.position account

/-- The momentum trader sends at most one order in any five ticks and one for every
five ticks of a run.  The position that it compares with its limit stays zero, so its
true position is limited by nothing else. -/
theorem momentum_limited_by_cooldown (config : SimulationConfig) (inputs : Nat → TickInput)
    (ticks : Nat) :
    let sim := afterTicks config inputs ticks
    5 * (sim.stats .momentumTrader).ordersSent ≤ ticks - 1 ∧
      ((afterTicks config inputs (ticks + 5)).stats .momentumTrader).ordersSent ≤
        (sim.stats .momentumTrader).ordersSent + 1 ∧
      (sim.stats .momentumTrader).position = 0 ∧
      |sim.truePosition .momentumTrader| ≤ 10 * (ticks - 1 : Nat) := by
  intro sim
  have paced : sim.Paced (ticks - 1) :=
    Transition.run_invariant (Paced (ticks - 1)) (fun _ _ earlier inTime => earlier.step inTime)
      ⟨le_rfl, Nat.zero_le _⟩
      (Transition.along_of_forall (before_runSteps inputs ticks) (new config))
  have exposed : sim.Exposed :=
    Transition.run_of_preserved Exposed (fun _ action before => before.step action)
      (.new config) (runSteps inputs ticks)
  have recorded : sim.Recorded :=
    Transition.run_of_preserved Recorded (fun _ action before => before.step action)
      (.new config) (runSteps inputs ticks)
  have orders := paced.apart.trans paced.recent
  have position := exposed.abs_truePosition_le
  refine ⟨orders, ordersSent_five_ticks config inputs ticks, recorded.position_momentumTrader, ?_⟩
  omega

end Simulation

end OrderBookExchange
