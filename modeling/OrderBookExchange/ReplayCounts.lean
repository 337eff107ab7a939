import OrderBookExchange.DepthTotals
import OrderBookExchange.EngineTally
import OrderBookExchange.ReplayCancels
import OrderBookExchange.TapeReplay
import OrderBookExchange.TapeRows

/-!
# The counters of a replay and those of its engine

The harness counts the trades it is handed while the engine counts them as
well.  Both count the same, except that the harness keeps its volume in the 32
bits of a quantity.
-/

namespace OrderBookExchange

/-! ### What an aggressor can get -/

namespace Ladder

/-- The orders in front of the first empty level. -/
def inFront (ladder : Ladder) : List Order :=
  orders (ladder.takeWhile fun level => !level.2.isEmpty)

/-- The shares a walk can get at. -/
def available (reach : Price → Bool) (ladder : Ladder) : Nat :=
  ((ladder.inFront.takeWhile fun order => reach order.price).map
    fun order => order.remainingQty.toNat).sum

theorem inFront_of_bare {ladder : Ladder} (bare : Bare ladder) : ladder.inFront = [] := by
  cases ladder with
  | nil => rfl
  | cons level levels =>
      obtain ⟨key, nodes⟩ := level
      cases nodes with
      | nil => rfl
      | cons order rest => exact absurd rfl (bare key order rest levels)

theorem inFront_front (key : Price) (order : Order) (rest : List Order) (levels : Ladder) :
    inFront ((key, order :: rest) :: levels) = order :: inFront (shelve key rest levels) := by
  cases rest with
  | nil => rfl
  | cons next rest => rfl

theorem available_front (reach : Price → Bool) (key : Price) (order : Order) (rest : List Order)
    (levels : Ladder) :
    available reach ((key, order :: rest) :: levels) =
      if reach order.price then
        order.remainingQty.toNat + available reach (shelve key rest levels)
      else 0 := by
  rw [available, inFront_front, List.takeWhile_cons]
  split
  · rw [List.map_cons, List.sum_cons, available]
  · rfl

/-- A walk takes what is available, as far as it is wanted. -/
theorem walk_volume (reach : Price → Bool) (left : Nat) (ladder : Ladder) :
    ((ladder.walk reach left).fills.map RestingFill.quantity).sum =
      min left (ladder.available reach) := by
  induction ladder using front_induction generalizing left with
  | bare ladder bare => simp [walk_of_bare bare, available, inFront_of_bare bare]
  | front key order rest levels induction =>
      rw [available_front]
      by_cases stop : left = 0 ∨ reach order.price = false
      · rw [walk_stop stop]
        rcases stop with zero | outOfReach
        · simp [zero]
        · simp [outOfReach]
      · simp only [not_or, Bool.not_eq_false] at stop
        rw [if_pos stop.2]
        by_cases enough : order.remainingQty.toNat ≤ left
        · have later := induction (left - order.remainingQty.toNat)
          rw [walk_take stop.1 stop.2 enough]
          simp only [List.map_cons, List.sum_cons, later]
          omega
        · rw [walk_part stop.1 stop.2 (by omega)]
          simp only [List.map_cons, List.map_nil, List.sum_cons, List.sum_nil]
          omega

end Ladder

namespace OrderBook

/-- What an order can trade on the book as it is. -/
def tradable (book : OrderBook) (side : Side) (price : Price) (quantity : Quantity) : Nat :=
  min quantity.toNat ((book.ladder (!side.isBuy)).available (reaches side.isBuy price))

theorem volume_acceptOrder {book : OrderBook} (linked : book.Linked) (shelved : book.Shelved)
    (clock : Clock) (side : Side) (type : OrderType) (price : Price) (quantity : Quantity) :
    MatchingEngine.volume (book.acceptOrder clock side type price quantity).2.2 =
      book.tradable side price quantity := by
  obtain ⟨-, -, fills, -⟩ := acceptOrder_walked clock side type price quantity linked shelved
  rw [tradable, ← Ladder.walk_volume, ← walked, ← fills, List.map_map]
  rfl

end OrderBook

namespace MatchingEngine

/-- What a submission can trade: nothing if it is rejected. -/
def tradable (engine : MatchingEngine) (symbol : Symbol) (side : Side) (type : OrderType)
    (price : Price) (quantity : Quantity) : Nat :=
  if rejects type price quantity then 0
  else (engine.book symbol).tradable side (effectivePrice side type price) quantity

/-- The engine has been started and called any number of times. -/
def Running (engine : MatchingEngine) : Prop :=
  ∃ ops, engine = (Transition.run step .new ops).1

theorem Running.step {engine : MatchingEngine} (running : engine.Running) (op : EngineOp) :
    (engine.step op).1.Running := by
  obtain ⟨ops, rfl⟩ := running
  exact ⟨ops ++ [op], by rw [Transition.run_append]; rfl⟩

theorem Running.volume_submitOrder {engine : MatchingEngine} (running : engine.Running)
    (clock : Clock) (symbol : Symbol) (side : Side) (type : OrderType) (price : Price)
    (quantity : Quantity) :
    volume (engine.submitOrder clock symbol side type price quantity).2.2 =
      engine.tradable symbol side type price quantity := by
  obtain ⟨ops, rfl⟩ := running
  by_cases rejected : rejects type price quantity = true
  · rw [tradable, if_pos rejected]
    simp [submitOrder, rejected, volume]
  · rw [tradable, if_neg rejected, submitOrder_result _ clock symbol side rejected]
    exact OrderBook.volume_acceptOrder (linked_new.run ops symbol).1 (shelved_run ops symbol) clock
      side type _ quantity

/-- What a submission adds to the counters, given its trades. -/
def submitTally (type : OrderType) (price : Price) (quantity : Quantity) (trades : List Trade) :
    Tally :=
  { (trades.map Trade.tally).sum with
    orders := 1
    cancels := 0
    rejects := if rejects type price quantity then 1 else 0 }

theorem tally_submitted (engine : MatchingEngine) (clock : Clock) (symbol : Symbol) (side : Side)
    (type : OrderType) (price : Price) (quantity : Quantity) :
    let result := engine.submitOrder clock symbol side type price quantity
    result.1.stats.tally =
      engine.stats.tally + submitTally type price quantity result.2.2 := by
  intro result
  refine (tally_submitOrder engine clock symbol side type price quantity).trans ?_
  congr 1
  simp only [callTally, submitTally, sum_tally]
  ext1
  case orders => rfl
  case rejects => rfl
  case notional => exact Double.zero_add _
  all_goals exact Nat.zero_add _

theorem tally_cancelled (engine : MatchingEngine) (symbol : Symbol) (orderId : Nat) :
    ∃ count ≤ 1, (engine.cancelOrder symbol orderId).1.stats.tally =
      engine.stats.tally + ⟨0, 0, count, 0, 0, 0⟩ := by
  let entry := (EngineOp.cancel symbol orderId, (engine.step (.cancel symbol orderId)).2)
  have counted : callTally entry = ⟨0, 0, if (cancelledId entry).isSome then 1 else 0, 0, 0, 0⟩ :=
    add_zero (callCounts entry)
  refine ⟨if (cancelledId entry).isSome then 1 else 0, ?_, ?_⟩
  · split
    · exact Nat.le_refl 1
    · exact Nat.zero_le 1
  · rw [← counted]
    exact tally_cancelOrder engine symbol orderId

end MatchingEngine

/-! ### One row -/

/-- The harness adds up the trades the way the engine does, with the volume cut
to a quantity. -/
theorem ReplayResult.foldl_countTrade (result : ReplayResult) (trades : List Trade) :
    trades.foldl countTrade result =
      { result with
        tradesGenerated := result.tradesGenerated + (trades.map Trade.tally).sum.trades
        volumeTraded := result.volumeTraded + UInt32.ofNat (trades.map Trade.tally).sum.volume
        notionalTraded := result.notionalTraded.add (trades.map Trade.tally).sum.notional } := by
  induction trades generalizing result with
  | nil =>
      have same : result.notionalTraded.add (.finite 0) = result.notionalTraded :=
        (Double.add_comm _ _).trans (Double.zero_add _)
      simp [same]
  | cons trade trades induction =>
      rw [List.foldl_cons, induction, List.map_cons, List.sum_cons]
      simp only [countTrade, Tally.trades_add, Tally.volume_add, Tally.notional_add, Trade.tally,
        UInt32.ofNat_add, UInt32.ofNat_toNat, Double.add_assoc, Nat.add_assoc, UInt32.add_assoc]

namespace ReplayHarness

/-- Between two moments the engine adds `tally` to its counters, and the harness
counts accordingly. -/
structure Counts (before after : ReplayHarness) (tally : Tally) : Prop where
  engine : after.engine.stats.tally = before.engine.stats.tally + tally
  trades : after.result.tradesGenerated = before.result.tradesGenerated + tally.trades
  volume : after.result.volumeTraded = before.result.volumeTraded + UInt32.ofNat tally.volume
  notional : after.result.notionalTraded = before.result.notionalTraded.add tally.notional
  orders : tally.orders + after.result.riskRejections + before.result.newOrders =
    after.result.newOrders + before.result.riskRejections
  cancels : tally.cancels + before.result.cancels ≤ after.result.cancels
  events : after.result.newOrders + after.result.cancels + before.result.eventsProcessed ≤
    before.result.newOrders + before.result.cancels + after.result.eventsProcessed

theorem Counts.of_idle {before after : ReplayHarness}
    (engine : after.engine.stats.tally = before.engine.stats.tally)
    (trades : after.result.tradesGenerated = before.result.tradesGenerated)
    (volume : after.result.volumeTraded = before.result.volumeTraded)
    (notional : after.result.notionalTraded = before.result.notionalTraded)
    (orders : after.result.riskRejections + before.result.newOrders =
      after.result.newOrders + before.result.riskRejections)
    (cancels : before.result.cancels ≤ after.result.cancels)
    (events : after.result.newOrders + after.result.cancels + before.result.eventsProcessed ≤
      before.result.newOrders + before.result.cancels + after.result.eventsProcessed) :
    Counts before after 0 where
  engine := engine.trans (add_zero _).symm
  trades := trades
  volume := volume.trans (UInt32.add_zero _).symm
  notional := by
    rw [notional, Double.add_comm]
    exact (Double.zero_add _).symm
  orders := by
    simp only [Tally.zero_eq]
    omega
  cancels := by
    simp only [Tally.zero_eq]
    omega
  events := events

theorem Counts.refl (harness : ReplayHarness) : Counts harness harness 0 :=
  .of_idle rfl rfl rfl rfl (Nat.add_comm _ _) (Nat.le_refl _) (Nat.le_refl _)

theorem Counts.trans {before middle after : ReplayHarness} {first second : Tally}
    (earlier : Counts before middle first) (later : Counts middle after second) :
    Counts before after (first + second) where
  engine := by rw [later.engine, earlier.engine, add_assoc]
  trades := by rw [later.trades, earlier.trades, Tally.trades_add, Nat.add_assoc]
  volume := by
    rw [later.volume, earlier.volume, Tally.volume_add, UInt32.ofNat_add, UInt32.add_assoc]
  notional := by
    rw [later.notional, earlier.notional, Tally.notional_add, Double.add_assoc]
  orders := by
    have first := earlier.orders
    have second := later.orders
    rw [Tally.orders_add]
    omega
  cancels := by
    have first := earlier.cancels
    have second := later.cancels
    rw [Tally.cancels_add]
    omega
  events := by
    have first := earlier.events
    have second := later.events
    omega

/-- What the order of a row can trade: nothing unless it gets to the engine. -/
def tradable (harness : ReplayHarness) (event : ReplayEvent) : Nat :=
  if event.isNew = true ∧ harness.verdict event = .none then
    harness.engine.tradable event.symbol event.side event.type event.price event.quantity
  else 0

/-- What a row makes the engine count, the harness counts. -/
theorem counts_step (harness : ReplayHarness) (row : ReplayEvent × Clock) :
    ∃ tally, Counts harness (harness.step row).1 tally ∧
      (harness.engine.Running → tally.volume = harness.tradable row.1) := by
  obtain ⟨event, clock⟩ := row
  have untraded : harness.result.notionalTraded.add 0 = harness.result.notionalTraded :=
    (Double.add_comm _ _).trans (Double.zero_add _)
  unfold step
  dsimp only
  by_cases isNew : event.isNew = true
  · rw [if_pos isNew]
    unfold replayNew
    dsimp only
    by_cases rejected : (riskGate harness.risk event.symbol event.side event.type event.price
        event.quantity).2 ≠ .none
    · have nothing : harness.tradable event = 0 := if_neg fun both => rejected both.2
      rw [if_pos rejected, nothing]
      refine ⟨0, .of_idle rfl rfl rfl rfl ?_ (Nat.le_refl _) ?_, fun _ => rfl⟩
      · dsimp only
        omega
      · dsimp only
        omega
    · have tradable : harness.tradable event = harness.engine.tradable event.symbol event.side
          event.type event.price event.quantity := if_pos ⟨isNew, not_not.mp rejected⟩
      rw [if_neg rejected, tradable, ReplayResult.foldl_countTrade]
      refine ⟨_, ⟨MatchingEngine.tally_submitted harness.engine clock event.symbol event.side
        event.type event.price event.quantity, rfl, rfl, rfl, ?_, ?_, ?_⟩, ?_⟩
      · simp only [MatchingEngine.submitTally]
        omega
      · exact Nat.le_of_eq (Nat.zero_add _)
      · dsimp only
        omega
      · intro running
        rw [← running.volume_submitOrder clock, MatchingEngine.submitTally, sum_tally]
        rfl
  · have nothing : harness.tradable event = 0 := if_neg fun both => isNew both.1
    rw [if_neg isNew, nothing]
    by_cases isCancel : event.isCancel = true
    · obtain ⟨count, atMostOne, engine⟩ := MatchingEngine.tally_cancelled harness.engine
        event.symbol (harness.target event)
      rw [if_pos isCancel]
      refine ⟨_, ⟨engine, rfl, (UInt32.add_zero _).symm, untraded.symm, ?_, ?_, ?_⟩, fun _ => rfl⟩
      · simp only [replayCancel]
        omega
      · simp only [replayCancel]
        omega
      · simp only [replayCancel]
        omega
    · rw [if_neg isCancel]
      refine ⟨0, .of_idle rfl rfl rfl rfl ?_ (Nat.le_refl _) ?_, fun _ => rfl⟩
      · dsimp only
        omega
      · dsimp only
        omega

theorem running_step {harness : ReplayHarness} (running : harness.engine.Running)
    (row : ReplayEvent × Clock) : (harness.step row).1.engine.Running := by
  obtain ⟨event, clock⟩ := row
  unfold step
  dsimp only
  split
  · unfold replayNew
    dsimp only
    split
    · exact running
    · exact running.step (.submit clock event.symbol event.side event.type event.price
        event.quantity)
  · split
    · exact running.step (.cancel event.symbol (harness.target event))
    · exact running

theorem totalVolume_step {harness : ReplayHarness} (running : harness.engine.Running)
    (row : ReplayEvent × Clock) :
    (harness.step row).1.engine.stats.totalVolume =
      harness.engine.stats.totalVolume + harness.tradable row.1 := by
  obtain ⟨tally, counts, volume⟩ := counts_step harness row
  rw [← volume running]
  exact congrArg Tally.volume counts.engine

/-- The volume stays below a bound if and only if no row can take it there. -/
theorem along_totalVolume_iff {harness : ReplayHarness} (running : harness.engine.Running)
    {bound : Nat} (below : harness.engine.stats.totalVolume < bound)
    (rows : List (ReplayEvent × Clock)) :
    Transition.Along step
        (fun harness row => harness.engine.stats.totalVolume + harness.tradable row.1 < bound)
        harness rows ↔
      (Transition.run step harness rows).1.engine.stats.totalVolume < bound :=
  Transition.along_below_iff (fun harness : ReplayHarness => harness.engine.Running)
    (fun _ row running => running_step running row)
    (fun harness : ReplayHarness => harness.engine.stats.totalVolume)
    (fun harness row => harness.tradable row.1)
    (fun _ row running => totalVolume_step running row) running below rows

/-- What a run of rows makes the engine count, the harness counts. -/
theorem counts_run (harness : ReplayHarness) (rows : List (ReplayEvent × Clock)) :
    ∃ tally, Counts harness (Transition.run step harness rows).1 tally := by
  induction rows generalizing harness with
  | nil => exact ⟨0, .refl harness⟩
  | cons row rows induction =>
      obtain ⟨first, counts, -⟩ := counts_step harness row
      obtain ⟨rest, later⟩ := induction (harness.step row).1
      exact ⟨first + rest, counts.trans later⟩

end ReplayHarness

/-! ### A whole tape -/

/-- What a replay reports agrees with what its engine counted meanwhile. -/
structure ReplayResult.Agrees (result : ReplayResult) (before after : EngineStats) : Prop where
  trades : after.totalTrades = before.totalTrades + result.tradesGenerated
  volume : after.totalVolume = before.totalVolume + result.volumeTraded.toNat
  notional : after.totalNotional = before.totalNotional.add result.notionalTraded
  orders : after.totalOrders + result.riskRejections = before.totalOrders + result.newOrders
  cancels : after.totalCancels ≤ before.totalCancels + result.cancels
  events : result.newOrders + result.cancels ≤ result.eventsProcessed

namespace Replay

/-- Events with the readings of the engine's clock. -/
def timed : (Nat → RowClock) → List ReplayEvent → List (ReplayEvent × Clock)
  | _, [] => []
  | clocks, event :: events =>
      (event, (clocks 0).engine) :: timed (fun index => clocks (index + 1)) events

theorem harness_steps (clocks : Nat → RowClock) (replay : Replay) (events : List ReplayEvent) :
    (replay.steps clocks events).harness =
      (Transition.run ReplayHarness.step replay.harness (timed clocks events)).1 := by
  induction events generalizing clocks replay with
  | nil => rfl
  | cons event events induction =>
      rw [steps, induction, timed, Transition.run_cons]
      rfl

/-- The rows of a file that reach the harness. -/
def rows (conversions : Conversions) (clock : ReplayClock) (file : Text) :
    List (ReplayEvent × Clock) :=
  timed clock.rows ((TapeReader.new file).lines.filterMap conversions.lineEvent)

/-- A replay agrees with its engine if and only if at no row the volume traded
since the start, with what the row can trade, leaves the 32 bits. -/
theorem replay_agrees_iff (conversions : Conversions) (ops : List EngineOp)
    (risk : Option RiskChecker) (clock : ReplayClock) (uninitialised : ReplayEvent)
    (file : Text) :
    let engine := (Transition.run MatchingEngine.step .new ops).1
    let replay := replayFileOn conversions engine risk clock uninitialised file
    replay.2.result.Agrees engine.stats replay.1.harness.engine.stats ↔
      Transition.Along ReplayHarness.step
        (fun harness row => harness.engine.stats.totalVolume + harness.tradable row.1 <
          engine.stats.totalVolume + 2 ^ 32)
        (on engine risk).harness (rows conversions clock file) := by
  intro engine replay
  have harnessEq : replay.1.harness = (Transition.run ReplayHarness.step (on engine risk).harness
      (rows conversions clock file)).1 := by
    rw [rows, ← harness_steps]
    exact congrArg harness (replayFileOn_eq conversions engine risk clock uninitialised file)
  have resultEq : replay.2.result = replay.1.harness.result := rfl
  obtain ⟨tally, counts⟩ := ReplayHarness.counts_run (on engine risk).harness
    (rows conversions clock file)
  rw [← harnessEq] at counts
  have total : replay.1.harness.engine.stats.totalVolume =
      engine.stats.totalVolume + tally.volume := congrArg Tally.volume counts.engine
  have reported : replay.1.harness.result.volumeTraded.toNat = tally.volume % 2 ^ 32 := by
    rw [counts.volume]
    change ((0 : UInt32) + UInt32.ofNat tally.volume).toNat = _
    rw [UInt32.zero_add, UInt32.toNat_ofNat']
  have running : (on engine risk).harness.engine.Running := ⟨ops, rfl⟩
  rw [ReplayHarness.along_totalVolume_iff running
    (show engine.stats.totalVolume < engine.stats.totalVolume + 2 ^ 32 by omega), ← harnessEq,
    total, resultEq]
  constructor
  · intro agrees
    have volume := agrees.volume
    have below := Nat.mod_lt tally.volume (show 0 < 2 ^ 32 by decide)
    omega
  · intro fits
    have tradesEq : replay.1.harness.result.tradesGenerated = tally.trades :=
      counts.trades.trans (Nat.zero_add _)
    have notionalEq : replay.1.harness.result.notionalTraded = tally.notional :=
      counts.notional.trans (Double.zero_add _)
    have orders : tally.orders + replay.1.harness.result.riskRejections =
        replay.1.harness.result.newOrders := counts.orders
    have cancels : tally.cancels ≤ replay.1.harness.result.cancels := counts.cancels
    have events := counts.events
    constructor
    case trades =>
      rw [tradesEq]
      exact congrArg Tally.trades counts.engine
    case volume =>
      rw [total, reported, Nat.mod_eq_of_lt (by omega)]
    case notional =>
      rw [notionalEq]
      exact congrArg Tally.notional counts.engine
    case orders =>
      have counted : replay.1.harness.engine.stats.totalOrders =
          engine.stats.totalOrders + tally.orders := congrArg Tally.orders counts.engine
      omega
    case cancels =>
      have counted : replay.1.harness.engine.stats.totalCancels =
          engine.stats.totalCancels + tally.cancels := congrArg Tally.cancels counts.engine
      omega
    case events => exact events.trans (Nat.le_of_eq (Nat.zero_add _))

/-- A row of the symbol `A` at price 1, with its side, quantity and identifier. -/
def tradeRow (side : UInt8) (quantity : Text) (orderId : UInt8) : Text :=
  joined comma [[49], [65], [side], [76], [49], quantity, [78]] [orderId]

/-- A tape that trades 4294967295 shares and then one more: the engine counts
2^32 shares, and the replay reports none. -/
theorem volume_traded_wraps :
    let tape := joined newline [[104], tradeRow 83 [52, 50, 57, 52, 57, 54, 55, 50, 57, 53] 49,
      tradeRow 66 [52, 50, 57, 52, 57, 54, 55, 50, 57, 53] 50, tradeRow 83 [49] 51]
      (tradeRow 66 [49] 52)
    let replay := replayFileOn (.library TapeReader.exactStod) .new none
      ⟨0, fun _ => ⟨0, fun _ => 0, 0⟩, 0⟩ ⟨0, [], .buy, .limit, 0, 0, 'N', 0⟩ tape
    replay.2.result.tradesGenerated = 2 ∧
      replay.1.harness.engine.stats.totalTrades = 2 ∧
      replay.2.result.volumeTraded = 0 ∧
      replay.1.harness.engine.stats.totalVolume = 2 ^ 32 := by
  decide +kernel

end Replay

end OrderBookExchange
