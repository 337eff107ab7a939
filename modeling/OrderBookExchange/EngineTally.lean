import OrderBookExchange.ListCounts
import OrderBookExchange.OrderHistory

/-!
# The statistics as a sum over the calls

Apart from the latencies, every counter of the engine only ever has something
added to it, and what a call adds can be read off the call and its result.
The counters after a run are the sum over its history.
-/

namespace OrderBookExchange

/-- The counters of the engine apart from the latencies. -/
@[ext]
structure Tally where
  orders : Nat
  trades : Nat
  cancels : Nat
  rejects : Nat
  volume : Nat
  notional : Double

protected theorem Double.add_comm (left right : Double) : left.add right = right.add left := by
  cases left <;> cases right <;> simp [Double.add, Rat.add_comm]

protected theorem Double.add_assoc (first second third : Double) :
    (first.add second).add third = first.add (second.add third) := by
  cases first <;> cases second <;> cases third <;> simp [Double.add, Rat.add_assoc]

protected theorem Double.zero_add (value : Double) : Double.add 0 value = value := by
  cases value <;> simp [Double.add]

namespace Tally

instance : Zero Tally where
  zero := ⟨0, 0, 0, 0, 0, 0⟩

instance : Add Tally where
  add first second :=
    { orders := first.orders + second.orders
      trades := first.trades + second.trades
      cancels := first.cancels + second.cancels
      rejects := first.rejects + second.rejects
      volume := first.volume + second.volume
      notional := first.notional.add second.notional }

section Fields

variable (first second : Tally)

@[simp]
theorem orders_add : (first + second).orders = first.orders + second.orders :=
  rfl

@[simp]
theorem trades_add : (first + second).trades = first.trades + second.trades :=
  rfl

@[simp]
theorem cancels_add : (first + second).cancels = first.cancels + second.cancels :=
  rfl

@[simp]
theorem volume_add : (first + second).volume = first.volume + second.volume :=
  rfl

@[simp]
theorem notional_add : (first + second).notional = first.notional.add second.notional :=
  rfl

end Fields

@[simp]
theorem zero_eq : (0 : Tally) = ⟨0, 0, 0, 0, 0, 0⟩ :=
  rfl

protected theorem add_comm (first second : Tally) : first + second = second + first := by
  ext1
  case notional => exact Double.add_comm _ _
  all_goals exact Nat.add_comm _ _

protected theorem add_assoc (first second third : Tally) :
    first + second + third = first + (second + third) := by
  ext1
  case notional => exact Double.add_assoc _ _ _
  all_goals exact Nat.add_assoc _ _ _

protected theorem zero_add (tally : Tally) : 0 + tally = tally := by
  ext1
  case notional => exact Double.zero_add _
  all_goals exact Nat.zero_add _

instance : AddCommMonoid Tally where
  add_assoc := Tally.add_assoc
  zero_add := Tally.zero_add
  add_zero := fun tally => by rw [Tally.add_comm, Tally.zero_add]
  add_comm := Tally.add_comm
  nsmul := nsmulRec

end Tally

/-- What a trade adds to the counters. -/
def Trade.tally (trade : Trade) : Tally where
  orders := 0
  trades := 1
  cancels := 0
  rejects := 0
  volume := trade.quantity.toNat
  notional := trade.price.mul (.ofNat trade.quantity.toNat)

theorem sum_tally (trades : List Trade) :
    (trades.map Trade.tally).sum =
      { orders := 0
        trades := trades.length
        cancels := 0
        rejects := 0
        volume := (trades.map fun trade => trade.quantity.toNat).sum
        notional := trades.foldr
          (fun trade total => (trade.price.mul (.ofNat trade.quantity.toNat)).add total) 0 } := by
  induction trades with
  | nil => rfl
  | cons trade trades ih =>
      rw [List.map_cons, List.sum_cons, ih]
      ext1
      case trades => exact Nat.add_comm _ _
      all_goals rfl

/-- Whether a call is a submission. -/
def submits : EngineOp × EngineOutput → Bool
  | (.submit _ _ _ _ _ _, _) => true
  | _ => false

/-- Whether a call is a submission that fails validation. -/
def fails : EngineOp × EngineOutput → Bool
  | (.submit _ _ _ type price quantity, _) => rejects type price quantity
  | _ => false

/-- What a call adds to the counters apart from its trades. -/
def callCounts (entry : EngineOp × EngineOutput) : Tally where
  orders := if submits entry then 1 else 0
  trades := 0
  cancels := if (cancelledId entry).isSome then 1 else 0
  rejects := if fails entry then 1 else 0
  volume := 0
  notional := 0

theorem sum_callCounts (history : List (EngineOp × EngineOutput)) :
    (history.map callCounts).sum =
      { orders := history.countP submits
        trades := 0
        cancels := history.countP fun entry => (cancelledId entry).isSome
        rejects := history.countP fails
        volume := 0
        notional := 0 } := by
  induction history with
  | nil => rfl
  | cons entry history ih =>
      rw [List.map_cons, List.sum_cons, ih]
      ext1
      case orders => exact (Nat.add_comm _ _).trans List.countP_cons.symm
      case cancels => exact (Nat.add_comm _ _).trans List.countP_cons.symm
      case rejects => exact (Nat.add_comm _ _).trans List.countP_cons.symm
      case notional => exact Double.zero_add 0
      all_goals rfl

/-- What a call with its result adds to the counters. -/
def callTally (entry : EngineOp × EngineOutput) : Tally :=
  callCounts entry + (entry.2.trades.map Trade.tally).sum

theorem sum_callTally (history : List (EngineOp × EngineOutput)) :
    (history.map callTally).sum =
      (history.map callCounts).sum + ((reportedTrades history).map Trade.tally).sum := by
  induction history with
  | nil => exact (add_zero (0 : Tally)).symm
  | cons entry history ih =>
      rw [List.map_cons, List.sum_cons, ih, List.map_cons, List.sum_cons, reportedTrades_cons,
        List.map_append, List.sum_append, callTally, add_add_add_comm]

namespace EngineStats

/-- The counters without the latencies. -/
def tally (stats : EngineStats) : Tally where
  orders := stats.totalOrders
  trades := stats.totalTrades
  cancels := stats.totalCancels
  rejects := stats.totalRejects
  volume := stats.totalVolume
  notional := stats.totalNotional

theorem tally_recordTrade (stats : EngineStats) (trade : Trade) :
    (stats.recordTrade trade).tally = stats.tally + trade.tally :=
  rfl

theorem tally_recordLatency (stats : EngineStats) (latency : Nat) :
    (stats.recordLatency latency).tally = stats.tally :=
  rfl

theorem tally_recordTrades (stats : EngineStats) (trades : List Trade) :
    (trades.foldl recordTrade stats).tally = stats.tally + (trades.map Trade.tally).sum := by
  induction trades generalizing stats with
  | nil => rw [List.foldl_nil, List.map_nil, List.sum_nil, add_zero]
  | cons trade trades ih =>
      rw [List.foldl_cons, ih, tally_recordTrade, List.map_cons, List.sum_cons, add_assoc]

theorem tally_new : MatchingEngine.new.stats.tally = 0 :=
  rfl

end EngineStats

namespace MatchingEngine

variable (engine : MatchingEngine)

/-- Counters that change by whole numbers only. -/
theorem tally_add (first second : Tally) (unpriced : second.notional = 0) :
    first + second =
      { orders := first.orders + second.orders
        trades := first.trades + second.trades
        cancels := first.cancels + second.cancels
        rejects := first.rejects + second.rejects
        volume := first.volume + second.volume
        notional := first.notional } := by
  ext1
  case notional =>
    rw [Tally.notional_add, unpriced, Double.add_comm, Double.zero_add]
  all_goals rfl

theorem tally_submitOrder (clock : Clock) (symbol : Symbol) (side : Side) (type : OrderType)
    (price : Price) (quantity : Quantity) :
    (engine.step (.submit clock symbol side type price quantity)).1.stats.tally =
      engine.stats.tally + callTally (.submit clock symbol side type price quantity,
        (engine.step (.submit clock symbol side type price quantity)).2) := by
  have counted := tally_add engine.stats.tally (callCounts
    (.submit clock symbol side type price quantity,
      (engine.step (.submit clock symbol side type price quantity)).2)) rfl
  rw [callTally, ← add_assoc, counted, step]
  dsimp only
  unfold submitOrder
  by_cases rejected : rejects type price quantity = true
  · simp only [rejected, if_true, stats_getOrderBook, EngineOutput.trades, List.map_nil,
      List.sum_nil, add_zero]
    simp [EngineStats.tally, callCounts, submits, cancelledId, fails, rejected]
  · simp only [rejected, Bool.false_eq_true, if_false, stats_getOrderBook,
      EngineStats.tally_recordLatency, EngineStats.tally_recordTrades, EngineOutput.trades]
    simp [EngineStats.tally, callCounts, submits, cancelledId, fails, rejected]

theorem tally_cancelOrder (symbol : Symbol) (orderId : Nat) :
    (engine.step (.cancel symbol orderId)).1.stats.tally =
      engine.stats.tally +
        callTally (.cancel symbol orderId, (engine.step (.cancel symbol orderId)).2) := by
  have counted := tally_add engine.stats.tally (callCounts (.cancel symbol orderId,
    (engine.step (.cancel symbol orderId)).2)) rfl
  have untraded : ((engine.step (.cancel symbol orderId)).2.trades.map Trade.tally).sum = 0 := rfl
  rw [callTally, untraded, add_zero, counted, step]
  dsimp only
  unfold cancelOrder
  cases engine.books.lookup symbol with
  | none => rfl
  | some book =>
      dsimp only
      cases (book.cancelOrder orderId).2 <;> rfl

theorem counts_submitOrder (clock : Clock) (symbol : Symbol) (side : Side) {type : OrderType}
    {price : Price} {quantity : Quantity} (accepted : rejects type price quantity = false) :
    (engine.submitOrder clock symbol side type price quantity).1.stats.totalOrders =
        engine.stats.totalOrders + 1 ∧
      (engine.submitOrder clock symbol side type price quantity).1.stats.totalRejects =
        engine.stats.totalRejects ∧
      (engine.submitOrder clock symbol side type price quantity).1.stats.totalCancels =
        engine.stats.totalCancels := by
  have counted := engine.tally_submitOrder clock symbol side type price quantity
  rw [callTally, sum_tally] at counted
  have orders := congrArg Tally.orders counted
  have rejections := congrArg Tally.rejects counted
  have cancels := congrArg Tally.cancels counted
  simp only [Tally.orders_add, callCounts, submits, if_true, Nat.add_zero] at orders
  simp only [callCounts, fails, accepted, Bool.false_eq_true, if_false] at rejections
  simp only [Tally.cancels_add, callCounts, cancelledId, Option.isSome_none, Bool.false_eq_true,
    if_false, Nat.add_zero] at cancels
  exact ⟨orders, rejections, cancels⟩

theorem counts_cancelOrder (symbol : Symbol) (orderId : Nat) :
    (engine.cancelOrder symbol orderId).1.stats.totalOrders = engine.stats.totalOrders ∧
      (engine.cancelOrder symbol orderId).1.stats.totalRejects = engine.stats.totalRejects ∧
      (engine.cancelOrder symbol orderId).1.stats.totalCancels =
        engine.stats.totalCancels + if (engine.cancelOrder symbol orderId).2 then 1 else 0 := by
  rw [cancelOrder]
  split
  · exact ⟨rfl, rfl, rfl⟩
  · next book _ =>
      dsimp only
      cases (book.cancelOrder orderId).2 <;> exact ⟨rfl, rfl, rfl⟩

theorem traded_submitOrder (clock : Clock) (symbol : Symbol) (side : Side) (type : OrderType)
    (price : Price) (quantity : Quantity) :
    (engine.submitOrder clock symbol side type price quantity).1.stats.totalTrades =
        engine.stats.totalTrades +
          (engine.submitOrder clock symbol side type price quantity).2.2.length ∧
      (engine.submitOrder clock symbol side type price quantity).1.stats.totalVolume =
        engine.stats.totalVolume +
          ((engine.submitOrder clock symbol side type price quantity).2.2.map
            fun trade => trade.quantity.toNat).sum := by
  have counted := engine.tally_submitOrder clock symbol side type price quantity
  rw [callTally, sum_tally] at counted
  have trades := congrArg Tally.trades counted
  have volume := congrArg Tally.volume counted
  simp only [Tally.trades_add, callCounts, Nat.zero_add] at trades
  simp only [Tally.volume_add, callCounts, Nat.zero_add] at volume
  exact ⟨trades, volume⟩

theorem traded_cancelOrder (symbol : Symbol) (orderId : Nat) :
    (engine.cancelOrder symbol orderId).1.stats.totalTrades = engine.stats.totalTrades := by
  rw [cancelOrder]
  split
  · rfl
  · next book _ =>
      dsimp only
      cases (book.cancelOrder orderId).2 <;> rfl

/-- What a call adds to the counters is read off its result. -/
theorem tally_step (op : EngineOp) :
    (engine.step op).1.stats.tally =
      engine.stats.tally + callTally (op, (engine.step op).2) := by
  cases op with
  | submit clock symbol side type price quantity =>
      exact tally_submitOrder engine clock symbol side type price quantity
  | cancel symbol orderId => exact tally_cancelOrder engine symbol orderId
  | reduce symbol orderId newQuantity =>
      have unchanged : (engine.reduceOrder symbol orderId newQuantity).1.stats.tally =
          engine.stats.tally := by
        unfold reduceOrder withBook
        rw [stats_getOrderBook]
      have nothing : callTally (.reduce symbol orderId newQuantity,
          (engine.step (.reduce symbol orderId newQuantity)).2) = 0 := add_zero (0 : Tally)
      rw [nothing, add_zero]
      exact unchanged

/-- The counters of a run are the sum over its history. -/
theorem tally_run (ops : List EngineOp) :
    (Transition.run step engine ops).1.stats.tally =
      engine.stats.tally + ((Transition.history step engine ops).map callTally).sum :=
  Transition.measure_run (fun engine : MatchingEngine => engine.stats.tally) tally_step engine ops

end MatchingEngine

end OrderBookExchange
