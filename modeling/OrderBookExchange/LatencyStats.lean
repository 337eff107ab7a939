import OrderBookExchange.ExchangeRefinement

/-!
# The latencies of the engine

Every submission counts as an order, but only an accepted one is timed.  The
average is the total of the latencies divided by the number of orders, so a
rejected order pulls it down, below the smallest latency even.
-/

namespace OrderBookExchange

namespace EngineOp

/-- A submission that passes validation. -/
def accepted : EngineOp → Bool
  | .submit _ _ _ type price quantity => !rejects type price quantity
  | .cancel _ _ => false
  | .reduce _ _ _ => false

/-- A submission that fails validation. -/
def rejected : EngineOp → Bool
  | .submit _ _ _ type price quantity => rejects type price quantity
  | .cancel _ _ => false
  | .reduce _ _ _ => false

end EngineOp

/-- A call on the engine, or `reset_stats`. -/
inductive StatsOp where
  | call (op : EngineOp)
  | reset

/-- The calls since the last reset. -/
def sinceReset (ops : List StatsOp) : List EngineOp :=
  ops.foldl (fun calls op =>
    match op with
    | .call op => calls ++ [op]
    | .reset => []) []

theorem sinceReset_call (ops : List StatsOp) (op : EngineOp) :
    sinceReset (ops ++ [.call op]) = sinceReset ops ++ [op] := by
  rw [sinceReset, List.foldl_append]
  rfl

theorem sinceReset_reset (ops : List StatsOp) : sinceReset (ops ++ [.reset]) = [] := by
  rw [sinceReset, List.foldl_append]
  rfl

namespace EngineStats

/-- The counters after some accepted and some rejected submissions: the total
lies between what the extreme latencies would give for the accepted ones. -/
structure Times (stats : EngineStats) (accepted rejected : Nat) : Prop where
  orders : stats.totalOrders = accepted + rejected
  lower : accepted * stats.minLatencyNs ≤ stats.totalLatencyNs
  upper : stats.totalLatencyNs ≤ accepted * stats.maxLatencyNs

namespace Times

variable {stats : EngineStats} {accepted rejected : Nat}

theorem fresh : Times {} 0 0 where
  orders := rfl
  lower := Nat.le_of_eq (Nat.zero_mul _)
  upper := Nat.zero_le _

/-- A submission counts as rejected until its latency is recorded. -/
theorem countOrder (times : Times stats accepted rejected) :
    Times { stats with totalOrders := stats.totalOrders + 1 } accepted (rejected + 1) where
  orders := congrArg (· + 1) times.orders
  lower := times.lower
  upper := times.upper

theorem recordTrades (times : Times stats accepted rejected) (trades : List Trade) :
    Times (trades.foldl recordTrade stats) accepted rejected := by
  induction trades generalizing stats with
  | nil => exact times
  | cons trade trades induction =>
      apply induction
      exact ⟨times.orders, times.lower, times.upper⟩

theorem recordLatency (times : Times stats accepted (rejected + 1)) (latency : Nat) :
    Times (stats.recordLatency latency) (accepted + 1) rejected where
  orders := by
    have orders := times.orders
    change stats.totalOrders = accepted + 1 + rejected
    omega
  lower := by
    calc (accepted + 1) * min stats.minLatencyNs latency
        = accepted * min stats.minLatencyNs latency + min stats.minLatencyNs latency :=
          Nat.succ_mul _ _
      _ ≤ accepted * stats.minLatencyNs + latency :=
          Nat.add_le_add (Nat.mul_le_mul_left _ (Nat.min_le_left _ _)) (Nat.min_le_right _ _)
      _ ≤ stats.totalLatencyNs + latency := Nat.add_le_add_right times.lower _
  upper := by
    calc stats.totalLatencyNs + latency
        ≤ accepted * stats.maxLatencyNs + latency := Nat.add_le_add_right times.upper _
      _ ≤ accepted * max stats.maxLatencyNs latency + max stats.maxLatencyNs latency :=
          Nat.add_le_add (Nat.mul_le_mul_left _ (Nat.le_max_left _ _)) (Nat.le_max_right _ _)
      _ = (accepted + 1) * max stats.maxLatencyNs latency := (Nat.succ_mul _ _).symm

/-- Rejected orders do not raise the average. -/
theorem avg_le_max (times : Times stats accepted rejected) :
    stats.avgLatencyNs ≤ stats.maxLatencyNs := by
  unfold avgLatencyNs
  split
  · next positive =>
      have atMost : stats.totalLatencyNs ≤ stats.maxLatencyNs * stats.totalOrders := by
        calc stats.totalLatencyNs
            ≤ accepted * stats.maxLatencyNs := times.upper
          _ ≤ stats.totalOrders * stats.maxLatencyNs :=
              Nat.mul_le_mul_right _ (times.orders ▸ Nat.le_add_right _ _)
          _ = stats.maxLatencyNs * stats.totalOrders := Nat.mul_comm _ _
      rw [div_le_iff₀ (Nat.cast_pos.mpr positive)]
      exact_mod_cast atMost
  · exact Nat.cast_nonneg _

/-- With no rejected order the average does not lie below the smallest latency. -/
theorem min_le_avg (times : Times stats accepted 0) (positive : 0 < accepted) :
    stats.minLatencyNs ≤ stats.avgLatencyNs := by
  have orders : stats.totalOrders = accepted := times.orders
  unfold avgLatencyNs
  rw [orders, if_pos positive, le_div_iff₀ (Nat.cast_pos.mpr positive), mul_comm]
  exact_mod_cast times.lower

end Times

end EngineStats

namespace MatchingEngine

/-- Perform a call, or reset the statistics. -/
def stepStats (engine : MatchingEngine) : StatsOp → MatchingEngine × Option EngineOutput
  | .call op => ((engine.step op).1, some (engine.step op).2)
  | .reset => (engine.resetStats, none)

/-- A call counts as what it is. -/
theorem times_step {engine : MatchingEngine} {accepted rejected : Nat}
    (times : engine.stats.Times accepted rejected) (op : EngineOp) :
    (engine.step op).1.stats.Times (accepted + if op.accepted then 1 else 0)
      (rejected + if op.rejected then 1 else 0) := by
  cases op with
  | submit clock symbol side type price quantity =>
      have counted : ((engine.getOrderBook symbol).stats).Times accepted rejected := by
        rw [stats_getOrderBook]
        exact times
      unfold step submitOrder
      by_cases fails : rejects type price quantity = true
      · simp only [EngineOp.accepted, EngineOp.rejected, fails, if_true]
        exact ⟨counted.countOrder.orders, counted.lower, counted.upper⟩
      · simp only [EngineOp.accepted, EngineOp.rejected, fails]
        exact (counted.countOrder.recordTrades _).recordLatency _
  | cancel symbol orderId =>
      change (engine.cancelOrder symbol orderId).1.stats.Times accepted rejected
      unfold cancelOrder
      split
      · exact times
      · dsimp only
        split
        · exact ⟨times.orders, times.lower, times.upper⟩
        · exact times
  | reduce symbol orderId newQuantity =>
      change (engine.reduceOrder symbol orderId newQuantity).1.stats.Times accepted rejected
      unfold reduceOrder withBook
      rw [stats_getOrderBook]
      exact times

/-- The counters of a run are about the submissions since the last reset. -/
theorem times_run (ops : List StatsOp) :
    (Transition.run stepStats .new ops).1.stats.Times
      ((sinceReset ops).countP EngineOp.accepted) ((sinceReset ops).countP EngineOp.rejected) := by
  induction ops using List.reverseRecOn with
  | nil => exact .fresh
  | append_singleton ops op induction =>
      rw [Transition.run_append]
      cases op with
      | call op =>
          rw [sinceReset_call, List.countP_append, List.countP_append, List.countP_singleton,
            List.countP_singleton]
          exact times_step induction op
      | reset =>
          rw [sinceReset_reset]
          exact .fresh

/-- If some submission since the last reset was accepted and none was rejected,
the average latency lies between the smallest and the largest. -/
theorem latencies_coherent {ops : List StatsOp}
    (someAccepted : ∃ op ∈ sinceReset ops, op.accepted = true)
    (noneRejected : ∀ op ∈ sinceReset ops, op.rejected = false) :
    let stats := (Transition.run stepStats .new ops).1.stats
    stats.minLatencyNs ≤ stats.avgLatencyNs ∧ stats.avgLatencyNs ≤ stats.maxLatencyNs := by
  intro stats
  have times : stats.Times _ _ := times_run ops
  have none : (sinceReset ops).countP EngineOp.rejected = 0 := by
    rw [List.countP_eq_zero]
    intro op member
    simp [noneRejected op member]
  rw [none] at times
  exact ⟨times.min_le_avg (List.countP_pos_iff.mpr someAccepted), times.avg_le_max⟩

/-- A bid at price 1 whose clock advances by `tick` at every reading. -/
def timedBid (tick : Nat) (quantity : Quantity) : StatsOp :=
  .call (.submit (fun reading => tick * reading) [65] .buy .limit (.finite 1) quantity)

/-- A rejected order before a reset, and then latencies of 10 and 20. -/
theorem latencies_coherent_after_reset :
    let stats := (Transition.run stepStats .new
      [timedBid 5 0, .reset, timedBid 5 1, timedBid 10 1]).1.stats
    stats.minLatencyNs = 10 ∧ stats.maxLatencyNs = 20 ∧
      stats.minLatencyNs ≤ stats.avgLatencyNs ∧ stats.avgLatencyNs ≤ stats.maxLatencyNs := by
  intro stats
  exact ⟨by decide +kernel, by decide +kernel,
    latencies_coherent ⟨_, List.mem_cons_self, by decide +kernel⟩ (by decide +kernel)⟩

/-- An order that takes 10 and then a rejected one: the average is 5. -/
theorem average_below_minimum :
    let stats := (Transition.run stepStats .new [timedBid 5 1, timedBid 5 0]).1.stats
    stats.minLatencyNs = 10 ∧ stats.maxLatencyNs = 10 ∧ stats.avgLatencyNs = 5 := by
  decide +kernel

end MatchingEngine

end OrderBookExchange
