import OrderBookExchange.EngineTally
import OrderBookExchange.OrderCensus

/-!
# The statistics balance

The counters of the engine against what a listener sees: results of calls,
trades handed to the callback, and the number of orders resting over all books.
-/

namespace OrderBookExchange

section Callback

variable {Listener : Type} (callback : Listener → Trade → Listener)

/-- The loop of `submit_order` over the trades of a match: each one is added to
the statistics and handed to the callback, which may change its own state. -/
def reportTrades : EngineStats → Listener → List Trade → EngineStats × Listener
  | stats, listener, [] => (stats, listener)
  | stats, listener, trade :: trades =>
      reportTrades (stats.recordTrade trade) (callback listener trade) trades

theorem reportTrades_eq (stats : EngineStats) (listener : Listener) (trades : List Trade) :
    reportTrades callback stats listener trades =
      (trades.foldl EngineStats.recordTrade stats, trades.foldl callback listener) := by
  induction trades generalizing stats listener with
  | nil => rfl
  | cons trade trades ih => rw [reportTrades, ih, List.foldl_cons, List.foldl_cons]

namespace MatchingEngine

/-- `submit_order` with a trade callback set. -/
def submitOrderTo (engine : MatchingEngine) (listener : Listener) (clock : Clock)
    (symbol : Symbol) (side : Side) (type : OrderType) (price : Price) (quantity : Quantity) :
    (MatchingEngine × Listener) × Nat × List Trade :=
  let engine := engine.getOrderBook symbol
  let stats := { engine.stats with totalOrders := engine.stats.totalOrders + 1 }
  if rejects type price quantity then
    (({ engine with stats := { stats with totalRejects := stats.totalRejects + 1 } }, listener),
      0, [])
  else
    let result := (engine.book symbol).acceptOrder clock side type
      (effectivePrice side type price) quantity
    let reported := reportTrades callback stats listener result.2.2
    let latency := clock (2 + result.2.2.length) - clock 0
    (({ engine.withBook symbol result.1 with stats := reported.1.recordLatency latency },
        reported.2),
      result.2.1, result.2.2)

/-- The callback sees the trades of a submission and changes nothing else. -/
theorem submitOrderTo_eq (engine : MatchingEngine) (listener : Listener) (clock : Clock)
    (symbol : Symbol) (side : Side) (type : OrderType) (price : Price) (quantity : Quantity) :
    engine.submitOrderTo callback listener clock symbol side type price quantity =
      (((engine.submitOrder clock symbol side type price quantity).1,
          (engine.submitOrder clock symbol side type price quantity).2.2.foldl callback listener),
        (engine.submitOrder clock symbol side type price quantity).2) := by
  unfold submitOrderTo submitOrder
  by_cases rejected : rejects type price quantity = true
  · simp only [rejected, if_true, List.foldl_nil]
  · simp only [rejected, Bool.false_eq_true, if_false, reportTrades_eq]

/-- One call on an engine whose trade callback is set. -/
def stepTo (state : MatchingEngine × Listener) :
    EngineOp → (MatchingEngine × Listener) × EngineOutput
  | .submit clock symbol side type price quantity =>
      let result := state.1.submitOrderTo callback state.2 clock symbol side type price quantity
      (result.1, .submitted result.2.1 result.2.2)
  | op => (((state.1.step op).1, state.2), (state.1.step op).2)

theorem stepTo_eq (engine : MatchingEngine) (listener : Listener) (op : EngineOp) :
    stepTo callback (engine, listener) op =
      (((engine.step op).1, (engine.step op).2.trades.foldl callback listener),
        (engine.step op).2) := by
  cases op with
  | submit clock symbol side type price quantity =>
      rw [stepTo, submitOrderTo_eq]
      rfl
  | cancel symbol orderId => rfl
  | reduce symbol orderId newQuantity => rfl

/-- Over a run the callback gets every reported trade once, in order. -/
theorem run_stepTo (engine : MatchingEngine) (listener : Listener) (ops : List EngineOp) :
    Transition.run (stepTo callback) (engine, listener) ops =
      (((Transition.run step engine ops).1,
          (reportedTrades (Transition.history step engine ops)).foldl callback listener),
        (Transition.run step engine ops).2) := by
  induction ops generalizing engine listener with
  | nil => rfl
  | cons op ops ih =>
      rw [Transition.run_cons, stepTo_eq, ih, Transition.history_cons, reportedTrades_cons,
        List.foldl_append, Transition.run_cons]

end MatchingEngine

end Callback

namespace MatchingEngine

/-- The orders on all books. -/
def restingOrders (engine : MatchingEngine) : Nat :=
  ∑ symbol ∈ engine.books.keys, (engine.book symbol).orderCount

/-- Accepted orders whose trades add up to their quantity. -/
def filledOrders (history : List (EngineOp × EngineOutput)) : Nat :=
  (submissions history).countP fun submission =>
    filledIn (historyOn submission.symbol history) submission

/-- Accepted market and IOC orders that were not filled. -/
def discardedOrders (history : List (EngineOp × EngineOutput)) : Nat :=
  (submissions history).countP fun submission =>
    discardedIn (historyOn submission.symbol history) submission

/-! ### Sums over the symbols -/

section Symbols

variable (ops : List EngineOp)

theorem mem_books_of_submission {submission : Submission}
    (member : submission ∈ submissions (Transition.history step .new ops)) :
    submission.symbol ∈ (Transition.run step .new ops).1.books.keys := by
  obtain ⟨entry, inHistory, recorded⟩ := List.mem_filterMap.mp member
  obtain ⟨clock, opEq, -⟩ := submissionOf_eq_some recorded
  rw [Finmap.mem_keys, mem_books_run]
  refine Or.inr ⟨entry.1, (List.of_mem_zip inHistory).1, ?_, ?_⟩
  · rw [opEq]
    rfl
  · rw [opEq]
    rfl

theorem mem_books_of_cancelled {entry : EngineOp × EngineOutput}
    (member : entry ∈ Transition.history step .new ops)
    (cancelled : (cancelledId entry).isSome = true) :
    entry.1.symbol ∈ (Transition.run step .new ops).1.books.keys := by
  obtain ⟨named, namedEq⟩ := Option.isSome_iff_exists.mp cancelled
  have onSymbol : entry ∈ historyOn entry.1.symbol (Transition.history step .new ops) :=
    List.mem_filter.mpr ⟨member, by simp⟩
  rw [historyOn_new] at onSymbol
  have cancelsNamed : cancels named entry = true := by
    rw [cancels_eq, namedEq]
    simp
  obtain ⟨submission, submitted, -⟩ := OrderBook.issued_of_cancels _ _ _ onSymbol cancelsNamed
  rw [← historyOn_new, mem_submissions_historyOn] at submitted
  exact submitted.2 ▸ mem_books_of_submission ops submitted.1

theorem countP_submissions
    (counted : List (EngineOp × EngineOutput) → Submission → Bool) :
    let history := Transition.history step .new ops
    (submissions history).countP
        (fun submission => counted (historyOn submission.symbol history) submission) =
      ∑ symbol ∈ (Transition.run step .new ops).1.books.keys,
        (submissions (historyOn symbol history)).countP (counted (historyOn symbol history)) := by
  intro history
  rw [ListCounts.countP_eq_sum_filter Submission.symbol (Transition.run step .new ops).1.books.keys
    _ fun submission member _ => mem_books_of_submission ops member]
  apply Finset.sum_congr rfl
  intro symbol _
  rw [submissions_historyOn]
  apply List.countP_congr
  intro submission member
  have named : submission.symbol = symbol := by simpa using (List.mem_filter.mp member).2
  rw [named]

/-- The orders on all books are the accepted ones less those filled, discarded
or cancelled. -/
theorem restingOrders_balance (plain : ∀ op ∈ ops, op.NoReduce) :
    let history := Transition.history step .new ops
    (Transition.run step .new ops).1.restingOrders + filledOrders history +
        discardedOrders history + history.countP (fun entry => (cancelledId entry).isSome) =
      (submissions history).length := by
  intro history
  have accepted := countP_submissions ops fun _ _ => true
  rw [List.countP_true] at accepted
  have cancelled := ListCounts.countP_eq_sum_filter
    (fun entry : EngineOp × EngineOutput => entry.1.symbol)
    (Transition.run step .new ops).1.books.keys (fun entry => (cancelledId entry).isSome)
    (fun _ member => mem_books_of_cancelled ops member)
  rw [show (submissions history).length = _ from accepted, restingOrders, filledOrders,
    discardedOrders, countP_submissions, countP_submissions,
    show history.countP _ = _ from cancelled, ← Finset.sum_add_distrib,
    ← Finset.sum_add_distrib, ← Finset.sum_add_distrib]
  apply Finset.sum_congr rfl
  intro symbol _
  have onSymbol := OrderBook.census symbol defaultPoolSize (callsOn symbol ops)
    fun op member => plain op (List.mem_filter.mp member).1
  dsimp only at onSymbol
  rw [← historyOn_new, ← book_run_new] at onSymbol
  exact onSymbol

end Symbols

/-! ### The counters -/

/-- A submission returns an identifier exactly if it passes validation. -/
theorem submissionOf_history (ops : List EngineOp) {entry : EngineOp × EngineOutput}
    (member : entry ∈ Transition.history step .new ops) :
    (if submits entry then 1 else 0) =
      (if fails entry then 1 else 0) + if (submissionOf entry).isSome then 1 else 0 := by
  obtain ⟨op, output⟩ := entry
  obtain ⟨before, after, -, outputEq⟩ := Transition.exists_of_mem_history member
  dsimp only at outputEq
  rw [outputEq, output_step, book_run_new]
  cases op with
  | submit clock symbol side type price quantity =>
      by_cases rejected : rejects type price quantity = true
      · rw [OrderBook.step_submit_of_rejects _ clock symbol side rejected]
        simp [submits, fails, rejected, submissionOf]
      · rw [OrderBook.submissionOf_submit (OrderBook.nextOrderId_run_ne_zero _ _ _) clock symbol
          side rejected]
        simp [submits, fails, rejected]
  | cancel symbol orderId => rfl
  | reduce symbol orderId newQuantity => rfl

theorem countP_submits (ops : List EngineOp) :
    let history := Transition.history step .new ops
    history.countP submits = history.countP fails + (submissions history).length := by
  intro history
  have split : (history.map fun entry => if submits entry then 1 else 0) =
      history.map fun entry => (if fails entry then 1 else 0) +
        if (submissionOf entry).isSome then 1 else 0 :=
    List.map_congr_left fun entry member => submissionOf_history ops member
  rw [← ListCounts.sum_map_indicator, split, List.sum_map_add, ListCounts.sum_map_indicator,
    ListCounts.sum_map_indicator, submissions, List.length_filterMap_eq_countP]

/-- The counters after a run, read off its history. -/
theorem tally_run_new (ops : List EngineOp) :
    let history := Transition.history step .new ops
    let trades := reportedTrades history
    (Transition.run step .new ops).1.stats.tally =
      { orders := history.countP submits
        trades := trades.length
        cancels := history.countP fun entry => (cancelledId entry).isSome
        rejects := history.countP fails
        volume := (trades.map fun trade => trade.quantity.toNat).sum
        notional := trades.foldr
          (fun trade total => (trade.price.mul (.ofNat trade.quantity.toNat)).add total) 0 } := by
  intro history trades
  rw [tally_run, EngineStats.tally_new, zero_add, sum_callTally, sum_callCounts, sum_tally]
  ext1
  case trades => exact Nat.zero_add _
  case volume => exact Nat.zero_add _
  case notional => exact Double.zero_add _
  all_goals rfl

/-- After any submissions and cancels, the counters balance with the results of
the calls, with the trades that any callback was handed, each one once and in
order, and with the orders on all books. -/
theorem stats_balance {ops : List EngineOp} (plain : ∀ op ∈ ops, op.NoReduce) :
    let engine := (Transition.run step .new ops).1
    let history := Transition.history step .new ops
    let trades := reportedTrades history
    (∀ (Listener : Type) (callback : Listener → Trade → Listener) (listener : Listener),
      (Transition.run (stepTo callback) (.new, listener) ops).1 =
        (engine, trades.foldl callback listener)) ∧
      engine.stats.totalOrders = engine.stats.totalRejects + (submissions history).length ∧
      engine.stats.totalTrades = trades.length ∧
      engine.stats.totalVolume = (trades.map fun trade => trade.quantity.toNat).sum ∧
      engine.stats.totalNotional = trades.foldr
        (fun trade total => (trade.price.mul (.ofNat trade.quantity.toNat)).add total) 0 ∧
      engine.restingOrders + filledOrders history + discardedOrders history +
        engine.stats.totalCancels = (submissions history).length := by
  intro engine history trades
  have counters := tally_run_new ops
  have orders := congrArg Tally.orders counters
  have cancels := congrArg Tally.cancels counters
  have rejects := congrArg Tally.rejects counters
  refine ⟨?_, ?_, congrArg Tally.trades counters, congrArg Tally.volume counters,
    congrArg Tally.notional counters, ?_⟩
  · intro Listener callback listener
    rw [run_stepTo]
  · rw [show engine.stats.totalOrders = _ from orders,
      show engine.stats.totalRejects = _ from rejects]
    exact countP_submits ops
  · rw [show engine.stats.totalCancels = _ from cancels]
    exact restingOrders_balance ops plain

/-- Seven calls on two symbols: a rejected order, one filled by a sweep that
leaves a part of another, a discarded remainder and a cancel. -/
theorem stats_balance_mixed :
    let ops : List EngineOp :=
      [.submit id [65] .buy .limit (.finite 10) 3, .submit id [65] .buy .limit 0 3,
        .submit id [65] .buy .limit (.finite 9) 4, .submit id [65] .sell .limit (.finite 9) 5,
        .submit id [66] .sell .ioc (.finite 1) 2, .submit id [66] .sell .limit (.finite 1) 2,
        .cancel [66] 2]
    let engine := (Transition.run step .new ops).1
    let history := Transition.history step .new ops
    (∀ op ∈ ops, op.NoReduce) ∧
      engine.restingOrders + filledOrders history + discardedOrders history +
        engine.stats.totalCancels = (submissions history).length ∧
      (filledOrders history, discardedOrders history, engine.stats.totalCancels,
        (submissions history).length) = (2, 1, 1, 5) := by
  intro ops engine history
  have plain : ∀ op ∈ ops, op.NoReduce := by decide +kernel
  obtain ⟨-, -, -, -, -, balance⟩ := stats_balance plain
  exact ⟨plain, balance, by decide +kernel⟩

end MatchingEngine

end OrderBookExchange
