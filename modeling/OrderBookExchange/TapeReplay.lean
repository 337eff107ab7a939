import OrderBookExchange.SymbolIndependence
import OrderBookExchange.TapeRows

/-!
# Replay against the clock

The harness reads the clock around every call of the engine, records positive
latencies and divides by the duration of the replay.  The engine stores clock
readings in orders and trades, and the tape has timestamps of its own.  None of
them reaches the trades, the books or the counters: two replays of one tape
agree, timestamps aside, whatever their clocks and the tape's timestamps say.
-/

namespace OrderBookExchange

/-- The readings of one row: before the call of the engine, during it and
after it. -/
structure RowClock where
  before : Int
  engine : Clock
  after : Int

/-- The readings of a replay. -/
structure ReplayClock where
  start : Int
  rows : Nat → RowClock
  finish : Int

/-- A harness in its loop, with the trades its callback has seen and the
latencies it has recorded. -/
structure Replay where
  harness : ReplayHarness
  trades : List Trade
  latencies : List Int

namespace Replay

def new (risk : Option RiskChecker) : Replay where
  harness := .new risk
  trades := []
  latencies := []

/-- One delivered event.  A row is measured if it calls the engine, and its
latency is recorded if it is positive. -/
def step (replay : Replay) (event : ReplayEvent) (clock : RowClock) : Replay :=
  let stepped := replay.harness.step (event, clock.engine)
  let submits := stepped.2.isSome
  let measured := submits || !event.isNew && event.isCancel
  let latency := clock.after - clock.before
  { harness := stepped.1
    trades :=
      if submits then
        replay.trades ++ (replay.harness.engine.submitOrder clock.engine event.symbol event.side
          event.type event.price event.quantity).2.2
      else replay.trades
    latencies :=
      if measured ∧ 0 < latency then replay.latencies ++ [latency] else replay.latencies }

/-- The loop over the events of a reader.  The fuel bounds the events, each of
which takes a line. -/
def loop (conversions : Conversions) :
    Nat → (Nat → RowClock) → TapeReader → ReplayEvent → Replay → Replay
  | 0, _, _, _, replay => replay
  | fuel + 1, clocks, reader, event, replay =>
      let read := reader.next conversions event
      if read.2.2 then
        loop conversions fuel (fun index => clocks (index + 1)) read.1 read.2.1
          (replay.step read.2.1 (clocks 0))
      else replay

/-- What `replay` returns besides its counters, latency percentiles left out. -/
structure Report where
  result : ReplayResult
  totalDurationNs : Int
  throughputOpsPerSec : ℚ

def report (replay : Replay) (clock : ReplayClock) : Report :=
  let duration := clock.finish - clock.start
  { result := replay.harness.result
    totalDurationNs := duration
    throughputOpsPerSec :=
      if 0 < duration then replay.harness.result.eventsProcessed * 10 ^ 9 / duration else 0 }

/-- Replay a file on a fresh engine.  The event the loop reuses starts out
uninitialised. -/
def replayFile (conversions : Conversions) (risk : Option RiskChecker) (clock : ReplayClock)
    (uninitialised : ReplayEvent) (file : Text) : Replay × Report :=
  let reader := TapeReader.new file
  let replay := loop conversions (reader.lines.length + 1) clock.rows reader uninitialised
    (new risk)
  (replay, replay.report clock)

/-- A harness on an engine that may have been used before. -/
def on (engine : MatchingEngine) (risk : Option RiskChecker) : Replay where
  harness := { ReplayHarness.new risk with engine }
  trades := []
  latencies := []

/-- Replay a file on an engine that may have been used before. -/
def replayFileOn (conversions : Conversions) (engine : MatchingEngine) (risk : Option RiskChecker)
    (clock : ReplayClock) (uninitialised : ReplayEvent) (file : Text) : Replay × Report :=
  let reader := TapeReader.new file
  let replay := loop conversions (reader.lines.length + 1) clock.rows reader uninitialised
    (on engine risk)
  (replay, replay.report clock)

theorem replayFileOn_new (conversions : Conversions) :
    replayFileOn conversions .new = replayFile conversions :=
  rfl

/-- Events one after the other. -/
def steps : (Nat → RowClock) → Replay → List ReplayEvent → Replay
  | _, replay, [] => replay
  | clocks, replay, event :: events =>
      steps (fun index => clocks (index + 1)) (replay.step event (clocks 0)) events

/-- The loop goes through the events of the lines, and its fuel lasts. -/
theorem loop_eq (conversions : Conversions) (fuel : Nat) (clocks : Nat → RowClock)
    (reader : TapeReader) (event : ReplayEvent) (replay : Replay)
    (enough : reader.lines.length < fuel) :
    loop conversions fuel clocks reader event replay =
      replay.steps clocks (reader.lines.filterMap conversions.lineEvent) := by
  obtain ⟨lines, count⟩ := reader
  induction lines generalizing fuel clocks count event replay with
  | nil =>
      cases fuel with
      | zero => rfl
      | succ fuel => rfl
  | cons line lines ih =>
      simp only [List.length_cons] at enough ih
      obtain ⟨fuel, rfl⟩ : ∃ smaller, fuel = smaller + 1 := ⟨fuel - 1, by omega⟩
      cases delivered : conversions.lineEvent line with
      | none =>
          obtain ⟨left, skips⟩ := TapeReader.nextLine_skips delivered count event lines
          rw [List.filterMap_cons_none delivered,
            ← ih (fuel + 1) clocks left replay count (by omega), loop,
            TapeReader.next, skips]
          rfl
      | some row =>
          rw [List.filterMap_cons_some delivered, steps,
            ← ih fuel (fun index => clocks (index + 1)) row (replay.step row (clocks 0))
              (count + 1) (by omega), loop, TapeReader.next,
            TapeReader.nextLine_delivers delivered]
          rfl

theorem replayFileOn_eq (conversions : Conversions) (engine : MatchingEngine)
    (risk : Option RiskChecker) (clock : ReplayClock) (uninitialised : ReplayEvent) (file : Text) :
    (replayFileOn conversions engine risk clock uninitialised file).1 =
      (on engine risk).steps clock.rows
        ((TapeReader.new file).lines.filterMap conversions.lineEvent) :=
  loop_eq conversions _ clock.rows _ _ _ (Nat.lt_succ_self _)

theorem replayFile_eq (conversions : Conversions) (risk : Option RiskChecker) (clock : ReplayClock)
    (uninitialised : ReplayEvent) (file : Text) :
    (replayFile conversions risk clock uninitialised file).1 =
      (new risk).steps clock.rows
        ((TapeReader.new file).lines.filterMap conversions.lineEvent) := by
  rw [← replayFileOn_new]
  exact replayFileOn_eq conversions .new risk clock uninitialised file

end Replay

/-! ### Engines that agree, timestamps aside -/

theorem callTally_untimed (op : EngineOp) (output : EngineOutput) :
    callTally (op.untimed, output.untimed) = callTally (op, output) := by
  have tradesEq : (output.untimed.trades.map Trade.tally).sum =
      (output.trades.map Trade.tally).sum := by
    rw [EngineOutput.trades_untimed, List.map_map]
    rfl
  have countsEq : callCounts (op.untimed, output.untimed) = callCounts (op, output) := by
    cases op <;> cases output <;> rfl
  rw [callTally, callTally, tradesEq, countsEq]

namespace MatchingEngine

/-- Two engines with the same books, timestamps aside. -/
structure SameBooks (left right : MatchingEngine) : Prop where
  opened : ∀ symbol, symbol ∈ left.books ↔ symbol ∈ right.books
  books : ∀ symbol, (left.book symbol).untimed = (right.book symbol).untimed

variable {left right : MatchingEngine}

theorem SameBooks.refl (engine : MatchingEngine) : SameBooks engine engine :=
  ⟨fun _ => Iff.rfl, fun _ => rfl⟩

/-- Calls that differ in their clocks only keep engines the same, and return
the same. -/
theorem SameBooks.step (same : SameBooks left right) {op other : EngineOp}
    (opEq : op.untimed = other.untimed) :
    SameBooks (left.step op).1 (right.step other).1 ∧
      (left.step op).2.untimed = (right.step other).2.untimed := by
  have symbolEq : op.symbol = other.symbol := by
    rw [← EngineOp.symbol_untimed, opEq, EngineOp.symbol_untimed]
  have opensEq : op.opensBook = other.opensBook := by
    rw [← EngineOp.opensBook_untimed, opEq, EngineOp.opensBook_untimed]
  have stepped : ∀ symbol,
      (((left.book symbol).step op).1.untimed, ((left.book symbol).step op).2.untimed) =
        (((right.book symbol).step other).1.untimed,
          ((right.book symbol).step other).2.untimed) := by
    intro symbol
    rw [← OrderBook.untimed_step, same.books, opEq, OrderBook.untimed_step]
  refine ⟨⟨?_, ?_⟩, ?_⟩
  · intro symbol
    rw [mem_books_step, mem_books_step, same.opened, symbolEq, opensEq]
  · intro symbol
    rw [book_step, book_step, symbolEq]
    split
    · exact congrArg Prod.fst (stepped other.symbol)
    · exact same.books symbol
  · rw [output_step, output_step, symbolEq]
    exact congrArg Prod.snd (stepped other.symbol)

theorem SameBooks.submitOrder (same : SameBooks left right) (clock otherClock : Clock)
    (symbol : Symbol) (side : Side) (type : OrderType) (price : Price) (quantity : Quantity) :
    SameBooks (left.submitOrder clock symbol side type price quantity).1
        (right.submitOrder otherClock symbol side type price quantity).1 ∧
      (left.submitOrder clock symbol side type price quantity).2.1 =
        (right.submitOrder otherClock symbol side type price quantity).2.1 ∧
      (left.submitOrder clock symbol side type price quantity).2.2.map Trade.untimed =
        (right.submitOrder otherClock symbol side type price quantity).2.2.map Trade.untimed := by
  obtain ⟨engines, outputs⟩ := same.step
    (show (EngineOp.submit clock symbol side type price quantity).untimed =
      (EngineOp.submit otherClock symbol side type price quantity).untimed from rfl)
  exact ⟨engines, EngineOutput.submitted.inj outputs⟩

theorem SameBooks.cancelOrder (same : SameBooks left right) (symbol : Symbol) (orderId : Nat) :
    SameBooks (left.cancelOrder symbol orderId).1 (right.cancelOrder symbol orderId).1 :=
  (same.step (rfl : (EngineOp.cancel symbol orderId).untimed = _)).1

/-- Calls that differ in their clocks only add the same to the counters. -/
theorem SameBooks.tally_step (same : SameBooks left right)
    (tallies : left.stats.tally = right.stats.tally) (op other : EngineOp)
    (opEq : op.untimed = other.untimed) :
    (left.step op).1.stats.tally = (right.step other).1.stats.tally := by
  have outputEq := (same.step opEq).2
  rw [MatchingEngine.tally_step, MatchingEngine.tally_step, tallies, ← callTally_untimed op,
    opEq, outputEq, callTally_untimed]

end MatchingEngine

/-! ### Replays that agree, timestamps aside -/

def ReplayEvent.untimed (event : ReplayEvent) : ReplayEvent :=
  { event with timestampNs := 0 }

theorem ReplayResult.foldl_countTrade_untimed (result : ReplayResult) (trades : List Trade) :
    (trades.map Trade.untimed).foldl countTrade result = trades.foldl countTrade result := by
  rw [List.foldl_map]
  rfl

namespace Replay

/-- Two replays that agree on everything but timestamps and measurements. -/
structure Same (left right : Replay) : Prop where
  engine : left.harness.engine.SameBooks right.harness.engine
  risk : left.harness.risk = right.harness.risk
  idMap : left.harness.idMap = right.harness.idMap
  result : left.harness.result = right.harness.result
  trades : left.trades.map Trade.untimed = right.trades.map Trade.untimed

theorem same_new (risk : Option RiskChecker) : Same (new risk) (new risk) :=
  ⟨.refl _, rfl, rfl, rfl, rfl⟩

theorem step_untimed (replay : Replay) (event : ReplayEvent) (clock : RowClock) :
    replay.step event.untimed clock = replay.step event clock :=
  rfl

/-- One event, read against two clocks. -/
theorem Same.step {left right : Replay} (same : Same left right) (event : ReplayEvent)
    (clock otherClock : RowClock) : Same (left.step event clock) (right.step event otherClock) := by
  obtain ⟨⟨leftEngine, risk, idMap, result⟩, leftTrades, leftLatencies⟩ := left
  obtain ⟨⟨rightEngine, otherRisk, otherIdMap, otherResult⟩, rightTrades, rightLatencies⟩ := right
  obtain ⟨engines, rfl, rfl, rfl, trades⟩ := same
  dsimp only at engines trades
  unfold Replay.step ReplayHarness.step
  dsimp only
  by_cases isNew : event.isNew = true
  · rw [if_pos isNew, if_pos isNew]
    unfold ReplayHarness.replayNew
    dsimp only
    by_cases rejected : (riskGate risk event.symbol event.side event.type event.price
        event.quantity).2 ≠ .none
    · rw [if_pos rejected, if_pos rejected]
      exact ⟨engines, rfl, rfl, rfl, trades⟩
    · rw [if_neg rejected, if_neg rejected]
      obtain ⟨submitted, idEq, newTrades⟩ := engines.submitOrder clock.engine otherClock.engine
        event.symbol event.side event.type event.price event.quantity
      refine ⟨submitted, rfl, ?_, ?_, ?_⟩
      · simp only [idEq]
      · dsimp only
        rw [← ReplayResult.foldl_countTrade_untimed, newTrades,
          ReplayResult.foldl_countTrade_untimed]
      · simp only [Option.isSome_some, if_true, List.map_append, trades, newTrades]
  · rw [if_neg isNew, if_neg isNew]
    by_cases isCancel : event.isCancel = true
    · rw [if_pos isCancel, if_pos isCancel]
      exact ⟨engines.cancelOrder _ _, rfl, rfl, rfl, trades⟩
    · rw [if_neg isCancel, if_neg isCancel]
      exact ⟨engines, rfl, rfl, rfl, trades⟩

theorem Same.steps {left right : Replay} (same : Same left right)
    {events others : List ReplayEvent}
    (eventsEq : events.map ReplayEvent.untimed = others.map ReplayEvent.untimed)
    (clocks otherClocks : Nat → RowClock) :
    Same (left.steps clocks events) (right.steps otherClocks others) := by
  induction events generalizing left right others clocks otherClocks with
  | nil =>
      obtain rfl : others = [] := List.map_eq_nil_iff.mp eventsEq.symm
      exact same
  | cons event events ih =>
      cases others with
      | nil => simp at eventsEq
      | cons other others =>
          rw [List.map_cons, List.map_cons, List.cons.injEq] at eventsEq
          apply ih _ eventsEq.2
          rw [← step_untimed left, eventsEq.1, step_untimed]
          exact same.step other (clocks 0) (otherClocks 0)

end Replay

/-! ### Tapes that differ in their timestamps -/

namespace Conversions

variable (conversions : Conversions)

/-- Two lines that are equal, or have the same fields behind a timestamp that
converts. -/
def SameButTimestamp (line other : Text) : Prop :=
  line = other ∨
    ∃ timestamp otherTimestamp fields,
      splitCsv line = timestamp :: fields ∧ splitCsv other = otherTimestamp :: fields ∧
        (conversions.stoll timestamp).isSome = true ∧
        (conversions.stoll otherTimestamp).isSome = true

variable {conversions}

/-- The timestamp of a row goes into its event's timestamp and nowhere else. -/
theorem rowEvent_timestamp {timestamp other : Text} {value otherValue : Int}
    (parses : conversions.stoll timestamp = some value)
    (otherParses : conversions.stoll other = some otherValue) (fields : List Text) :
    (conversions.rowEvent (timestamp :: fields)).map ReplayEvent.untimed =
      (conversions.rowEvent (other :: fields)).map ReplayEvent.untimed := by
  unfold rowEvent
  simp only [List.getD_cons_zero, List.getD_cons_succ, parses, otherParses, Option.bind_eq_bind,
    Option.bind_some]
  cases conversions.parsePrice (fields.getD 3 []) with
  | none => rfl
  | some price =>
      cases conversions.parseQuantity (fields.getD 4 []) with
      | none => rfl
      | some quantity => cases conversions.parseOrderId (fields.getD 6 []) <;> rfl

theorem SameButTimestamp.lineEvent {line other : Text}
    (same : conversions.SameButTimestamp line other) :
    (conversions.lineEvent line).map ReplayEvent.untimed =
      (conversions.lineEvent other).map ReplayEvent.untimed := by
  rcases same with rfl | ⟨timestamp, otherTimestamp, fields, lineEq, otherEq, parses, otherParses⟩
  · rfl
  · obtain ⟨value, valueEq⟩ := Option.isSome_iff_exists.mp parses
    obtain ⟨otherValue, otherValueEq⟩ := Option.isSome_iff_exists.mp otherParses
    rw [Conversions.lineEvent, Conversions.lineEvent, lineEq, otherEq, List.length_cons,
      List.length_cons]
    by_cases short : fields.length + 1 < 8
    · rw [if_pos short, if_pos short]
    · rw [if_neg short, if_neg short, rowEvent_timestamp valueEq otherValueEq]

theorem lineEvents_untimed {lines others : List Text}
    (same : List.Forall₂ conversions.SameButTimestamp lines others) :
    (lines.filterMap conversions.lineEvent).map ReplayEvent.untimed =
      (others.filterMap conversions.lineEvent).map ReplayEvent.untimed := by
  rw [List.map_filterMap, List.map_filterMap]
  induction same with
  | nil => rfl
  | cons first rest ih => rw [List.filterMap_cons, List.filterMap_cons, first.lineEvent, ih]

end Conversions

namespace Replay

/-- The trades, books and counters of a replay do not depend on the clocks, nor
on the tape's timestamps as long as they convert. -/
theorem replay_time_independent (conversions : Conversions) (risk : Option RiskChecker)
    (clock otherClock : ReplayClock) (uninitialised otherUninitialised : ReplayEvent)
    {tape other : Text}
    (same : List.Forall₂ conversions.SameButTimestamp (getlines newline tape)
      (getlines newline other)) :
    let left := replayFile conversions risk clock uninitialised tape
    let right := replayFile conversions risk otherClock otherUninitialised other
    left.1.trades.map Trade.untimed = right.1.trades.map Trade.untimed ∧
      (∀ symbol, (left.1.harness.engine.books.lookup symbol).map OrderBook.untimed =
        (right.1.harness.engine.books.lookup symbol).map OrderBook.untimed) ∧
      left.2.result = right.2.result := by
  have behindHeader {lines others : List Text}
      (same : List.Forall₂ conversions.SameButTimestamp lines others) :
      List.Forall₂ conversions.SameButTimestamp lines.tail others.tail := by
    cases same with
    | nil => exact .nil
    | cons header rows => exact rows
  have linesSame : List.Forall₂ conversions.SameButTimestamp (TapeReader.new tape).lines
      (TapeReader.new other).lines := behindHeader same
  have agree := (same_new risk).steps (Conversions.lineEvents_untimed linesSame) clock.rows
    otherClock.rows
  intro left right
  have leftEq : left.1 = (new risk).steps clock.rows
      ((TapeReader.new tape).lines.filterMap conversions.lineEvent) :=
    replayFile_eq conversions risk clock uninitialised tape
  have rightEq : right.1 = (new risk).steps otherClock.rows
      ((TapeReader.new other).lines.filterMap conversions.lineEvent) :=
    replayFile_eq conversions risk otherClock otherUninitialised other
  rw [← leftEq, ← rightEq] at agree
  refine ⟨agree.trades, ?_, agree.result⟩
  intro symbol
  exact MatchingEngine.lookup_untimed (agree.engine.opened symbol) (agree.engine.books symbol)

/-- A header, a sell row and a buy row for `"A"`, with the given timestamps. -/
def crossedTape (first second : Text) : Text :=
  [104, newline] ++ first ++ [comma, 65, comma, 83, comma, 76, comma, 49, comma, 49, comma, 78,
    comma, 49, newline] ++ second ++ [comma, 65, comma, 66, comma, 76, comma, 49, comma, 49,
    comma, 78, comma, 50, newline]

/-- The rows trade, whatever the timestamps and the clocks are. -/
theorem replay_time_independent_crossed :
    let conversions : Conversions := .library TapeReader.exactStod
    let clock (offset : Nat) : ReplayClock :=
      { start := 0
        rows := fun row =>
          { before := row, engine := fun reading => row + reading + offset, after := row + offset }
        finish := offset }
    let left := replayFile conversions none (clock 0) ⟨0, [], .buy, .limit, 0, 0, 'N', 0⟩
      (crossedTape [53] [54])
    let right := replayFile conversions none (clock 7) ⟨1, [66], .sell, .ioc, .nan, 2, 'C', 9⟩
      (crossedTape [49, 49] [49])
    left.1.trades.length = 1 ∧
      left.1.trades.map Trade.untimed = right.1.trades.map Trade.untimed ∧
      left.1.trades ≠ right.1.trades ∧ left.1.latencies ≠ right.1.latencies := by
  intro conversions clock left right
  have same : List.Forall₂ conversions.SameButTimestamp
      (getlines newline (crossedTape [53] [54])) (getlines newline (crossedTape [49, 49] [49])) :=
    .cons (.inl rfl)
      (.cons (.inr ⟨_, _, _, rfl, rfl, by decide +kernel, by decide +kernel⟩)
        (.cons (.inr ⟨_, _, _, rfl, rfl, by decide +kernel, by decide +kernel⟩) .nil))
  exact ⟨by decide +kernel,
    (replay_time_independent conversions none (clock 0) (clock 7) _ _ same).1,
    by decide +kernel, by decide +kernel⟩

end Replay

end OrderBookExchange
