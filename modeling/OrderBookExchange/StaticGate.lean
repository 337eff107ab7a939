import OrderBookExchange.TapeReplay
import OrderBookExchange.TapeRows

/-!
# The gate of a replay does not learn

The harness asks the risk checker about every new order, but its trade callback
never tells the checker about a fill.  Positions and exposure therefore stay as
they were when the replay began, and what the checker says about a row does not
depend on the rows before it.  A replay behind a checker is a replay without one
of the tape from which the refused rows have been struck.
-/

namespace OrderBookExchange

/-- Whether the checker, as it is, refuses the order of a row. -/
def RiskChecker.refuses (checker : RiskChecker) (event : ReplayEvent) : Bool :=
  event.isNew && decide (checker.rejectReason event.symbol event.side event.type event.price
    event.quantity ≠ .none)

/-! ### A tape without some of its rows -/

/-- The header and the rows that are not refused, each on a line of its own. -/
def strikeRefused (conversions : Conversions) (checker : RiskChecker) (file : Text) : Text :=
  match getlines newline file with
  | [] => []
  | header :: rows =>
      joined newline
        (header :: rows.filter fun row => !(conversions.lineEvent row).any checker.refuses) []

theorem not_mem_of_mem_getlines {delimiter : UInt8} {text piece : Text}
    (member : piece ∈ getlines delimiter text) : delimiter ∉ piece := by
  induction text generalizing piece with
  | nil => simp [getlines] at member
  | cons byte rest induction =>
      rw [getlines] at member
      split at member
      · rcases List.mem_cons.mp member with rfl | later
        · simp
        · exact induction later
      · next other =>
          split at member
          · rw [List.mem_singleton.mp member, List.mem_singleton]
            exact Ne.symm other
          · next first pieces shape =>
              rcases List.mem_cons.mp member with rfl | later
              · rw [List.mem_cons, not_or]
                exact ⟨Ne.symm other, induction (shape ▸ List.mem_cons_self)⟩
              · exact induction (shape ▸ List.mem_cons_of_mem first later)

theorem getlines_strikeRefused (conversions : Conversions) (checker : RiskChecker) (file : Text) :
    (TapeReader.new (strikeRefused conversions checker file)).lines =
      (TapeReader.new file).lines.filter
        fun row => !(conversions.lineEvent row).any checker.refuses := by
  unfold strikeRefused TapeReader.new
  cases shape : getlines newline file with
  | nil => rfl
  | cons header rows =>
      have plain : ∀ piece ∈ header :: rows.filter
          (fun row => !(conversions.lineEvent row).any checker.refuses), newline ∉ piece := by
        intro piece member
        have inFile : piece ∈ getlines newline file := by
          rw [shape]
          rcases List.mem_cons.mp member with rfl | kept
          · exact List.mem_cons_self
          · exact List.mem_cons_of_mem header (List.mem_filter.mp kept).1
        exact not_mem_of_mem_getlines inFile
      dsimp only
      rw [getlines_joined plain]
      simp [getlines]

theorem events_strikeRefused (conversions : Conversions) (checker : RiskChecker)
    (lines : List Text) :
    (lines.filter fun row => !(conversions.lineEvent row).any checker.refuses).filterMap
        conversions.lineEvent =
      (lines.filterMap conversions.lineEvent).filter fun event => !checker.refuses event := by
  induction lines with
  | nil => rfl
  | cons line lines induction =>
      cases delivered : conversions.lineEvent line with
      | none => simp [delivered, induction]
      | some event =>
          cases refused : checker.refuses event <;> simp [delivered, refused, induction]

/-! ### The two replays side by side -/

/-- The counters with some refused rows more. -/
def ReplayResult.withRefusals (result : ReplayResult) (refusals : Nat) : ReplayResult :=
  { result with
    eventsProcessed := result.eventsProcessed + refusals
    newOrders := result.newOrders + refusals
    riskRejections := result.riskRejections + refusals }

theorem ReplayResult.foldl_countTrade_withRefusals (result : ReplayResult) (refusals : Nat)
    (trades : List Trade) :
    trades.foldl countTrade (result.withRefusals refusals) =
      (trades.foldl countTrade result).withRefusals refusals := by
  induction trades generalizing result with
  | nil => rfl
  | cons trade trades induction => exact induction (result.countTrade trade)

namespace Replay

/-- A replay behind a checker and one without it that has not seen the refused
rows. -/
structure Shadows (checker : RiskChecker) (refusals : Nat) (gated plain : Replay) : Prop where
  gate : ∃ stats, gated.harness.risk = some { checker with stats }
  ungated : plain.harness.risk = none
  engine : gated.harness.engine.SameBooks plain.harness.engine
  idMap : gated.harness.idMap = plain.harness.idMap
  result : gated.harness.result = plain.harness.result.withRefusals refusals
  trades : gated.trades.map Trade.untimed = plain.trades.map Trade.untimed

variable {checker : RiskChecker} {refusals : Nat} {gated plain : Replay}

theorem shadows_new (checker : RiskChecker) :
    Shadows checker 0 (new (some checker)) (new none) where
  gate := ⟨checker.stats, rfl⟩
  ungated := rfl
  engine := .refl _
  idMap := rfl
  result := rfl
  trades := rfl

/-- The verdict on an order does not depend on the checker's statistics. -/
theorem riskGate_withStats (checker : RiskChecker) (stats : RiskStats) (event : ReplayEvent) :
    ∃ later, riskGate (some { checker with stats }) event.symbol event.side event.type event.price
        event.quantity =
      (some { checker with stats := later }, checker.rejectReason event.symbol event.side event.type
        event.price event.quantity) :=
  ⟨_, rfl⟩

/-- A refused row changes counters only. -/
theorem Shadows.refused (shadows : Shadows checker refusals gated plain) {event : ReplayEvent}
    (refused : checker.refuses event = true) (clock : RowClock) :
    Shadows checker (refusals + 1) (gated.step event clock) plain := by
  obtain ⟨⟨stats, gate⟩, ungated, engine, idMap, result, trades⟩ := shadows
  obtain ⟨later, verdict⟩ := riskGate_withStats checker stats event
  simp only [RiskChecker.refuses, Bool.and_eq_true, decide_eq_true_eq] at refused
  have stepEq : gated.harness.step (event, clock.engine) =
      ({ gated.harness with
          risk := some { checker with stats := later }
          result := gated.harness.result.withRefusals 1 }, none) := by
    rw [ReplayHarness.step, if_pos refused.1, ReplayHarness.replayNew]
    dsimp only
    rw [gate, verdict, if_pos refused.2]
    rfl
  unfold Replay.step
  rw [stepEq]
  constructor
  · exact ⟨later, rfl⟩
  · exact ungated
  · exact engine
  · exact idMap
  · dsimp only
    rw [result]
    rfl
  · exact trades

theorem Shadows.kept (shadows : Shadows checker refusals gated plain) {event : ReplayEvent}
    (kept : checker.refuses event = false) (clock otherClock : RowClock) :
    Shadows checker refusals (gated.step event clock) (plain.step event otherClock) := by
  obtain ⟨⟨engine, risk, idMap, result⟩, trades, latencies⟩ := gated
  obtain ⟨⟨otherEngine, otherRisk, otherIdMap, otherResult⟩, otherTrades, otherLatencies⟩ := plain
  obtain ⟨⟨stats, gate⟩, ungated, engines, idMaps, results, sameTrades⟩ := shadows
  dsimp only at gate ungated engines idMaps results sameTrades
  subst gate ungated idMaps results
  unfold Replay.step ReplayHarness.step
  dsimp only
  by_cases isNew : event.isNew = true
  · rw [if_pos isNew, if_pos isNew]
    obtain ⟨later, verdict⟩ := riskGate_withStats checker stats event
    have passed : checker.rejectReason event.symbol event.side event.type event.price
        event.quantity = .none := by
      simpa [RiskChecker.refuses, isNew] using kept
    rw [passed] at verdict
    unfold ReplayHarness.replayNew
    dsimp only
    rw [verdict, if_neg (not_not.mpr rfl), riskGate, if_neg (not_not.mpr rfl)]
    obtain ⟨submitted, idEq, newTrades⟩ := engines.submitOrder clock.engine otherClock.engine
      event.symbol event.side event.type event.price event.quantity
    constructor
    · exact ⟨later, rfl⟩
    · rfl
    · exact submitted
    · simp only [idEq]
    · dsimp only
      rw [← ReplayResult.foldl_countTrade_untimed, newTrades,
        ReplayResult.foldl_countTrade_untimed, ← ReplayResult.foldl_countTrade_withRefusals]
      congr 1
      simp only [ReplayResult.withRefusals, ReplayResult.mk.injEq, and_true]
      omega
    · simp only [Option.isSome_some, if_true, List.map_append, sameTrades, newTrades]
  · rw [if_neg isNew, if_neg isNew]
    by_cases isCancel : event.isCancel = true
    · rw [if_pos isCancel, if_pos isCancel]
      refine ⟨⟨stats, rfl⟩, rfl, engines.cancelOrder _ _, rfl, ?_, sameTrades⟩
      simp only [ReplayHarness.replayCancel, ReplayResult.withRefusals, ReplayResult.mk.injEq,
        and_true]
      omega
    · rw [if_neg isCancel, if_neg isCancel]
      refine ⟨⟨stats, rfl⟩, rfl, engines, rfl, ?_, sameTrades⟩
      simp only [ReplayResult.withRefusals, ReplayResult.mk.injEq, and_true]
      omega

theorem Shadows.steps (shadows : Shadows checker refusals gated plain) (events : List ReplayEvent)
    (clocks otherClocks : Nat → RowClock) :
    Shadows checker (refusals + events.countP checker.refuses) (gated.steps clocks events)
      (plain.steps otherClocks (events.filter fun event => !checker.refuses event)) := by
  induction events generalizing gated plain refusals clocks otherClocks with
  | nil => exact shadows
  | cons event events induction =>
      cases verdict : checker.refuses event with
      | true =>
          rw [List.countP_cons_of_pos verdict, List.filter_cons_of_neg (by simp [verdict]), steps]
          have later := induction (shadows.refused verdict (clocks 0))
            (fun index => clocks (index + 1)) otherClocks
          rw [Nat.add_right_comm] at later
          exact later
      | false =>
          rw [List.countP_cons_of_neg (by simp [verdict]),
            List.filter_cons_of_pos (by simp [verdict]), steps, steps]
          exact induction (shadows.kept verdict (clocks 0) (otherClocks 0)) _ _

/-- A replay behind a checker is one without it of the tape without the rows that
the checker, as it was at the start, refuses. -/
theorem gate_strikes_rows (conversions : Conversions) (checker : RiskChecker)
    (clock otherClock : ReplayClock) (uninitialised otherUninitialised : ReplayEvent)
    (file : Text) :
    let gated := replayFile conversions (some checker) clock uninitialised file
    let plain := replayFile conversions none otherClock otherUninitialised
      (strikeRefused conversions checker file)
    let events := (TapeReader.new file).lines.filterMap conversions.lineEvent
    gated.1.trades.map Trade.untimed = plain.1.trades.map Trade.untimed ∧
      (∀ symbol, (gated.1.harness.engine.books.lookup symbol).map OrderBook.untimed =
        (plain.1.harness.engine.books.lookup symbol).map OrderBook.untimed) ∧
      gated.2.result = plain.2.result.withRefusals (events.countP checker.refuses) ∧
      ∃ stats, gated.1.harness.risk = some { checker with stats } := by
  intro gated plain events
  have shadows := (shadows_new checker).steps events clock.rows otherClock.rows
  have gatedEq : gated.1 = (new (some checker)).steps clock.rows events :=
    replayFile_eq conversions (some checker) clock uninitialised file
  have plainEq : plain.1 = (new none).steps otherClock.rows
      (events.filter fun event => !checker.refuses event) := by
    rw [← events_strikeRefused, ← getlines_strikeRefused]
    exact replayFile_eq conversions none otherClock otherUninitialised _
  rw [← gatedEq, ← plainEq, Nat.zero_add] at shadows
  refine ⟨shadows.trades, ?_, shadows.result, shadows.gate⟩
  intro symbol
  exact MatchingEngine.lookup_untimed (shadows.engine.opened symbol) (shadows.engine.books symbol)

end Replay

end OrderBookExchange
