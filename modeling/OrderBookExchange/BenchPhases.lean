import OrderBookExchange.ThroughputBench

/-!
# The two phases of the benchmark

One phase times the whole loop and the other one each unit of work.  Both are
meant to execute the same work, so that the rate of the one and the distribution
of the other speak about the same thing.  They read different clocks, which the
engine stores in orders, trades and latencies, but no counter depends on that.
-/

namespace OrderBookExchange

open ThroughputBench

namespace BenchDriver

/-- Two drivers that have done the same, clocks aside. -/
structure Same (left right : BenchDriver) : Prop where
  engines : MatchingEngine.SameBooks left.engine right.engine
  resting : left.resting = right.resting
  tallies : left.engine.stats.tally = right.engine.stats.tally

variable {left right : BenchDriver}

theorem Same.retireOldest (same : Same left right) :
    Same left.retireOldest right.retireOldest := by
  unfold BenchDriver.retireOldest
  rw [same.resting]
  split
  · exact same
  · next oldest rest memory =>
      constructor
      · exact same.engines.cancelOrder kSymbol oldest
      · rfl
      · exact same.engines.tally_step same.tallies (.cancel kSymbol oldest)
          (.cancel kSymbol oldest) rfl

theorem Same.addPassive (same : Same left right) (clock other : Clock) (buy : Bool)
    (offset : BandLevel) :
    Same (left.addPassive clock buy offset) (right.addPassive other buy offset) := by
  obtain ⟨engines, ids, -⟩ := same.engines.submitOrder clock other kSymbol
    (if buy then .buy else .sell) .limit (passivePrice buy offset) 100
  constructor
  · exact engines
  · unfold BenchDriver.addPassive
    dsimp only
    rw [ids, same.resting]
  · exact same.engines.tally_step same.tallies
      (.submit clock kSymbol (if buy then .buy else .sell) .limit (passivePrice buy offset) 100)
      (.submit other kSymbol (if buy then .buy else .sell) .limit (passivePrice buy offset) 100) rfl

theorem Same.aggress (same : Same left right) (clock other : Clock) (offset : BandLevel) :
    Same (left.aggress clock offset) (right.aggress other offset) := by
  obtain ⟨engines, -⟩ := same.engines.submitOrder clock other kSymbol (aggressSide offset) .ioc
    (aggressPrice (aggressSide offset)) 300
  constructor
  · exact engines
  · exact same.resting
  · exact same.engines.tally_step same.tallies
      (.submit clock kSymbol (aggressSide offset) .ioc (aggressPrice (aggressSide offset)) 300)
      (.submit other kSymbol (aggressSide offset) .ioc (aggressPrice (aggressSide offset)) 300) rfl

theorem Same.step (same : Same left right) {turn other : BenchTurn}
    (workEq : turn.work = other.work) : Same (left.step turn) (right.step other) := by
  unfold BenchDriver.step
  rw [workEq, same.resting]
  cases other.work.op with
  | passiveBuy =>
      dsimp only
      split
      · exact same.retireOldest
      · exact same.addPassive turn.clock other.clock true other.work.offset
  | passiveSell =>
      dsimp only
      split
      · exact same.retireOldest
      · exact same.addPassive turn.clock other.clock false other.work.offset
  | cancel => exact same.retireOldest
  | aggress => exact same.aggress turn.clock other.clock other.work.offset

theorem Same.run (same : Same left right) {turns others : List BenchTurn}
    (workEq : turns.map BenchTurn.work = others.map BenchTurn.work) :
    Same (turns.foldl BenchDriver.step left) (others.foldl BenchDriver.step right) := by
  induction turns generalizing others left right with
  | nil =>
      obtain rfl : others = [] := List.map_eq_nil_iff.mp workEq.symm
      exact same
  | cons turn turns induction =>
      obtain ⟨other, others, rfl, headEq, tailEq⟩ := List.map_eq_cons_iff.mp workEq.symm
      exact induction (same.step headEq.symm) tailEq.symm

end BenchDriver

/-- The instrumented loop does the work of its turns and takes a sample of each. -/
theorem foldl_timedStep (timed : List (BenchTurn × PhaseClock)) (driver : BenchDriver)
    (samples : List Int) :
    timed.foldl timedStep (driver, samples) =
      ((timed.map Prod.fst).foldl BenchDriver.step driver,
        samples ++ timed.map fun stamped => stamped.2.finish - stamped.2.start) := by
  induction timed generalizing driver samples with
  | nil => simp
  | cons stamped timed induction =>
      rw [List.foldl_cons, timedStep, induction]
      simp

theorem work_benchTurns (clocks : Nat → Clock) (work : List WorkUnit) :
    (benchTurns clocks work).map BenchTurn.work = work := by
  apply List.ext_getElem
  · simp [benchTurns]
  · simp [benchTurns]

/-- The timed phase leaves the same counters as the plain one, and hands one sample for
each operation to the histogram. -/
theorem phases_do_the_same (phase other : PhaseClock) (clocks otherClocks : Nat → Clock)
    (stamps : Nat → PhaseClock) (work : List WorkUnit) :
    let plain := runThroughput phase clocks work
    let timed := runLatency other otherClocks stamps work
    timed.1.opsExecuted = plain.opsExecuted ∧ timed.1.stats.tally = plain.stats.tally ∧
      timed.2.length = plain.opsExecuted := by
  intro plain timed
  let stamped := (benchTurns otherClocks work).mapIdx fun index turn => (turn, stamps index)
  have turnsEq : stamped.map Prod.fst = benchTurns otherClocks work := by
    apply List.ext_getElem
    · simp [stamped]
    · simp [stamped]
  have loopEq := foldl_timedStep stamped .new []
  rw [turnsEq, List.nil_append] at loopEq
  have same : BenchDriver.Same ((benchTurns otherClocks work).foldl BenchDriver.step .new)
      ((benchTurns clocks work).foldl BenchDriver.step .new) := by
    apply BenchDriver.Same.run
    · exact ⟨.refl _, rfl, rfl⟩
    · rw [work_benchTurns, work_benchTurns]
  refine ⟨rfl, ?_, ?_⟩
  · change (stamped.foldl timedStep (.new, [])).1.engine.stats.tally = _
    rw [loopEq]
    exact same.tallies
  · change (stamped.foldl timedStep (.new, [])).2.length = work.length
    rw [loopEq]
    simp [stamped, benchTurns]

end OrderBookExchange
