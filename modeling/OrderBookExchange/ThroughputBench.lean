import OrderBookExchange.BestExecution
import OrderBookExchange.BookRepresentation
import OrderBookExchange.CleanBook
import OrderBookExchange.EngineTally
import OrderBookExchange.TapeReplay

/-!
# The workload of the throughput benchmark

The benchmark drives an engine through units of work: passive orders around a
fixed mid, cancels of the oldest order it remembers, and immediate-or-cancel
orders across the whole band.  It remembers the identifiers of its passive orders
in a queue of bounded length and retires the oldest one instead of adding when
the queue is full.  The queue is not told about trades, so it may remember orders
that are gone.

The random choices are arguments here: any sequence of work, any levels of the
band and any clock.
-/

namespace OrderBookExchange

inductive WorkOp where
  | passiveBuy
  | passiveSell
  | cancel
  | aggress
  deriving DecidableEq

/-! ### The driver -/

namespace ThroughputBench

/-- The symbol `AAPL`. -/
def kSymbol : Symbol := [65, 65, 80, 76]

def kMid : Price := .finite 100

def kTick : Price := .finite (1 / 100)

/-- The number of price levels quoted on each side. -/
def kBand : Nat := 50

/-- The cap on remembered orders. -/
def kDepth : Nat := 50000

end ThroughputBench

open ThroughputBench

/-- A level of the band, as the benchmark draws it. -/
structure BandLevel where
  level : Nat
  positive : 1 ≤ level
  inBand : level ≤ kBand

/-- A unit of work. -/
structure WorkUnit where
  op : WorkOp
  offset : BandLevel

/-- A unit of work with the clock the engine reads during it. -/
structure BenchTurn where
  work : WorkUnit
  clock : Clock

structure BenchDriver where
  engine : MatchingEngine
  resting : List Nat

/-- The price of a passive order, so many ticks away from the mid. -/
def passivePrice (buy : Bool) (offset : BandLevel) : Price :=
  if buy then kMid.sub ((Double.ofNat offset.level).mul kTick)
  else kMid.add ((Double.ofNat offset.level).mul kTick)

/-- The side of an aggressor goes by the parity of its offset. -/
def aggressSide (offset : BandLevel) : Side :=
  if offset.level % 2 = 0 then .buy else .sell

/-- The far end of the opposite band. -/
def aggressPrice (side : Side) : Price :=
  if side = .buy then kMid.add ((Double.ofNat kBand).mul kTick)
  else kMid.sub ((Double.ofNat kBand).mul kTick)

namespace BenchDriver

def new : BenchDriver where
  engine := .new
  resting := []

/-- Cancel the oldest order the driver remembers, if there is one. -/
def retireOldest (driver : BenchDriver) : BenchDriver :=
  match driver.resting with
  | [] => driver
  | oldest :: rest =>
      { engine := (driver.engine.cancelOrder kSymbol oldest).1
        resting := rest }

def addPassive (driver : BenchDriver) (clock : Clock) (buy : Bool) (offset : BandLevel) :
    BenchDriver :=
  let submitted := driver.engine.submitOrder clock kSymbol (if buy then .buy else .sell) .limit
    (passivePrice buy offset) 100
  { engine := submitted.1
    resting :=
      if submitted.2.1 ≠ 0 then driver.resting ++ [submitted.2.1] else driver.resting }

/-- Cross the spread.  What is left of the order never rests. -/
def aggress (driver : BenchDriver) (clock : Clock) (offset : BandLevel) : BenchDriver :=
  { driver with
    engine := (driver.engine.submitOrder clock kSymbol (aggressSide offset) .ioc
      (aggressPrice (aggressSide offset)) 300).1 }

/-- One unit of work. -/
def step (driver : BenchDriver) (turn : BenchTurn) : BenchDriver :=
  match turn.work.op with
  | .passiveBuy =>
      if kDepth ≤ driver.resting.length then driver.retireOldest
      else driver.addPassive turn.clock true turn.work.offset
  | .passiveSell =>
      if kDepth ≤ driver.resting.length then driver.retireOldest
      else driver.addPassive turn.clock false turn.work.offset
  | .cancel => driver.retireOldest
  | .aggress => driver.aggress turn.clock turn.work.offset

end BenchDriver

/-! ### The two phases -/

/-- What a phase reports. -/
structure BenchResult where
  opsExecuted : Nat
  elapsed : Int
  stats : EngineStats

/-- The clock readings around a phase or around one unit of work. -/
structure PhaseClock where
  start : Int
  finish : Int

/-- The units of work with the clock of each. -/
def benchTurns (clocks : Nat → Clock) (work : List WorkUnit) : List BenchTurn :=
  work.mapIdx fun index unit => ⟨unit, clocks index⟩

def runThroughput (phase : PhaseClock) (clocks : Nat → Clock) (work : List WorkUnit) :
    BenchResult where
  opsExecuted := work.length
  elapsed := phase.finish - phase.start
  stats := ((benchTurns clocks work).foldl BenchDriver.step .new).engine.stats

/-- One turn of the instrumented loop: the unit of work between two readings of
the clock, and a sample. -/
def timedStep (state : BenchDriver × List Int) (timed : BenchTurn × PhaseClock) :
    BenchDriver × List Int :=
  (state.1.step timed.1, state.2 ++ [timed.2.finish - timed.2.start])

/-- The instrumented phase, with the samples handed to the histogram. -/
def runLatency (phase : PhaseClock) (clocks : Nat → Clock) (stamps : Nat → PhaseClock)
    (work : List WorkUnit) : BenchResult × List Int :=
  let timed := (benchTurns clocks work).mapIdx fun index turn => (turn, stamps index)
  let final := timed.foldl timedStep (.new, [])
  ({ opsExecuted := work.length
     elapsed := phase.finish - phase.start
     stats := final.1.engine.stats },
    final.2)

/-! ### Prices around the mid -/

theorem passivePrice_eq (buy : Bool) (offset : BandLevel) :
    passivePrice buy offset =
      .finite (if buy then 100 - offset.level * (1 / 100) else 100 + offset.level * (1 / 100)) := by
  cases buy with
  | false => rfl
  | true => exact congrArg Double.finite (sub_eq_add_neg _ _).symm

theorem aggressPrice_eq (offset : BandLevel) :
    aggressPrice (aggressSide offset) =
      .finite (if (aggressSide offset).isBuy then 201 / 2 else 199 / 2) := by
  unfold aggressSide
  split <;> decide +kernel

theorem passive_not_inReach {side : Side} (offset : BandLevel) {other : BandLevel}
    {resting : Order}
    (priced : resting.price = passivePrice (!side.isBuy) other) :
    inReach side (passivePrice side.isBuy offset) resting = false := by
  have positive : (1 : ℚ) ≤ offset.level := by exact_mod_cast offset.positive
  have otherPositive : (1 : ℚ) ≤ other.level := by exact_mod_cast other.positive
  rw [inReach, priced, passivePrice_eq, passivePrice_eq]
  cases side.isBuy
  · simp only [Bool.not_false, if_true, Bool.false_eq_true, if_false, Double.le,
      decide_eq_false_iff_not, not_le]
    linarith
  · simp only [Bool.not_true, if_true, Bool.false_eq_true, if_false, Double.le,
      decide_eq_false_iff_not, not_le]
    linarith

theorem aggress_inReach {offset other : BandLevel} {resting : Order}
    (priced : resting.price = passivePrice (!(aggressSide offset).isBuy) other) :
    inReach (aggressSide offset) (aggressPrice (aggressSide offset)) resting = true := by
  have inBand : (other.level : ℚ) ≤ 50 := by exact_mod_cast other.inBand
  rw [inReach, priced, passivePrice_eq, aggressPrice_eq]
  cases (aggressSide offset).isBuy
  · simp only [Bool.not_false, if_true, Bool.false_eq_true, if_false, Double.le,
      decide_eq_true_eq]
    linarith
  · simp only [Bool.not_true, if_true, Bool.false_eq_true, if_false, Double.le,
      decide_eq_true_eq]
    linarith

/-! ### Submissions that reach nothing or everything -/

namespace PriorityBook

variable {book : PriorityBook} {buy : Bool} {order : Order} {clock : Clock} {side : Side}
  {type : OrderType} {price : Price} {quantity : Quantity}

theorem matching_of_unreached
    (unreached : ∀ order ∈ book.queue (!side.isBuy), inReach side price order = false) :
    (book.matching clock side type price quantity).trades = [] := by
  unfold matching
  cases shape : book.queue (!side.isBuy) with
  | nil => rfl
  | cons resting rest =>
      apply sweep_trades_of_stop
      rintro ⟨-, crosses⟩
      have outside := unreached resting (by simp [shape])
      exact Bool.false_ne_true (outside.symm.trans crosses)

/-- With everything in reach an aggressor is filled or the other side is empty
afterwards. -/
theorem matching_of_reached
    (reached : ∀ order ∈ book.queue (!side.isBuy), inReach side price order = true) :
    MatchingEngine.volume (book.matching clock side type price quantity).trades =
        quantity.toNat ∨
      (book.matching clock side type price quantity).queue = [] := by
  have balance := sweep_incoming_balance clock 2 (book.incoming clock side type price quantity)
    (book.queue (!side.isBuy))
  rcases sweep_stops clock 2 (book.incoming clock side type price quantity)
    (book.queue (!side.isBuy)) with filled | empty | ⟨head, tail, shape, outside⟩
  · left
    rw [filled, UInt32.toNat_zero, Nat.zero_add] at balance
    exact balance
  · exact Or.inr empty
  · obtain ⟨older, olderMem, shrunk⟩ := sweep_queue_shrunk clock
      (shape ▸ List.mem_cons_self : head ∈ (sweep clock 2 _ _).queue)
    rw [shrunk.same] at outside
    exact absurd (outside.symm.trans (reached older olderMem)) Bool.false_ne_true

theorem mem_queue_cancelOrder {id : Nat}
    (member : order ∈ (book.cancelOrder id).1.queue buy) :
    order ∈ book.queue buy ∧ order.id ≠ id := by
  unfold PriorityBook.cancelOrder at member
  split at member
  · next absent =>
      rw [find?, List.find?_eq_none] at absent
      refine ⟨member, ?_⟩
      have onBook : order ∈ book.queue true ++ book.queue false := by
        cases buy <;> simp [member]
      simpa using absent order onBook
  · exact mem_dropOrder.mp member

/-- An order on the book after a submission was there before or is what is left
of the submitted one. -/
theorem terms_of_mem_acceptOrder
    (member : order ∈ (book.acceptOrder clock side type price quantity).1.queue buy) :
    (∃ older ∈ book.queue buy, order.price = older.price ∧ order.id = older.id) ∨
      buy = side.isBuy ∧ order.price = price ∧ order.id = book.nextOrderId ∧
        rests type (book.matching clock side type price quantity).incoming = true := by
  rcases mem_queue_acceptOrder member with ⟨own, rfl, resting⟩ | ⟨-, old⟩ | ⟨rfl, left⟩
  · right
    rw [remainder, matching_incoming]
    exact ⟨own, rfl, rfl, resting⟩
  · exact Or.inl ⟨order, old, rfl, rfl⟩
  · obtain ⟨older, olderMem, shrunk⟩ := sweep_queue_shrunk clock left
    left
    refine ⟨older, olderMem, ?_⟩
    rw [shrunk.same]
    exact ⟨rfl, rfl⟩

end PriorityBook

theorem MatchingEngine.submitOrder_view {engine : MatchingEngine} (valid : engine.Valid)
    (clock : Clock) (symbol : Symbol) (side : Side) {type : OrderType} {price : Price}
    {quantity : Quantity} (accepted : ¬rejects type price quantity = true)
    (numeric : (EngineOp.submit clock symbol side type price quantity).NanFree) :
    let result := engine.submitOrder clock symbol side type price quantity
    let onView := (engine.view symbol).acceptOrder clock side type (effectivePrice side type price)
      quantity
    result.1.Valid ∧ result.1.view symbol = onView.1 ∧ result.2 = onView.2 := by
  obtain ⟨nextValid, viewEq, outputEq⟩ := step_refines valid numeric
  rw [PriorityExchange.step_submit_of_accepts _ _ _ _ accepted] at viewEq outputEq
  obtain ⟨idEq, tradesEq⟩ := EngineOutput.submitted.inj outputEq
  refine ⟨nextValid, ?_, Prod.ext idEq tradesEq⟩
  have atSymbol := congrFun viewEq symbol
  dsimp only at atSymbol
  rw [Function.update_self] at atSymbol
  exact atSymbol

/-! ### The book stays in the band and in the driver's memory -/

namespace BenchDriver

/-- Every order of the book is a passive one of its side's band that the driver
remembers. -/
structure Steady (driver : BenchDriver) : Prop where
  valid : driver.engine.Valid
  priced : ∀ buy, ∀ order ∈ (driver.engine.view kSymbol).queue buy,
    ∃ offset, order.price = passivePrice buy offset
  remembered : ∀ buy, ∀ order ∈ (driver.engine.view kSymbol).queue buy, order.id ∈ driver.resting
  depth : driver.resting.length ≤ kDepth

theorem steady_new : new.Steady where
  valid := MatchingEngine.valid_new
  priced := by
    intro buy order member
    rw [new, MatchingEngine.view_new] at member
    simp [PriorityExchange.empty, PriorityBook.empty] at member
  remembered := by
    intro buy order member
    rw [new, MatchingEngine.view_new] at member
    simp [PriorityExchange.empty, PriorityBook.empty] at member
  depth := Nat.zero_le _

/-- What a unit of work comes to. -/
theorem step_cases (driver : BenchDriver) (turn : BenchTurn) :
    turn.work.op ≠ .aggress ∧ driver.step turn = driver.retireOldest ∨
      (∃ buy, turn.work.op ≠ .aggress ∧ driver.resting.length < kDepth ∧
        driver.step turn = driver.addPassive turn.clock buy turn.work.offset) ∨
      turn.work.op = .aggress ∧ driver.step turn = driver.aggress turn.clock turn.work.offset := by
  unfold step
  cases turn.work.op with
  | passiveBuy =>
      dsimp only
      split
      · exact Or.inl ⟨by simp, rfl⟩
      · exact Or.inr (Or.inl ⟨true, by simp, by omega, rfl⟩)
  | passiveSell =>
      dsimp only
      split
      · exact Or.inl ⟨by simp, rfl⟩
      · exact Or.inr (Or.inl ⟨false, by simp, by omega, rfl⟩)
  | cancel => exact Or.inl ⟨by simp, rfl⟩
  | aggress => exact Or.inr (Or.inr ⟨rfl, rfl⟩)

variable {driver : BenchDriver}

theorem Steady.retireOldest (steady : driver.Steady) : driver.retireOldest.Steady := by
  unfold BenchDriver.retireOldest
  split
  · exact steady
  · next oldest rest memory =>
      obtain ⟨valid, viewEq, -⟩ :=
        MatchingEngine.cancelOrder_refines steady.valid kSymbol oldest
      rw [PriorityExchange.step_cancel] at viewEq
      dsimp only at viewEq
      have onBook {buy : Bool} {order : Order}
          (member : order ∈ ((driver.engine.cancelOrder kSymbol oldest).1.view kSymbol).queue buy) :
          order ∈ (driver.engine.view kSymbol).queue buy ∧ order.id ≠ oldest := by
        rw [viewEq, Function.update_self] at member
        exact PriorityBook.mem_queue_cancelOrder member
      constructor
      · exact valid
      · intro buy order member
        exact steady.priced buy order (onBook member).1
      · intro buy order member
        have known := steady.remembered buy order (onBook member).1
        rw [memory, List.mem_cons] at known
        exact known.resolve_left (onBook member).2
      · have depth := steady.depth
        rw [memory, List.length_cons] at depth
        exact (Nat.le_succ _).trans depth

theorem passivePrice_num (buy : Bool) (offset : BandLevel) : passivePrice buy offset ≠ .nan := by
  rw [passivePrice_eq]
  simp

theorem passive_accepted (buy : Bool) (offset : BandLevel) :
    ¬rejects .limit (passivePrice buy offset) 100 = true := by
  have inBand : (offset.level : ℚ) ≤ 50 := by exact_mod_cast offset.inBand
  have atLeast : (0 : ℚ) ≤ offset.level := Nat.cast_nonneg _
  rw [passivePrice_eq]
  cases buy
  · simp [rejects, Double.le]
    linarith
  · simp [rejects, Double.le]
    linarith

theorem aggress_accepted (price : Price) : ¬rejects .ioc price 300 = true := by
  simp [rejects]

theorem aggressPrice_num (offset : BandLevel) : aggressPrice (aggressSide offset) ≠ .nan := by
  rw [aggressPrice_eq]
  simp

theorem isBuy_passiveSide (buy : Bool) : (if buy then Side.buy else .sell).isBuy = buy := by
  cases buy <;> rfl

theorem Steady.addPassive_untraded (steady : driver.Steady) (clock : Clock) (buy : Bool)
    (offset : BandLevel) :
    (driver.engine.submitOrder clock kSymbol (if buy then .buy else .sell) .limit
      (passivePrice buy offset) 100).2.2 = [] := by
  rw [MatchingEngine.trades_submitOrder steady.valid clock kSymbol _
    (Or.inr (passivePrice_num buy offset)) (passive_accepted buy offset)]
  apply PriorityBook.matching_of_unreached
  intro order member
  obtain ⟨other, priced⟩ := steady.priced _ order member
  have apart := passive_not_inReach offset priced
  rw [isBuy_passiveSide] at apart
  exact apart

theorem Steady.addPassive (steady : driver.Steady) (clock : Clock) (buy : Bool)
    (offset : BandLevel) (room : driver.resting.length < kDepth) :
    (driver.addPassive clock buy offset).Steady := by
  obtain ⟨valid, viewEq, resultEq⟩ := MatchingEngine.submitOrder_view steady.valid clock kSymbol
    (if buy then .buy else .sell) (passive_accepted buy offset)
    (Or.inr (passivePrice_num buy offset))
  have idEq : (driver.engine.submitOrder clock kSymbol (if buy then .buy else .sell) .limit
      (passivePrice buy offset) 100).2.1 = (driver.engine.view kSymbol).nextOrderId :=
    congrArg Prod.fst resultEq
  have numbered : (driver.engine.view kSymbol).nextOrderId ≠ 0 :=
    (Nat.lt_of_lt_of_le Nat.zero_lt_one (steady.valid kSymbol).nextPositive).ne'
  unfold BenchDriver.addPassive
  dsimp only
  rw [idEq, if_pos numbered]
  constructor
  · exact valid
  · intro ownSide order member
    rw [viewEq] at member
    rcases PriorityBook.terms_of_mem_acceptOrder member with
      ⟨older, olderMem, priceEq, -⟩ | ⟨own, priceEq, -, -⟩
    · rw [priceEq]
      exact steady.priced ownSide older olderMem
    · rw [own, isBuy_passiveSide]
      exact ⟨offset, priceEq⟩
  · intro ownSide order member
    rw [viewEq] at member
    rw [List.mem_append]
    rcases PriorityBook.terms_of_mem_acceptOrder member with
      ⟨older, olderMem, -, sameId⟩ | ⟨-, -, fresh, -⟩
    · rw [sameId]
      exact Or.inl (steady.remembered ownSide older olderMem)
    · exact Or.inr (List.mem_singleton.mpr fresh)
  · rw [List.length_append, List.length_singleton]
    exact room

theorem Steady.aggress (steady : driver.Steady) (clock : Clock) (offset : BandLevel) :
    (driver.aggress clock offset).Steady := by
  obtain ⟨valid, viewEq, -⟩ := MatchingEngine.submitOrder_view steady.valid clock kSymbol
    (aggressSide offset) (aggress_accepted (aggressPrice (aggressSide offset)))
    (Or.inr (aggressPrice_num offset))
  have onBook {buy : Bool} {order : Order}
      (member : order ∈ ((driver.aggress clock offset).engine.view kSymbol).queue buy) :
      ∃ older ∈ (driver.engine.view kSymbol).queue buy,
        order.price = older.price ∧ order.id = older.id := by
    unfold BenchDriver.aggress at member
    dsimp only at member
    rw [viewEq] at member
    rcases PriorityBook.terms_of_mem_acceptOrder member with old | ⟨-, -, -, resting⟩
    · exact old
    · simp [PriorityBook.rests] at resting
  constructor
  · exact valid
  · intro buy order member
    obtain ⟨older, olderMem, priceEq, -⟩ := onBook member
    rw [priceEq]
    exact steady.priced buy older olderMem
  · intro buy order member
    obtain ⟨older, olderMem, -, sameId⟩ := onBook member
    rw [sameId]
    exact steady.remembered buy older olderMem
  · exact steady.depth

theorem Steady.step (steady : driver.Steady) (turn : BenchTurn) : (driver.step turn).Steady := by
  rcases driver.step_cases turn with ⟨-, stepEq⟩ | ⟨buy, -, room, stepEq⟩ | ⟨-, stepEq⟩
  · rw [stepEq]
    exact steady.retireOldest
  · rw [stepEq]
    exact steady.addPassive turn.clock buy turn.work.offset room
  · rw [stepEq]
    exact steady.aggress turn.clock turn.work.offset

theorem steady_run (turns : List BenchTurn) : (turns.foldl step new).Steady :=
  List.foldlRecOn turns step steady_new fun _ steady turn _ => steady.step turn

/-- An aggressor trades all it wants or leaves the other side empty. -/
theorem Steady.aggress_trades (steady : driver.Steady) (clock : Clock) (offset : BandLevel) :
    MatchingEngine.volume (driver.engine.submitOrder clock kSymbol (aggressSide offset) .ioc
        (aggressPrice (aggressSide offset)) 300).2.2 = 300 ∨
      ((driver.aggress clock offset).engine.view kSymbol).queue (!(aggressSide offset).isBuy) =
        [] := by
  obtain ⟨-, viewEq, -⟩ := MatchingEngine.submitOrder_view steady.valid clock kSymbol
    (aggressSide offset) (aggress_accepted (aggressPrice (aggressSide offset)))
    (Or.inr (aggressPrice_num offset))
  rw [MatchingEngine.trades_submitOrder steady.valid clock kSymbol _
    (Or.inr (aggressPrice_num offset)) (aggress_accepted _)]
  unfold BenchDriver.aggress
  dsimp only
  rw [viewEq]
  have reached : ∀ order ∈ (driver.engine.view kSymbol).queue (!(aggressSide offset).isBuy),
      inReach (aggressSide offset) (aggressPrice (aggressSide offset)) order = true := by
    intro order member
    obtain ⟨other, priced⟩ := steady.priced _ order member
    exact aggress_inReach priced
  rcases PriorityBook.matching_of_reached reached with filled | empty
  · exact Or.inl filled
  · right
    simpa [PriorityBook.acceptOrder, effectivePrice] using empty

/-- What a unit of work adds to the counters: at most one order or one cancel, no
rejection, and trades only if it crosses the spread. -/
theorem Steady.tally_step (steady : driver.Steady) (turn : BenchTurn) :
    (driver.step turn).engine.stats.totalRejects = driver.engine.stats.totalRejects ∧
      (driver.step turn).engine.stats.totalOrders + (driver.step turn).engine.stats.totalCancels ≤
        driver.engine.stats.totalOrders + driver.engine.stats.totalCancels + 1 ∧
      (turn.work.op ≠ .aggress →
        (driver.step turn).engine.stats.totalTrades = driver.engine.stats.totalTrades) := by
  rcases driver.step_cases turn with
    ⟨-, stepEq⟩ | ⟨buy, -, -, stepEq⟩ | ⟨crossing, stepEq⟩
  · rw [stepEq]
    unfold BenchDriver.retireOldest
    split
    · exact ⟨rfl, Nat.le_succ _, fun _ => rfl⟩
    · next oldest rest memory =>
        obtain ⟨orders, rejections, cancels⟩ := driver.engine.counts_cancelOrder kSymbol oldest
        refine ⟨rejections, ?_, fun _ => driver.engine.traded_cancelOrder kSymbol oldest⟩
        rw [orders, cancels]
        split <;> omega
  · rw [stepEq]
    obtain ⟨orders, rejections, cancels⟩ := driver.engine.counts_submitOrder turn.clock kSymbol
      (if buy then .buy else .sell)
      (Bool.eq_false_of_not_eq_true (passive_accepted buy turn.work.offset))
    obtain ⟨trades, -⟩ := driver.engine.traded_submitOrder turn.clock kSymbol
      (if buy then .buy else .sell) .limit (passivePrice buy turn.work.offset) 100
    rw [steady.addPassive_untraded] at trades
    refine ⟨rejections, ?_, fun _ => trades⟩
    exact (congrArg₂ (· + ·) orders cancels).le.trans (by omega)
  · rw [stepEq]
    obtain ⟨orders, rejections, cancels⟩ := driver.engine.counts_submitOrder turn.clock kSymbol
      (aggressSide turn.work.offset) (Bool.eq_false_of_not_eq_true
        (aggress_accepted (aggressPrice (aggressSide turn.work.offset))))
    refine ⟨rejections, ?_, fun passive => absurd crossing passive⟩
    exact (congrArg₂ (· + ·) orders cancels).le.trans (by omega)

theorem counts_run (turns : List BenchTurn) :
    (turns.foldl step new).engine.stats.totalRejects = 0 ∧
      (turns.foldl step new).engine.stats.totalOrders +
        (turns.foldl step new).engine.stats.totalCancels ≤ turns.length := by
  induction turns using List.reverseRecOn with
  | nil => exact ⟨rfl, le_rfl⟩
  | append_singleton turns turn induction =>
      rw [List.foldl_append, List.foldl_cons, List.foldl_nil, List.length_append,
        List.length_singleton]
      obtain ⟨rejections, work, -⟩ := (steady_run turns).tally_step turn
      constructor
      · exact rejections.trans induction.1
      · exact work.trans (Nat.succ_le_succ induction.2)

theorem Steady.orderCount_le (steady : driver.Steady) :
    (driver.engine.book kSymbol).orderCount ≤ driver.resting.length := by
  have valid := steady.valid kSymbol
  have counted : (driver.engine.book kSymbol).orderCount =
      (driver.engine.book kSymbol).nodeIds.length := by
    rw [valid.orderCount_eq, OrderBook.nodeIds, List.length_map, List.length_append]
  rw [counted]
  apply List.Subperm.length_le
  apply List.subperm_of_subset valid.nodeIds_nodup
  intro id member
  rw [OrderBook.nodeIds_eq] at member
  obtain ⟨order, onBook, rfl⟩ := List.mem_map.mp member
  rcases List.mem_append.mp onBook with bid | ask
  · exact steady.remembered true order bid
  · exact steady.remembered false order ask

/-- After any amount of work the book holds remembered orders in their band only.  In
the next unit of work a passive order does not trade on arrival, and a crossing one
trades all its shares or empties the opposite side. -/
theorem live_book (turns : List BenchTurn) (next : BenchTurn) :
    let driver := turns.foldl step new
    let book := driver.engine.book kSymbol
    let stats := driver.engine.stats
    let later := (driver.step next).engine
    (book.orderCount ≤ driver.resting.length ∧ driver.resting.length ≤ kDepth) ∧
      (∀ buy, ∀ order ∈ book.queue buy,
        order.id ∈ driver.resting ∧ ∃ offset, order.price = passivePrice buy offset) ∧
      (stats.totalRejects = 0 ∧ stats.totalOrders + stats.totalCancels ≤ turns.length) ∧
      (next.work.op ≠ .aggress → later.stats.totalTrades = stats.totalTrades) ∧
      (next.work.op = .aggress → later.stats.totalVolume = stats.totalVolume + 300 ∨
        (later.book kSymbol).queue (!(aggressSide next.work.offset).isBuy) = []) := by
  intro driver book stats later
  have steady : driver.Steady := steady_run turns
  refine ⟨⟨steady.orderCount_le, steady.depth⟩, ?_, counts_run turns,
    (steady.tally_step next).2.2, ?_⟩
  · intro buy order member
    exact ⟨steady.remembered buy order member, steady.priced buy order member⟩
  · intro crossing
    have stepEq : driver.step next = driver.aggress next.clock next.work.offset := by
      rw [step, crossing]
    have volume := (driver.engine.traded_submitOrder next.clock kSymbol
      (aggressSide next.work.offset) .ioc (aggressPrice (aggressSide next.work.offset)) 300).2
    change (driver.step next).engine.stats.totalVolume = _ ∨
      ((driver.step next).engine.book kSymbol).queue _ = _
    rw [stepEq]
    rcases steady.aggress_trades next.clock next.work.offset with filled | empty
    · exact Or.inl (volume.trans (congrArg _ filled))
    · exact Or.inr empty

end BenchDriver

end OrderBookExchange
