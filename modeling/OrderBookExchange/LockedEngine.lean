import OrderBookExchange.LockedObject
import OrderBookExchange.MatchTermination

/-!
# The engine called from many threads

`submit_order` and `cancel_order` take the engine's mutex, every one of them in many
small steps on the books, the statistics and whatever the trade callback writes
to.  The steps here are those of the source: the book is opened and the order
counted, the order is validated, added, matched one turn of the loop at a time,
its trades are counted and handed to the callback one by one, what is left of it
is settled and the latency is recorded.

What is done to a book behind `get_order_book`, such as a reduction, does not take
the mutex and is not among the calls.
-/

namespace OrderBookExchange

/-- The arguments of `submit_order`, with the clock readings of the call.  The first
of these is taken before the mutex. -/
structure SubmitCall where
  clock : Clock
  symbol : Symbol
  side : Side
  type : OrderType
  price : Price
  quantity : Quantity

/-- A call that takes the mutex. -/
inductive LockedCall where
  | submit (submission : SubmitCall)
  | cancel (symbol : Symbol) (orderId : Nat)

def LockedCall.op : LockedCall → EngineOp
  | .submit submission =>
      .submit submission.clock submission.symbol submission.side submission.type
        submission.price submission.quantity
  | .cancel symbol orderId => .cancel symbol orderId

/-- How far a call has come since it took the mutex. -/
inductive CallFrame where
  | opening (submission : SubmitCall)
  | validating (submission : SubmitCall)
  | adding (submission : SubmitCall)
  | matching (submission : SubmitCall) (order orderId : Nat) (trades : List Trade)
  | notifying (submission : SubmitCall) (order orderId : Nat) (trades left : List Trade)
  | settling (submission : SubmitCall) (order orderId : Nat) (trades : List Trade)
  | timing (submission : SubmitCall) (orderId : Nat) (trades : List Trade)
  | cancelling (symbol : Symbol) (orderId : Nat)
  | counting (cancelled : Bool)

/-- The engine and the object its trade callback writes to. -/
structure SharedEngine (Listener : Type*) where
  engine : MatchingEngine
  listener : Listener

namespace SharedEngine

variable {Listener : Type*}

def withStats (shared : SharedEngine Listener) (stats : EngineStats) : SharedEngine Listener :=
  { shared with engine := { shared.engine with stats } }

def withBook (shared : SharedEngine Listener) (symbol : Symbol) (book : OrderBook) :
    SharedEngine Listener :=
  { shared with engine := shared.engine.withBook symbol book }

/-- One step of a call inside the mutex. -/
def advance (callback : Listener → Trade → Listener) (shared : SharedEngine Listener) :
    CallFrame → SharedEngine Listener × (CallFrame ⊕ EngineOutput)
  | .opening submission =>
      let opened := { shared with engine := shared.engine.getOrderBook submission.symbol }
      let stats := opened.engine.stats
      (opened.withStats { stats with totalOrders := stats.totalOrders + 1 },
        .inl (.validating submission))
  | .validating submission =>
      if rejects submission.type submission.price submission.quantity then
        let stats := shared.engine.stats
        (shared.withStats { stats with totalRejects := stats.totalRejects + 1 },
          .inr (.submitted 0 []))
      else (shared, .inl (.adding submission))
  | .adding submission =>
      let added := (shared.engine.book submission.symbol).addOrder submission.side submission.type
        (effectivePrice submission.side submission.type submission.price) submission.quantity
        (submission.clock 1)
      (shared.withBook submission.symbol added.1,
        .inl (.matching submission added.2 (added.1.load added.2).id []))
  | .matching submission order orderId trades =>
      let book := shared.engine.book submission.symbol
      match OrderBook.turn submission.clock order (book, trades) with
      | some next =>
          (shared.withBook submission.symbol next.1,
            .inl (.matching submission order orderId next.2))
      | none =>
          (shared.withBook submission.symbol (book.store order { book.load order with
              status := OrderBook.matchedStatus (book.load order) }),
            .inl (.notifying submission order orderId trades trades))
  | .notifying submission order orderId trades [] =>
      (shared, .inl (.settling submission order orderId trades))
  | .notifying submission order orderId trades (trade :: left) =>
      let counted := shared.withStats (shared.engine.stats.recordTrade trade)
      ({ counted with listener := callback shared.listener trade },
        .inl (.notifying submission order orderId trades left))
  | .settling submission order orderId trades =>
      let book := shared.engine.book submission.symbol
      (shared.withBook submission.symbol (book.postMatch order submission.type),
        .inl (.timing submission orderId trades))
  | .timing submission orderId trades =>
      let latency := submission.clock (2 + trades.length) - submission.clock 0
      (shared.withStats (shared.engine.stats.recordLatency latency),
        .inr (.submitted orderId trades))
  | .cancelling symbol orderId =>
      match shared.engine.books.lookup symbol with
      | none => (shared, .inr (.cancelled false))
      | some book =>
          let result := book.cancelOrder orderId
          (shared.withBook symbol result.1, .inl (.counting result.2))
  | .counting cancelled =>
      let stats := shared.engine.stats
      (shared.withStats
          (if cancelled then { stats with totalCancels := stats.totalCancels + 1 } else stats),
        .inr (.cancelled cancelled))

/-- The engine as an object behind its mutex. -/
def locked (callback : Listener → Trade → Listener) :
    LockedObject (SharedEngine Listener) LockedCall CallFrame EngineOutput where
  enter
    | .submit submission => .opening submission
    | .cancel symbol orderId => .cancelling symbol orderId
  advance := advance callback

/-- A whole call at once, with the callback run on its trades. -/
def perform (callback : Listener → Trade → Listener) (shared : SharedEngine Listener)
    (call : LockedCall) : SharedEngine Listener × EngineOutput :=
  let result := shared.engine.step call.op
  ({ engine := result.1
     listener := result.2.trades.foldl callback shared.listener }, result.2)

/-- The books are in order. -/
def Sound (shared : SharedEngine Listener) : Prop :=
  shared.engine.Linked ∧ ∀ symbol, (shared.engine.book symbol).Shelved

end SharedEngine

/-! ### The loop stops by itself -/

theorem Ladder.length_fills_walk (reach : Price → Bool) (left : Nat) (ladder : Ladder) :
    (ladder.walk reach left).fills.length ≤ ladder.orders.length := by
  induction ladder using front_induction generalizing left with
  | bare ladder bare => simp [walk_of_bare bare]
  | front key order rest levels induction =>
      have ordersEq : orders ((key, order :: rest) :: levels) =
          order :: orders (shelve key rest levels) := by
        rw [orders_shelve]
        rfl
      rw [ordersEq, List.length_cons]
      by_cases stop : left = 0 ∨ reach order.price = false
      · rw [walk_stop stop]
        simp
      · simp only [not_or, Bool.not_eq_false] at stop
        by_cases enough : order.remainingQty.toNat ≤ left
        · have later := induction (left - order.remainingQty.toNat)
          rw [walk_take stop.1 stop.2 enough]
          simpa using later
        · rw [walk_part stop.1 stop.2 (by omega)]
          simp

/-- Matching, as the turns of the loop up to the one where it stops. -/
theorem OrderBook.matchOrder_turns {book : OrderBook} {buy : Bool} {incoming : Nat}
    (clock : Clock) (linked : book.Linked) (shelved : book.Shelved)
    (live : incoming ∈ book.nodePtrs buy) :
    ∃ final, Turns clock incoming (book, []) final ∧ turn clock incoming final = none ∧
      book.matchOrder clock incoming =
        (final.1.store incoming { final.1.load incoming with
          status := matchedStatus (final.1.load incoming) }, final.2) := by
  obtain ⟨reached, stops⟩ := matchLoop_turns clock incoming
    (book.nodeCount (!(book.load incoming).side.isBuy) + 1) book []
  refine ⟨_, reached, ?_, rfl⟩
  rcases stops with stopped | exhausted
  · exact stopped
  -- the fuel is one more than the orders there are to trade with
  · have count : book.nodeCount (!(book.load incoming).side.isBuy) =
        (book.ladder (!buy)).orders.length := by
      rw [linked.side_of_mem live, nodeCount_eq, orders_ladder, queue_eq_map]
    obtain ⟨new, tradesEq, walked⟩ := matchLoop_walkedTo clock [] linked shelved live
      (count ▸ Nat.le_succ _ :
        (book.ladder (!buy)).orders.length ≤ book.nodeCount (!(book.load incoming).side.isBuy) + 1)
    have atMost := Ladder.length_fills_walk (reaches buy (book.load incoming).price)
      (book.load incoming).remainingQty.toNat (book.ladder (!buy))
    rw [← walked.fills, List.length_map] at atMost
    rw [tradesEq, List.nil_append, List.length_nil] at exhausted
    omega

/-! ### A call, step by step -/

namespace SharedEngine

open LockedObject

variable {Listener : Type*} {callback : Listener → Trade → Listener}
  {submission : SubmitCall} {result : SharedEngine Listener × EngineOutput}
  {books : Finmap fun _ : Symbol => OrderBook} {stats : EngineStats} {listener : Listener}

theorem advance_locked : (locked callback).advance = advance callback :=
  rfl

theorem book_inserted (symbol : Symbol) (book : OrderBook) :
    MatchingEngine.book ⟨books.insert symbol book, stats⟩ symbol = book := by
  rw [MatchingEngine.book, Finmap.lookup_insert]
  rfl

theorem withBook_inserted (symbol : Symbol) (book later : OrderBook) :
    withBook ⟨⟨books.insert symbol book, stats⟩, listener⟩ symbol later =
      ⟨⟨books.insert symbol later, stats⟩, listener⟩ := by
  rw [withBook, MatchingEngine.withBook, Finmap.insert_insert]

/-- The turns of the loop, and then the status of the order. -/
theorem completes_matching {order orderId : Nat} {first final : OrderBook × List Trade}
    (turns : OrderBook.Turns submission.clock order first final)
    (stops : OrderBook.turn submission.clock order final = none)
    (rest : Completes (locked callback)
      ⟨⟨books.insert submission.symbol (final.1.store order { final.1.load order with
        status := OrderBook.matchedStatus (final.1.load order) }), stats⟩, listener⟩
      (.notifying submission order orderId final.2 final.2) result) :
    Completes (locked callback) ⟨⟨books.insert submission.symbol first.1, stats⟩, listener⟩
      (.matching submission order orderId first.2) result := by
  induction turns using Relation.ReflTransGen.head_induction_on with
  | refl =>
      refine .advances ?_ rest
      rw [advance_locked, advance, book_inserted, stops]
      dsimp only
      rw [withBook_inserted]
  | @head state next turned _ induction =>
      refine .advances ?_ induction
      rw [advance_locked, advance, book_inserted, turned]
      dsimp only
      rw [withBook_inserted]

/-- The trades are counted and handed to the callback one by one. -/
theorem completes_notifying {order orderId : Nat} {trades left : List Trade}
    (rest : Completes (locked callback)
      ⟨⟨books, left.foldl EngineStats.recordTrade stats⟩, left.foldl callback listener⟩
      (.settling submission order orderId trades) result) :
    Completes (locked callback) ⟨⟨books, stats⟩, listener⟩
      (.notifying submission order orderId trades left) result := by
  induction left generalizing stats listener with
  | nil => exact .advances rfl rest
  | cons trade left induction => exact .advances rfl (induction rest)

theorem completes_settling {order orderId : Nat} {trades : List Trade} {book : OrderBook}
    (rest : Completes (locked callback)
      ⟨⟨books.insert submission.symbol (book.postMatch order submission.type), stats⟩, listener⟩
      (.timing submission orderId trades) result) :
    Completes (locked callback) ⟨⟨books.insert submission.symbol book, stats⟩, listener⟩
      (.settling submission order orderId trades) result := by
  refine .advances ?_ rest
  rw [advance_locked, advance, book_inserted, withBook_inserted]

/-- From the moment an accepted order is added to its return. -/
theorem completes_adding (callback : Listener → Trade → Listener) (listener : Listener)
    {engine : MatchingEngine} (linked : (engine.book submission.symbol).Linked)
    (shelved : (engine.book submission.symbol).Shelved) :
    let accepted := (engine.book submission.symbol).acceptOrder submission.clock submission.side
      submission.type (effectivePrice submission.side submission.type submission.price)
      submission.quantity
    let latency := submission.clock (2 + accepted.2.2.length) - submission.clock 0
    Completes (locked callback) ⟨engine, listener⟩ (.adding submission)
      (⟨{ engine.withBook submission.symbol accepted.1 with
          stats := (accepted.2.2.foldl EngineStats.recordTrade engine.stats).recordLatency latency },
        accepted.2.2.foldl callback listener⟩, .submitted accepted.2.1 accepted.2.2) := by
  intro accepted latency
  let price := effectivePrice submission.side submission.type submission.price
  let added := (engine.book submission.symbol).addOrder submission.side submission.type price
    submission.quantity (submission.clock 1)
  have live : added.2 ∈ added.1.nodePtrs submission.side.isBuy :=
    (OrderBook.mem_nodePtrs_addOrder submission.side submission.type price submission.quantity
      (submission.clock 1)).mpr (Or.inr ⟨rfl, rfl⟩)
  obtain ⟨final, turns, stops, matched⟩ := OrderBook.matchOrder_turns submission.clock
    (linked.addOrder submission.side submission.type price submission.quantity
      (submission.clock 1))
    (shelved.addOrder linked submission.side submission.type price submission.quantity
      (submission.clock 1)) live
  have acceptedEq : accepted =
      ((added.1.matchOrder submission.clock added.2).1.postMatch added.2 submission.type,
        (added.1.load added.2).id, (added.1.matchOrder submission.clock added.2).2) := rfl
  refine .advances rfl ?_
  apply completes_matching turns stops
  apply completes_notifying
  apply completes_settling
  refine .returns ?_
  rw [advance_locked, advance]
  dsimp only [latency]
  rw [acceptedEq, matched]
  rfl

theorem completes_submit {shared : SharedEngine Listener} (sound : shared.Sound) :
    Completes (locked callback) shared (.opening submission)
      (shared.perform callback (.submit submission)) := by
  obtain ⟨engine, listener⟩ := shared
  let opened := engine.getOrderBook submission.symbol
  let counted : MatchingEngine :=
    { opened with stats := { opened.stats with totalOrders := opened.stats.totalOrders + 1 } }
  have bookEq : counted.book submission.symbol = engine.book submission.symbol :=
    engine.book_getOrderBook submission.symbol submission.symbol
  refine .advances rfl ?_
  change Completes (locked callback) ⟨counted, listener⟩ (.validating submission) _
  by_cases rejected :
      rejects submission.type submission.price submission.quantity = true
  · have performed : perform callback ⟨engine, listener⟩ (.submit submission) =
        (⟨{ counted with stats :=
          { counted.stats with totalRejects := counted.stats.totalRejects + 1 } }, listener⟩,
          .submitted 0 []) := by
      simp [perform, LockedCall.op, MatchingEngine.step, MatchingEngine.submitOrder, rejected,
        EngineOutput.trades, counted, opened]
    rw [performed]
    refine .returns ?_
    rw [advance_locked, advance, if_pos rejected]
    rfl
  · have linked : (counted.book submission.symbol).Linked :=
      bookEq ▸ (sound.1 submission.symbol).1
    have shelved : (counted.book submission.symbol).Shelved := bookEq ▸ sound.2 submission.symbol
    have added := completes_adding callback listener linked shelved
    rw [bookEq] at added
    have passed : (locked callback).advance ⟨counted, listener⟩ (.validating submission) =
        (⟨counted, listener⟩, .inl (.adding submission)) := by
      rw [advance_locked, advance, if_neg rejected]
    convert Completes.advances passed added using 1
    simp [perform, LockedCall.op, MatchingEngine.step, MatchingEngine.submitOrder, rejected,
      EngineOutput.trades, MatchingEngine.withBook, counted, opened]

theorem completes_cancel {shared : SharedEngine Listener} (symbol : Symbol) (orderId : Nat) :
    Completes (locked callback) shared (.cancelling symbol orderId)
      (shared.perform callback (.cancel symbol orderId)) := by
  obtain ⟨engine, listener⟩ := shared
  cases found : engine.books.lookup symbol with
  | none =>
      have performed : perform callback ⟨engine, listener⟩ (.cancel symbol orderId) =
          (⟨engine, listener⟩, .cancelled false) := by
        simp [perform, LockedCall.op, MatchingEngine.step, MatchingEngine.cancelOrder, found,
          EngineOutput.trades]
      rw [performed]
      refine .returns ?_
      rw [advance_locked, advance, found]
  | some book =>
      have cancelled : (locked callback).advance ⟨engine, listener⟩ (.cancelling symbol orderId) =
          (⟨engine.withBook symbol (book.cancelOrder orderId).1, listener⟩,
            .inl (.counting (book.cancelOrder orderId).2)) := by
        rw [advance_locked, advance, found]
        rfl
      convert Completes.advances cancelled (.returns rfl) using 1
      simp [perform, LockedCall.op, MatchingEngine.step, MatchingEngine.cancelOrder, found,
        EngineOutput.trades, withStats, MatchingEngine.withBook]

/-- The steps of a call amount to the call. -/
theorem implements (callback : Listener → Trade → Listener) :
    Implements (locked callback) (perform callback) (Sound : SharedEngine Listener → Prop) where
  completes := by
    intro shared call sound
    cases call with
    | submit submission => exact completes_submit sound
    | cancel symbol orderId => exact completes_cancel symbol orderId
  preserved := by
    rintro ⟨engine, listener⟩ call ⟨linked, shelved⟩
    refine ⟨linked.step call.op, ?_⟩
    intro symbol
    change ((engine.step call.op).1.book symbol).Shelved
    rw [MatchingEngine.book_step]
    split
    · exact (shelved call.op.symbol).step (linked call.op.symbol).1 call.op
    · exact shelved symbol

/-- An engine nobody has called yet. -/
def new (listener : Listener) : SharedEngine Listener where
  engine := .new
  listener := listener

theorem sound_new (listener : Listener) : (new listener).Sound :=
  ⟨MatchingEngine.linked_new, MatchingEngine.shelved_run []⟩

/-- Calls from any number of threads, interleaved step by step in any way, behave as
if made one at a time in the order in which they took the mutex.  No two threads
are inside; what has been returned is what those calls return in that order; and
while nobody is inside, the engine and the object behind the callback are as those
calls leave them.  Every thread's calls take the mutex between their beginning and
their return. -/
theorem calls_linearizable {Thread : Type*} [DecidableEq Thread]
    (callback : Listener → Trade → Listener) (listener : Listener)
    (moves : List (Move Thread LockedCall)) :
    let result := Transition.run (locked callback).step (start (new listener)) moves
    let history := result.2.flatten
    let sequential := Transition.run (serve (perform callback)) (new listener) (entries history)
    (∀ first second firstCall secondCall firstFrame secondFrame,
        result.1.phase first = .inside firstCall firstFrame →
          result.1.phase second = .inside secondCall secondFrame → first = second) ∧
      answers history <+: sequential.2 ∧
      (result.1.owner = none → sequential = (result.1.state, answers history)) ∧
      ∀ thread, ∃ completed : List (LockedCall × EngineOutput),
        eventsOf thread history =
          completed.flatMap wholeCall ++ (result.1.phase thread).openCall := by
  intro result history sequential
  have serial := serial_run (implements callback) (sound_new listener) moves
  refine ⟨?_, serial.answers_prefix, serial.free, shaped_run (new listener) moves⟩
  intro first second firstCall secondCall firstFrame secondFrame firstInside secondInside
  have firstOwns := serial.exclusive first firstCall firstFrame firstInside
  have secondOwns := serial.exclusive second secondCall secondFrame secondInside
  exact Option.some.inj (firstOwns.symm.trans secondOwns)

end SharedEngine

end OrderBookExchange
