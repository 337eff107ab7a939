import OrderBookExchange.CleanRuns
import OrderBookExchange.LimitProtection

/-!
# What a trade callback sees

The trade callback runs after an order was matched and before the order is taken
off the book or left to rest.  A callback that reads the book finds the submitted
order still on it, with whatever matching has left of it.  The other orders are
those that may rest, and they do not cross.  The book as a whole is in the state
of a book between calls exactly if the submitted order is about to rest.
-/

namespace OrderBookExchange

/-- A book that shows no filled order, no market or IOC order and no cross. -/
structure OrderBook.Consistent (book : OrderBook) : Prop where
  unfilled : ∀ id order, book.orderAt id = some order → order.remainingQty ≠ 0
  rests : ∀ id order, book.orderAt id = some order → order.type.Rests
  uncrossed : book.bids ≠ [] → book.asks ≠ [] → book.bestBid.lt book.bestAsk = true

namespace MatchingEngine

/-- The loop over the trades of a submission: the statistics count a trade and
then the callback is called with it. -/
def notify (engine : MatchingEngine) (stats : EngineStats) :
    List Trade → List (MatchingEngine × Trade)
  | [] => []
  | trade :: trades =>
      let stats := stats.recordTrade trade
      ({ engine with stats }, trade) :: engine.notify stats trades

/-- The calls of the trade callback during a submission, each with the engine
as the callback finds it. -/
def callbackCalls (engine : MatchingEngine) (clock : Clock) (symbol : Symbol) (side : Side)
    (type : OrderType) (price : Price) (quantity : Quantity) : List (MatchingEngine × Trade) :=
  let engine := engine.getOrderBook symbol
  let stats := { engine.stats with totalOrders := engine.stats.totalOrders + 1 }
  if rejects type price quantity then []
  else
    let matched := (engine.book symbol).matched clock side type (effectivePrice side type price)
      quantity
    (engine.withBook symbol matched.1).notify stats matched.2

theorem notify_trades (engine : MatchingEngine) (stats : EngineStats) (trades : List Trade) :
    (engine.notify stats trades).map Prod.snd = trades := by
  induction trades generalizing stats with
  | nil => rfl
  | cons trade trades ih => rw [notify, List.map_cons, ih]

theorem books_of_mem_notify {engine seen : MatchingEngine} {stats : EngineStats}
    {trades : List Trade} {trade : Trade} (called : (seen, trade) ∈ engine.notify stats trades) :
    seen.books = engine.books := by
  induction trades generalizing stats with
  | nil => simp [notify] at called
  | cons first trades ih =>
      rw [notify, List.mem_cons] at called
      rcases called with now | later
      · obtain ⟨rfl, -⟩ := Prod.mk.inj now
        rfl
      · exact ih later

/-- The callback is called with the trades of the submission. -/
theorem callbackCalls_trades (engine : MatchingEngine) (clock : Clock) (symbol : Symbol)
    (side : Side) (type : OrderType) (price : Price) (quantity : Quantity) :
    (engine.callbackCalls clock symbol side type price quantity).map Prod.snd =
      (engine.submitOrder clock symbol side type price quantity).2.2 := by
  unfold callbackCalls
  by_cases rejected : rejects type price quantity = true
  · simp [submitOrder, rejected]
  · rw [submitOrder_result engine clock symbol side rejected, OrderBook.acceptOrder_eq]
    dsimp only
    rw [if_neg rejected, notify_trades, book_getOrderBook]

/-- What is left to do when a callback is called is the handling of the order
after matching. -/
theorem book_of_mem_callbackCalls {engine seen : MatchingEngine} {clock : Clock} {symbol : Symbol}
    {side : Side} {type : OrderType} {price : Price} {quantity : Quantity} {trade : Trade}
    (called : (seen, trade) ∈ engine.callbackCalls clock symbol side type price quantity) :
    ¬rejects type price quantity = true ∧
      seen.book symbol = ((engine.book symbol).matched clock side type
        (effectivePrice side type price) quantity).1 := by
  unfold callbackCalls at called
  dsimp only at called
  by_cases rejected : rejects type price quantity = true
  · simp [rejected] at called
  · rw [if_neg rejected, book_getOrderBook] at called
    refine ⟨rejected, ?_⟩
    rw [book, books_of_mem_notify called, withBook, Finmap.lookup_insert]
    rfl

end MatchingEngine

/-! ### No cross without a NaN -/

namespace PriorityExchange

theorem uncrossed_step {books : PriorityExchange} (uncrossed : ∀ symbol, (books symbol).Uncrossed)
    (ordered : ∀ symbol, (books symbol).Ordered) {op : EngineOp} (nanFree : op.NanFree) :
    ∀ symbol, ((books.step op).1 symbol).Uncrossed := by
  cases op with
  | submit clock symbol side type price quantity =>
      by_cases rejected : rejects type price quantity = true
      · rw [step_submit_of_rejects _ _ _ _ rejected]
        exact uncrossed
      · rw [step_submit_of_accepts _ _ _ _ rejected]
        exact forall_update uncrossed
          ((uncrossed symbol).acceptOrder (ordered symbol) (effectivePrice_num side nanFree))
  | cancel symbol orderId =>
      rw [step_cancel]
      exact forall_update uncrossed
        ((uncrossed symbol).shrunk (PriorityBook.shrunk_cancelOrder _ orderId))
  | reduce symbol orderId newQuantity =>
      rw [step_reduce]
      exact forall_update uncrossed ((uncrossed symbol).shrunk
        (PriorityBook.shrunk_reduceOrder (ordered symbol) orderId newQuantity))

end PriorityExchange

theorem MatchingEngine.run_uncrossed {ops : List EngineOp} (nanFree : ∀ op ∈ ops, op.NanFree) :
    (Transition.run MatchingEngine.step .new ops).1.Valid ∧
      ∀ symbol, ((Transition.run MatchingEngine.step .new ops).1.view symbol).Uncrossed := by
  have initial : MatchingEngine.new.Valid ∧
      ∀ symbol, (MatchingEngine.new.view symbol).Uncrossed := by
    refine ⟨valid_new, ?_⟩
    intro symbol
    rw [view_new]
    exact PriorityBook.clean_empty.uncrossed
  refine Transition.run_invariant
    (fun engine : MatchingEngine => engine.Valid ∧ ∀ symbol, (engine.view symbol).Uncrossed)
    ?_ initial (Transition.along_of_forall nanFree MatchingEngine.new)
  rintro engine op ⟨valid, uncrossed⟩ opNanFree
  obtain ⟨nextValid, viewEq, -⟩ := step_refines valid opNanFree
  refine ⟨nextValid, ?_⟩
  rw [viewEq]
  exact PriorityExchange.uncrossed_step uncrossed valid.ordered opNanFree

namespace OrderBook

variable {book : OrderBook} {price : Price}

theorem bestBid_lt_bestAsk (valid : book.Valid) (uncrossed : book.view.Uncrossed)
    (bids : book.bids ≠ []) (asks : book.asks ≠ []) : book.bestBid.lt book.bestAsk = true := by
  have bidQueue : book.queue true ≠ [] := fun empty => bids ((valid.queue_eq_nil_iff true).mp empty)
  have askQueue : book.queue false ≠ [] :=
    fun empty => asks ((valid.queue_eq_nil_iff false).mp empty)
  obtain ⟨⟨bid, bidMem, bidEq⟩, -⟩ := valid.bestPrice_extreme bidQueue
  obtain ⟨⟨ask, askMem, askEq⟩, -⟩ := valid.bestPrice_extreme askQueue
  have apart := uncrossed true bid bidMem ask askMem
  rw [bidEq, askEq] at apart
  exact apart

section Matched

variable (clock : Clock) (side : Side) (type : OrderType) (quantity : Quantity)
  (valid : book.Valid) (uncrossed : book.view.Uncrossed) (priceNum : price ≠ .nan)
include valid uncrossed priceNum

/-- The book after matching does not cross once the submitted order is left out. -/
theorem uncrossed_matched_drop :
    ((book.matched clock side type price quantity).1.view.drop book.nextOrderId).Uncrossed := by
  obtain ⟨-, -, -, -, -, opposite, own, -⟩ :=
    matched_refines clock side type quantity valid priceNum
  have incomingId : (settled (book.view.matching clock side type price quantity)).incoming.id =
      book.nextOrderId := by
    rw [settled, PriorityBook.matching_incoming]
    rfl
  apply uncrossed.shrunk
  intro buy order member
  obtain ⟨onBook, other⟩ := mem_dropOrder.mp member
  rw [view_queue] at onBook ⊢
  by_cases same : buy = side.isBuy
  · subst same
    rw [own] at onBook
    rcases mem_insertOrder.mp onBook with rfl | old
    · exact absurd incomingId other
    · exact ⟨order, old, .refl order⟩
  · obtain rfl := Bool.eq_not_of_ne same
    rw [opposite] at onBook
    exact sweep_queue_shrunk clock onBook

/-- It does not cross at all if matching has left something of that order. -/
theorem uncrossed_matched
    (left : ((book.matched clock side type price quantity).1.load
      (book.addOrder side type price quantity (clock 1)).2).remainingQty ≠ 0) :
    (book.matched clock side type price quantity).1.view.Uncrossed := by
  obtain ⟨-, -, -, -, loadEq, opposite, own, -⟩ :=
    matched_refines clock side type quantity valid priceNum
  rw [addOrder_ptr, loadEq] at left
  apply PriorityBook.uncrossed_of_side side.isBuy
  intro ownOrder ownMem oppositeOrder oppositeMem
  rw [view_queue, own] at ownMem
  rw [view_queue, opposite] at oppositeMem
  rcases mem_insertOrder.mp ownMem with rfl | old
  · have priceEq : (settled (book.view.matching clock side type price
        quantity)).incoming.price = price := by
      rw [settled, PriorityBook.matching_incoming]
      rfl
    rw [priceEq]
    exact PriorityBook.remainder_uncrossed valid.ordered priceNum left oppositeMem
  · obtain ⟨older, olderMem, shrunk⟩ := sweep_queue_shrunk clock oppositeMem
    rw [shrunk.same]
    exact uncrossed side.isBuy ownOrder old older olderMem

end Matched

theorem matched_others (clock : Clock) (side : Side) (type : OrderType) (price : Price)
    (quantity : Quantity) (linked : book.Linked) (unfilled : book.Unfilled)
    (rests : ∀ id order, book.orderAt id = some order → order.type.Rests) {id : Nat} {order : Order}
    (found : (book.matched clock side type price quantity).1.orderAt id = some order)
    (other : id ≠ book.nextOrderId) : order.remainingQty ≠ 0 ∧ order.type.Rests := by
  have matched := matched_from clock side type price quantity linked unfilled
  obtain ⟨older, olderFound, terms⟩ := matched.older id order found
  rw [orderAt_addOrder side type price quantity (clock 1) linked, if_neg other] at olderFound
  refine ⟨matched.unfilled id order found other, ?_⟩
  rw [← terms.type]
  exact rests id older olderFound

/-- The book after matching: the submitted order is on it, the others are as
between calls, and so is the whole book if the order is about to rest. -/
theorem matched_in_flight (clock : Clock) (side : Side) (type : OrderType) (price : Price)
    (quantity : Quantity) (linked : book.Linked) (unfilled : book.Unfilled)
    (rests : ∀ id order, book.orderAt id = some order → order.type.Rests) :
    let seen := (book.matched clock side type price quantity).1
    ∃ incoming, seen.orderAt book.nextOrderId = some incoming ∧ incoming.type = type ∧
      incoming.remainingQty.toNat +
          tradedQty (book.matched clock side type price quantity).2 book.nextOrderId =
        quantity.toNat ∧
      (∀ other order, seen.orderAt other = some order → other ≠ book.nextOrderId →
        order.remainingQty ≠ 0 ∧ order.type.Rests) ∧
      (book.Valid → book.view.Uncrossed → price ≠ .nan →
        (∀ bid ∈ seen.queue true, ∀ ask ∈ seen.queue false, bid.id ≠ book.nextOrderId →
          ask.id ≠ book.nextOrderId → bid.price.lt ask.price = true) ∧
        (seen.Consistent ↔ type.Rests ∧ incoming.remainingQty ≠ 0)) := by
  intro seen
  have matched := matched_from clock side type price quantity linked unfilled
  have incomingAt : seen.orderAt _ = _ := matched.linked.orderAt_of_mem matched.live
  obtain ⟨placed, placedFound, terms⟩ := matched.older _ _ incomingAt
  rw [matched.idEq, orderAt_addOrder side type price quantity (clock 1) linked, if_pos rfl,
    Option.some.injEq] at placedFound
  have typeEq : (seen.load (book.addOrder side type price quantity (clock 1)).2).type = type := by
    rw [← terms.type, ← placedFound]
    rfl
  have others : ∀ other order, seen.orderAt other = some order → other ≠ book.nextOrderId →
      order.remainingQty ≠ 0 ∧ order.type.Rests := by
    intro other order found different
    exact matched_others clock side type price quantity linked unfilled rests found different
  rw [matched.idEq] at incomingAt
  have balance := matched.balance book.nextOrderId
  rw [remainingOf_of_none (linked.orderAt_none_of_le le_rfl), if_pos rfl, Nat.zero_add,
    remainingOf_of_some incomingAt] at balance
  refine ⟨_, incomingAt, typeEq, balance.symm, others, ?_⟩
  intro valid uncrossed priceNum
  constructor
  · intro bid bidMem ask askMem bidOther askOther
    exact uncrossed_matched_drop clock side type quantity valid uncrossed priceNum true bid
      (mem_dropOrder.mpr ⟨bidMem, bidOther⟩) ask (mem_dropOrder.mpr ⟨askMem, askOther⟩)
  · constructor
    · intro consistent
      refine ⟨?_, consistent.unfilled _ _ incomingAt⟩
      rw [← typeEq]
      exact consistent.rests _ _ incomingAt
    · rintro ⟨typeRests, left⟩
      obtain ⟨-, -, seenValid, -⟩ := matched_refines clock side type quantity valid priceNum
      have whole := uncrossed_matched clock side type quantity valid uncrossed priceNum left
      have all : ∀ other order, seen.orderAt other = some order →
          order.remainingQty ≠ 0 ∧ order.type.Rests := by
        intro other order found
        by_cases own : other = book.nextOrderId
        · rw [own, incomingAt, Option.some.injEq] at found
          rw [← found, typeEq]
          exact ⟨left, typeRests⟩
        · exact others other order found own
      exact ⟨fun other order found => (all other order found).1,
        fun other order found => (all other order found).2, bestBid_lt_bestAsk seenValid whole⟩

theorem rests_run_new (symbol : Symbol) (poolSize : Nat) (ops : List EngineOp) {id : Nat}
    {order : Order}
    (found : (Transition.run step (new symbol poolSize) ops).1.orderAt id = some order) :
    order.type.Rests := by
  rcases run_terms (linked_new symbol poolSize) (unfilled_new symbol poolSize) one_ne_zero ops
    found with ⟨older, olderFound, -⟩ | ⟨submission, -, recorded⟩
  · simp at olderFound
  · rw [← recorded.type]
    exact recorded.rests

end OrderBook

namespace MatchingEngine

/-- Whenever the callback is called, the submitted order is on the book, with what its
trades have left of it.  The other orders have something left and are of a type that rests.  If no price is a
NaN, those orders do not cross, and the book as a whole is consistent exactly if
the submitted order is of a type that rests and has something left. -/
theorem callbacks_see_order_in_flight (ops : List EngineOp) (clock : Clock) (symbol : Symbol)
    (side : Side) (type : OrderType) (price : Price) (quantity : Quantity) (seen : MatchingEngine)
    (trade : Trade)
    (called : (seen, trade) ∈ (Transition.run step .new ops).1.callbackCalls clock symbol side type
      price quantity) :
    let submitted := (Transition.run step .new ops).1.submitOrder clock symbol side type price
      quantity
    let id := submitted.2.1
    let book := seen.book symbol
    ∃ incoming, book.orderAt id = some incoming ∧ incoming.type = type ∧
      incoming.remainingQty.toNat + tradedQty submitted.2.2 id = quantity.toNat ∧
      (∀ other order, book.orderAt other = some order → other ≠ id →
        order.remainingQty ≠ 0 ∧ order.type.Rests) ∧
      ((∀ op ∈ ops, op.NanFree) →
        (EngineOp.submit clock symbol side type price quantity).NanFree →
          (∀ bid ∈ book.queue true, ∀ ask ∈ book.queue false, bid.id ≠ id → ask.id ≠ id →
            bid.price.lt ask.price = true) ∧
          (book.Consistent ↔ type.Rests ∧ incoming.remainingQty ≠ 0)) := by
  intro submitted id book
  obtain ⟨accepted, bookEq⟩ := book_of_mem_callbackCalls called
  have tradesEq : submitted.2.2 = (((Transition.run step .new ops).1.book symbol).matched clock
      side type (effectivePrice side type price) quantity).2 := by
    change (submitOrder _ clock symbol side type price quantity).2.2 = _
    rw [submitOrder_result _ clock symbol side accepted, OrderBook.acceptOrder_eq]
  have idEq : id = ((Transition.run step .new ops).1.book symbol).nextOrderId :=
    submitOrder_id _ clock symbol side accepted
  obtain ⟨linked, unfilled⟩ := (linked_new.run ops) symbol
  have rests : ∀ other order, ((Transition.run step .new ops).1.book symbol).orderAt other =
      some order → order.type.Rests := by
    intro other order found
    rw [book_run_new] at found
    exact OrderBook.rests_run_new symbol defaultPoolSize _ found
  have inFlight := OrderBook.matched_in_flight clock side type (effectivePrice side type price)
    quantity linked unfilled rests
  dsimp only at inFlight
  rw [← bookEq, ← idEq, ← tradesEq] at inFlight
  obtain ⟨incoming, incomingAt, typeEq, balance, others, priced⟩ := inFlight
  refine ⟨incoming, incomingAt, typeEq, balance, others, ?_⟩
  intro nanFree submitNanFree
  obtain ⟨valid, uncrossed⟩ := run_uncrossed nanFree
  exact priced (valid symbol) (uncrossed symbol) (effectivePrice_num side submitNanFree)

/-- A sell order for four shares rests. -/
def fourOffered : List EngineOp :=
  [.submit (fun _ => 0) [65] .sell .limit (.finite 100) 4]

/-- A buy order for ten shares takes them and is about to rest with six. -/
theorem callbacks_see_order_in_flight_four_of_ten :
    ∃ seen trade, (seen, trade) ∈ (Transition.run step .new fourOffered).1.callbackCalls
        (fun _ => 0) [65] .buy .limit (.finite 100) 10 ∧ (seen.book [65]).Consistent := by
  have oneCall : ((Transition.run step .new fourOffered).1.callbackCalls (fun _ => 0) [65] .buy
      .limit (.finite 100) 10).length = 1 := by decide +kernel
  have left : ∀ call ∈ (Transition.run step .new fourOffered).1.callbackCalls (fun _ => 0) [65]
      .buy .limit (.finite 100) 10, ((call.1.book [65]).orderAt 2).map Order.remainingQty =
        some 6 := by decide +kernel
  obtain ⟨⟨seen, trade⟩, calls⟩ := List.length_eq_one_iff.mp oneCall
  have called : (seen, trade) ∈ (Transition.run step .new fourOffered).1.callbackCalls
      (fun _ => 0) [65] .buy .limit (.finite 100) 10 := by
    rw [calls]
    exact List.mem_singleton_self _
  obtain ⟨incoming, found, -, -, -, priced⟩ := callbacks_see_order_in_flight fourOffered (fun _ => 0)
    [65] .buy .limit (.finite 100) 10 seen trade called
  have idEq : ((Transition.run step .new fourOffered).1.submitOrder (fun _ => 0) [65] .buy .limit
      (.finite 100) 10).2.1 = 2 := by decide +kernel
  rw [idEq] at found
  have sixLeft := left _ called
  rw [found, Option.map_some, Option.some.injEq] at sixLeft
  have nanFree : ∀ op ∈ fourOffered, op.NanFree := by simp [fourOffered, EngineOp.NanFree]
  have consistent := (priced nanFree (Or.inr (by simp))).2
  exact ⟨seen, trade, called, consistent.mpr ⟨by decide, by rw [sixLeft]; decide⟩⟩

/-- A buy order that is filled is on the book when its trade is reported, with
nothing left and at the price of the ask it has left behind. -/
theorem callback_sees_filled_order :
    ((Transition.run step .new fourOffered).1.callbackCalls (fun _ => 0) [65] .buy .limit
        (.finite 100) 3).map (fun call =>
          (((call.1.book [65]).orderAt 2).map Order.remainingQty, (call.1.book [65]).bestBid,
            (call.1.book [65]).bestAsk)) =
      [(some 0, .finite 100, .finite 100)] := by
  decide +kernel

end MatchingEngine

end OrderBookExchange
