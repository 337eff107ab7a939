import OrderBookExchange.MatchConservation

/-!
# Matching walks the opposite queue

The matching loop asks for the front of the best level over and over.  On a
linked book it thereby walks the opposite side from its head, so its trades are
the first trades of a sweep over that queue.  They are all of them unless a
level is left empty at the front, which takes a NaN among the prices.
-/

namespace OrderBookExchange

/-- Whether a resting order is in reach of a price on the other side. -/
def inReach (side : Side) (price : Price) (resting : Order) : Bool :=
  if side.isBuy then resting.price.le price else price.le resting.price

theorem sweep_trades_cons (clock : Clock) (count : Nat) {incoming resting : Order}
    (active : incoming.remainingQty ≠ 0) (crosses : priceMatch incoming resting = true)
    (rest : List Order) :
    (sweep clock count incoming (resting :: rest)).trades =
      (executeMatch incoming resting (clock count)).trade ::
        (sweep clock (count + 1) (executeMatch incoming resting (clock count)).incoming
          rest).trades := by
  rw [sweep_cons clock count active crosses]
  dsimp only [Match.leftover]
  split
  · rfl
  · next stays =>
      have filled := executeMatch_fills stays
      rw [sweep_of_filled clock _ filled, sweep_of_filled clock _ filled]

theorem sweep_trades_of_stop (clock : Clock) (count : Nat) {incoming resting : Order}
    (stop : ¬(incoming.remainingQty ≠ 0 ∧ priceMatch incoming resting = true))
    (rest : List Order) : (sweep clock count incoming (resting :: rest)).trades = [] := by
  rw [sweep]
  split
  · rfl
  · next active => rw [if_neg fun crosses => stop ⟨active, crosses⟩]

/-- Every trade of a sweep is between the incoming order and an order of the
queue in its reach, at the price of the latter. -/
theorem sweep_trade_terms (clock : Clock) (count : Nat) (incoming : Order) (queue : List Order)
    {trade : Trade} (member : trade ∈ (sweep clock count incoming queue).trades) :
    ∃ resting ∈ queue,
      inReach incoming.side incoming.price resting = true ∧ trade.price = resting.price ∧
        trade.buyOrderId = (if incoming.side.isBuy then incoming.id else resting.id) ∧
        trade.sellOrderId = if incoming.side.isBuy then resting.id else incoming.id := by
  induction queue generalizing count incoming with
  | nil => simp [sweep] at member
  | cons resting rest ih =>
      by_cases trading : incoming.remainingQty ≠ 0 ∧ priceMatch incoming resting = true
      · rw [sweep_trades_cons clock count trading.1 trading.2, List.mem_cons] at member
        rcases member with rfl | later
        · exact ⟨resting, by simp, trading.2, rfl, rfl, rfl⟩
        · obtain ⟨other, inRest, reached, priceEq, buyer, seller⟩ := ih _ _ later
          exact ⟨other, by simp [inRest], reached, priceEq, buyer, seller⟩
      · rw [sweep_trades_of_stop clock count trading rest] at member
        simp at member

namespace OrderBook

variable {book : OrderBook} {buy : Bool} {incoming : Nat}

theorem queue_eq_map (book : OrderBook) (buy : Bool) :
    book.queue buy = (book.nodePtrs buy).map book.load := by
  rw [queue, nodePtrs, List.map_flatMap]

theorem nodePtrs_of_bestLevel {resting : Nat} {rest : List Nat}
    (best : book.bestLevel buy = some (resting :: rest)) :
    ∃ tail, book.nodePtrs buy = resting :: tail := by
  unfold bestLevel at best
  unfold nodePtrs
  cases shape : book.levels buy with
  | nil => simp [shape] at best
  | cons level levels =>
      rw [shape] at best
      exact ⟨rest ++ levels.flatMap Prod.snd, by simp [Option.some.inj best]⟩

theorem queue_removeOrder_head {resting : Nat} {tail : List Nat} (linked : book.Linked)
    (shape : book.nodePtrs buy = resting :: tail) :
    (book.removeOrder resting).queue buy = tail.map book.load := by
  have member : resting ∈ book.nodePtrs buy := by simp [shape]
  have nodup := linked.nodup buy
  obtain ⟨location, found, rfl, sideEq⟩ := linked.placed buy resting member
  have unlinked : book.removeOrder location.iterator =
      book.unlink (book.load location.iterator).id location location.iterator := by
    rw [removeOrder, found]
  rw [shape, List.nodup_cons] at nodup
  rw [unlinked, queue_eq_map, nodePtrs_unlink linked, if_pos sideEq.symm, shape]
  have kept : (location.iterator :: tail).filter (fun other => other ≠ location.iterator) =
      tail := by
    rw [List.filter_cons_of_neg (by simp), List.filter_eq_self]
    intro other inTail
    have different : other ≠ location.iterator := fun same => nodup.1 (same ▸ inTail)
    simpa using different
  rw [kept]
  apply List.map_congr_left
  intro other _
  rw [load_unlink]

/-- The queue of a side does not see a write to a node of the other side. -/
theorem map_load_store {ptr : Nat} {ptrs : List Nat} (absent : ptr ∉ ptrs) (order : Order) :
    ptrs.map (book.store ptr order).load = ptrs.map book.load := by
  apply List.map_congr_left
  intro other member
  exact load_store_of_ne _ _ _ fun same => absent (same ▸ member)

section Loop

theorem trades_prefix_matchLoop (clock : Clock) (incoming fuel : Nat) (book : OrderBook)
    (trades : List Trade) : trades <+: (matchLoop clock incoming fuel book trades).2 := by
  induction fuel generalizing book trades with
  | zero => exact List.prefix_rfl
  | succ fuel ih =>
      rw [matchLoop_succ]
      split
      · exact List.prefix_rfl
      · exact (List.prefix_append trades _).trans (ih _ _)

theorem matchLoop_trades_ne_nil (clock : Clock) (incoming fuel : Nat) (book : OrderBook)
    {trades : List Trade} (some : trades ≠ []) :
    (matchLoop clock incoming fuel book trades).2 ≠ [] := by
  intro none
  have extended := trades_prefix_matchLoop clock incoming fuel book trades
  rw [none, List.prefix_nil] at extended
  exact some extended

/-- An iteration that trades leaves the opposite queue with what the match
leaves of its head. -/
theorem afterMatch_queue {resting : Nat} {tail : List Nat} (linked : book.Linked)
    (live : incoming ∈ book.nodePtrs buy) (shape : book.nodePtrs (!buy) = resting :: tail)
    (now : Nat) :
    (book.afterMatch incoming resting now).load incoming =
        (book.matchAt incoming resting now).incoming ∧
      (book.afterMatch incoming resting now).queue (!buy) =
        (book.matchAt incoming resting now).leftover (tail.map book.load) := by
  have restingLive : resting ∈ book.nodePtrs (!buy) := by simp [shape]
  have nodup := linked.nodup (!buy)
  rw [shape, List.nodup_cons] at nodup
  have incomingAbsent : incoming ∉ tail := by
    intro inTail
    exact linked.ptr_ne_of_opposite live (by simp [shape, inTail]) rfl
  have tailKept : ∀ first second : Order,
      tail.map ((book.store incoming first).store resting second).load = tail.map book.load := by
    intro first second
    rw [map_load_store nodup.1, map_load_store incomingAbsent]
  unfold afterMatch Match.leftover
  set result := book.matchAt incoming resting now
  dsimp only
  split
  · have written := bothWritten_store linked live restingLive result.incoming
      { result.resting with status := .filled } ⟨rfl, rfl, rfl, rfl, rfl⟩
      ⟨rfl, rfl, rfl, rfl, rfl⟩
    have writtenShape := (written.nodePtrs (!buy)).trans shape
    rw [store_store, queue_removeOrder_head written.linked writtenShape, tailKept,
      (written.linked.removeOrder (writtenShape ▸ List.mem_cons_self)).2.2.1]
    exact ⟨written.incomingEq, rfl⟩
  · have written := bothWritten_store linked live restingLive result.incoming result.resting
      ⟨rfl, rfl, rfl, rfl, rfl⟩ ⟨rfl, rfl, rfl, rfl, rfl⟩
    refine ⟨written.incomingEq, ?_⟩
    rw [queue_eq_map, written.nodePtrs, shape, List.map_cons, written.restingEq, tailKept]

/-- The loop's trades are the first ones of a sweep over the opposite queue. -/
theorem matchLoop_prefix (clock : Clock) (fuel : Nat) (trades : List Trade)
    (linked : book.Linked) (live : incoming ∈ book.nodePtrs buy)
    (unfilled : book.UnfilledBut (book.load incoming).id) :
    ∃ new, (matchLoop clock incoming fuel book trades).2 = trades ++ new ∧
      new <+: (sweep clock (2 + trades.length) (book.load incoming)
        (book.queue (!buy))).trades := by
  induction fuel generalizing book trades with
  | zero => exact ⟨[], by simp [matchLoop], List.nil_prefix⟩
  | succ fuel ih =>
      rw [matchLoop_succ]
      cases next : book.nextMatch incoming with
      | none => exact ⟨[], by simp, List.nil_prefix⟩
      | some resting =>
          obtain ⟨active, ⟨rest, best⟩, crosses⟩ := nextMatch_eq_some next
          rw [linked.side_of_mem live] at best
          obtain ⟨tail, shape⟩ := nodePtrs_of_bestLevel best
          have queueEq : book.queue (!buy) = book.load resting :: tail.map book.load := by
            rw [queue_eq_map, shape, List.map_cons]
          have step := conserved_afterMatch linked live unfilled (mem_nodePtrs_of_bestLevel best)
            active (clock (2 + trades.length))
          obtain ⟨incomingEq, nextQueue⟩ := afterMatch_queue linked live shape
            (clock (2 + trades.length))
          set result := book.matchAt incoming resting (clock (2 + trades.length))
          have countEq : 2 + (trades ++ [result.trade]).length = 2 + trades.length + 1 := by
            rw [List.length_append, List.length_singleton, Nat.add_assoc]
          obtain ⟨new, tradesEq, isPrefix⟩ := ih (trades ++ [result.trade]) step.linked step.live
            step.unfilled
          rw [countEq, incomingEq, nextQueue] at isPrefix
          rw [queueEq, sweep_cons clock _ active crosses]
          exact ⟨result.trade :: new, by rw [tradesEq, List.append_assoc]; rfl,
            (List.prefix_cons_inj _).mpr isPrefix⟩

end Loop

theorem queue_addOrder_opposite (linked : book.Linked) (side : Side) (type : OrderType)
    (price : Price) (quantity : Quantity) (now : Nat) :
    (book.addOrder side type price quantity now).1.queue (!side.isBuy) =
      book.queue (!side.isBuy) := by
  have samePtrs : (book.addOrder side type price quantity now).1.nodePtrs (!side.isBuy) =
      book.nodePtrs (!side.isBuy) := by
    rw [nodePtrs, levels_addOrder, if_neg (by simp), nodePtrs]
  rw [queue_eq_map, queue_eq_map, samePtrs]
  apply List.map_congr_left
  intro ptr member
  exact load_addOrder_of_ne book side type price quantity now (linked.ptr_ne_acquired member)

/-- A submission trades along the opposite queue of the book it finds. -/
theorem acceptOrder_prefix (clock : Clock) (side : Side) (type : OrderType) (price : Price)
    (quantity : Quantity) (linked : book.Linked) (unfilled : book.Unfilled) :
    (book.acceptOrder clock side type price quantity).2.2 <+:
      (sweep clock 2 (book.addedOrder side type price quantity (clock 1))
        (book.queue (!side.isBuy))).trades := by
  obtain ⟨addedLinked, addedLive, addedOrder, addedUnfilled⟩ :=
    placed_addOrder clock side type price quantity linked unfilled
  obtain ⟨new, tradesEq, isPrefix⟩ :=
    matchLoop_prefix clock _ [] addedLinked addedLive addedUnfilled
  rw [addedOrder, queue_addOrder_opposite linked] at isPrefix
  rw [acceptOrder_eq, matched, matchOrder]
  dsimp only
  rw [tradesEq]
  exact isPrefix

/-- A trade of a submission is with an order of the opposite side that was on
the book before it, at that order's price. -/
theorem acceptOrder_trade_terms (clock : Clock) (side : Side) (type : OrderType) (price : Price)
    (quantity : Quantity) (linked : book.Linked) (unfilled : book.Unfilled) {trade : Trade}
    (member : trade ∈ (book.acceptOrder clock side type price quantity).2.2) :
    ∃ resting, book.orderAt resting.id = some resting ∧ resting.side.isBuy = !side.isBuy ∧
      resting.id < book.nextOrderId ∧ inReach side price resting = true ∧
      trade.price = resting.price ∧
      trade.buyOrderId = (if side.isBuy then book.nextOrderId else resting.id) ∧
      trade.sellOrderId = if side.isBuy then resting.id else book.nextOrderId := by
  have walked := acceptOrder_prefix clock side type price quantity linked unfilled
  obtain ⟨resting, inQueue, reached, priceEq, buyer, seller⟩ :=
    sweep_trade_terms clock 2 _ _ (walked.subset member)
  rw [queue_eq_map, List.mem_map] at inQueue
  obtain ⟨ptr, node, rfl⟩ := inQueue
  exact ⟨book.load ptr, linked.orderAt_of_mem node, linked.side_of_mem node,
    linked.below_of_mem node, reached, priceEq, buyer, seller⟩

/-- Whether the front of the best opposite level is in reach of a price. -/
def frontInReach (book : OrderBook) (side : Side) (price : Price) : Bool :=
  match book.bestLevel (!side.isBuy) with
  | some (resting :: _) => inReach side price (book.load resting)
  | _ => false

theorem frontInReach_addOrder (linked : book.Linked) (side : Side) (type : OrderType)
    (price : Price) (quantity : Quantity) (now : Nat) :
    (book.addOrder side type price quantity now).1.frontInReach side price =
      book.frontInReach side price := by
  have levelEq : (book.addOrder side type price quantity now).1.bestLevel (!side.isBuy) =
      book.bestLevel (!side.isBuy) := by
    rw [bestLevel, levels_addOrder, if_neg (by simp), bestLevel]
  unfold frontInReach
  rw [levelEq]
  split
  · next resting rest best =>
      rw [load_addOrder_of_ne book side type price quantity now
        (linked.ptr_ne_acquired (mem_nodePtrs_of_bestLevel best))]
  · rfl

/-- An order for a positive quantity trades exactly if the front of the best
opposite level is in its reach. -/
theorem acceptOrder_trades_eq_nil (clock : Clock) (side : Side) (type : OrderType)
    (price : Price) {quantity : Quantity} (nonzero : quantity ≠ 0) (linked : book.Linked)
    (unfilled : book.Unfilled) :
    (book.acceptOrder clock side type price quantity).2.2 = [] ↔
      book.frontInReach side price = false := by
  obtain ⟨addedLinked, addedLive, addedOrder, addedUnfilled⟩ :=
    placed_addOrder clock side type price quantity linked unfilled
  rw [← frontInReach_addOrder linked side type price quantity (clock 1), acceptOrder_eq, matched,
    matchOrder]
  dsimp only
  generalize (book.addOrder side type price quantity (clock 1)).1 = placed at *
  generalize (book.addOrder side type price quantity (clock 1)).2 = ptr at *
  have sideEq : (placed.load ptr).side = side := by rw [addedOrder]; rfl
  have priceEq : (placed.load ptr).price = price := by rw [addedOrder]; rfl
  have active : (placed.load ptr).remainingQty ≠ 0 := by rw [addedOrder]; exact nonzero
  have reach : placed.frontInReach side price = (placed.nextMatch ptr).isSome := by
    unfold frontInReach nextMatch
    rw [if_neg active, sideEq]
    cases placed.bestLevel (!side.isBuy) with
    | none => rfl
    | some level =>
        cases level with
        | nil => rfl
        | cons resting rest =>
            have crossesEq : priceMatch (placed.load ptr) (placed.load resting) =
                inReach side price (placed.load resting) := by
              rw [priceMatch, sideEq, priceEq, inReach]
            simp only [crossesEq]
            cases inReach side price (placed.load resting) <;> rfl
  rw [reach, matchLoop_succ]
  split
  · next stops => simp [stops]
  · next resting trades =>
      simp only [trades, Option.isSome_some, Bool.true_eq_false, iff_false]
      exact matchLoop_trades_ne_nil clock ptr _ _ (by simp)

end OrderBook

end OrderBookExchange
