import OrderBookExchange.BookRefinement

/-!
# The matching loop refines the sweep

One iteration of the loop rewrites the incoming order and the head of the
opposite queue, and unlinks the head when it is filled.  By induction on the
fuel the whole loop performs the sweep of the opposite queue.  Placing the
incoming order first and removing it afterwards leaves no trace, so a
submission acts on the priority book by matching and resting the remainder.
-/

namespace OrderBookExchange

theorem executeMatch_fills {incoming resting : Order} {now : Nat}
    (stays : ¬(executeMatch incoming resting now).resting.isFilled = true) :
    (executeMatch incoming resting now).incoming.remainingQty = 0 := by
  rw [Order.isFilled_eq_true] at stays
  by_cases smaller : resting.remainingQty < incoming.remainingQty
  · simp only [executeMatch, minQuantity, if_pos smaller] at stays
    exact absurd (UInt32.sub_self _) stays
  · simp only [executeMatch, minQuantity, if_neg smaller]
    exact UInt32.sub_self _

/-- A queue after a match with its head. -/
def Match.leftover (result : Match) (rest : List Order) : List Order :=
  if result.resting.isFilled then rest else result.resting :: rest

theorem sweep_of_filled (clock : Clock) (count : Nat) {incoming : Order}
    (filled : incoming.remainingQty = 0) (queue : List Order) :
    sweep clock count incoming queue = ⟨[], incoming, queue⟩ := by
  cases queue with
  | nil => rfl
  | cons resting rest => rw [sweep, if_pos filled]

/-- A sweep that trades goes on with what the match leaves.  If that is the
head of the queue, the incoming order is filled and the sweep stops there. -/
theorem sweep_cons (clock : Clock) (count : Nat) {incoming resting : Order}
    (active : incoming.remainingQty ≠ 0) (crosses : priceMatch incoming resting = true)
    (rest : List Order) :
    sweep clock count incoming (resting :: rest) =
      let result := executeMatch incoming resting (clock count)
      let later := sweep clock (count + 1) result.incoming (result.leftover rest)
      ⟨result.trade :: later.trades, later.incoming, later.queue⟩ := by
  rw [sweep, if_neg active, if_pos crosses]
  dsimp only [Match.leftover]
  split
  · rfl
  · next stays => rw [sweep_of_filled clock (count + 1) (executeMatch_fills stays)]

theorem replaceOrder_self {order : Order} {queue : List Order}
    (unique : ∀ other ∈ queue, other.id = order.id → other = order) :
    replaceOrder order queue = queue := by
  unfold replaceOrder
  conv_rhs => rw [← List.map_id queue]
  apply List.map_congr_left
  intro other member
  split
  · next same => exact (unique other member same).symm
  · rfl

namespace OrderBook

variable {book : OrderBook} {ptr : Nat}

theorem Valid.mem_queue_of_live (valid : book.Valid) (live : book.Live ptr) :
    book.load ptr ∈ book.queue (book.load ptr).side.isBuy :=
  valid.mem_queue_iff_live.mpr ⟨ptr, live, rfl, rfl⟩

theorem Valid.tail_id_ne (valid : book.Valid) {buy : Bool} {head : Order}
    {tail : List Order} (shape : book.queue buy = head :: tail) :
    ∀ other ∈ tail, other.id ≠ head.id := by
  have distinct := valid.queue_ids_ne buy
  rw [shape, List.pairwise_cons] at distinct
  intro other member
  exact (distinct.1 other member).symm

/-- `final` is `book` after its order at `ptr` was matched with the given
result. -/
structure MatchedAs (book final : OrderBook) (ptr : Nat) (result : Sweep) : Prop where
  valid : final.Valid
  live : final.Live ptr
  load_eq : final.load ptr = result.incoming
  opposite : final.queue (!(book.load ptr).side.isBuy) = result.queue
  own : final.queue (book.load ptr).side.isBuy =
    replaceOrder result.incoming (book.queue (book.load ptr).side.isBuy)
  nextOrderId : final.nextOrderId = book.nextOrderId

theorem MatchedAs.refl (valid : book.Valid) (live : book.Live ptr) (trades : List Trade) :
    MatchedAs book book ptr
      ⟨trades, book.load ptr, book.queue (!(book.load ptr).side.isBuy)⟩ where
  valid := valid
  live := live
  load_eq := rfl
  opposite := rfl
  own := by
    rw [replaceOrder_self]
    intro other member same
    exact valid.eq_of_id_eq member (valid.mem_queue_of_live live) same
  nextOrderId := rfl

section Iteration

variable {resting : Nat} {tail : List Order}

theorem MatchedAs.rewrite (valid : book.Valid) (live : book.Live ptr)
    (restingLive : book.Live resting)
    (shape : book.queue (!(book.load ptr).side.isBuy) = book.load resting :: tail)
    (incoming head : Order) (trades : List Trade)
    (incomingKey : incoming.id = (book.load ptr).id ∧
      incoming.side = (book.load ptr).side ∧ incoming.price = (book.load ptr).price)
    (headKey : head.id = (book.load resting).id ∧
      head.side = (book.load resting).side ∧ head.price = (book.load resting).price) :
    MatchedAs book ((book.store ptr incoming).store resting head) ptr
      ⟨trades, incoming, head :: tail⟩ ∧
      ((book.store ptr incoming).store resting head).Live resting := by
  obtain ⟨idEq, sideEq, priceEq⟩ := incomingKey
  obtain ⟨headId, headSide, headPrice⟩ := headKey
  have restingMem : book.load resting ∈ book.queue (!(book.load ptr).side.isBuy) := by
    rw [shape]
    simp
  have ownMem := valid.mem_queue_of_live live
  have different : resting ≠ ptr := by
    rintro rfl
    exact valid.id_ne_of_opposite ownMem restingMem rfl
  have firstValid := valid.store ptr incoming idEq sideEq priceEq
  have firstLive := live_store ptr incoming idEq sideEq priceEq live
  have firstResting := live_store ptr incoming idEq sideEq priceEq restingLive
  have loadResting := load_store_of_ne book ptr incoming different
  rw [← loadResting] at headId headSide headPrice
  have secondLive := live_store resting head headId headSide headPrice firstLive
  have loadPtr : ((book.store ptr incoming).store resting head).load ptr = incoming := by
    rw [load_store_of_ne _ _ _ (Ne.symm different), load_store_self]
  refine ⟨⟨firstValid.store resting head headId headSide headPrice, secondLive, loadPtr, ?_, ?_,
    rfl⟩, live_store resting head headId headSide headPrice firstResting⟩
  · have untouched : replaceOrder incoming (book.queue (!(book.load ptr).side.isBuy)) =
        book.queue (!(book.load ptr).side.isBuy) := by
      apply replaceOrder_of_absent
      intro other member
      rw [idEq]
      exact (valid.id_ne_of_opposite ownMem member).symm
    rw [queue_store firstValid firstResting head headId, queue_store valid live incoming idEq,
      untouched, shape]
    apply replaceOrder_cons_self
    · rw [headId, loadResting]
    · rw [headId, loadResting]
      exact valid.tail_id_ne shape
  · rw [queue_store firstValid firstResting head headId, queue_store valid live incoming idEq,
      replaceOrder_of_absent]
    intro other member
    rw [headId, loadResting]
    obtain ⟨old, oldMem, rfl⟩ := List.mem_map.mp member
    split
    · rw [idEq]
      exact valid.id_ne_of_opposite ownMem restingMem
    · exact valid.id_ne_of_opposite oldMem restingMem

/-- Removing the filled head of the opposite side. -/
theorem MatchedAs.removeHead {final : OrderBook} {incoming head : Order}
    {trades : List Trade}
    (matched : MatchedAs book final ptr ⟨trades, incoming, head :: tail⟩)
    (restingLive : final.Live resting) (restingLoad : final.load resting = head)
    (incomingSide : incoming.side = (book.load ptr).side) :
    MatchedAs book (final.removeOrder resting) ptr ⟨trades, incoming, tail⟩ := by
  have valid := matched.valid
  have ptrMem := valid.mem_queue_of_live matched.live
  rw [matched.load_eq] at ptrMem
  have headMem : head ∈ final.queue (!incoming.side.isBuy) := by
    rw [incomingSide, matched.opposite]
    simp
  have idNe : incoming.id ≠ head.id := valid.id_ne_of_opposite ptrMem headMem
  have viewEq := view_removeOrder valid restingLive
  rw [restingLoad] at viewEq
  have queueEq : ∀ buy, (final.removeOrder resting).queue buy =
      dropOrder head.id (final.queue buy) :=
    fun buy => congrFun (congrArg PriorityBook.queue viewEq) buy
  have loadEq : ∀ other, (final.removeOrder resting).load other = final.load other := by
    intro other
    rw [removeOrder_of_live restingLive, load_unlink]
  constructor
  case valid => exact valid.removeOrder restingLive
  case live =>
    rw [Live, loadEq, removeOrder_of_live restingLive, orderLookup_unlink,
      Finmap.lookup_erase_ne]
    · exact matched.live
    · rw [matched.load_eq, restingLoad]
      exact idNe
  case load_eq => rw [loadEq, matched.load_eq]
  case opposite =>
    rw [queueEq, matched.opposite]
    apply dropOrder_cons_self rfl
    exact valid.tail_id_ne matched.opposite
  case own =>
    rw [queueEq, dropOrder_of_absent, matched.own]
    intro other member
    rw [← incomingSide] at member
    exact valid.id_ne_of_opposite member headMem
  case nextOrderId =>
    rw [removeOrder_of_live restingLive, nextOrderId_unlink, matched.nextOrderId]

theorem MatchedAs.side_eq {final : OrderBook} {result : Sweep}
    (matched : MatchedAs book final ptr result)
    (sideEq : result.incoming.side = (book.load ptr).side) :
    (final.load ptr).side = (book.load ptr).side := by
  rw [matched.load_eq, sideEq]

theorem MatchedAs.trans {middle final : OrderBook} {first second : Sweep}
    (toMiddle : MatchedAs book middle ptr first)
    (toFinal : MatchedAs middle final ptr second)
    (sideEq : first.incoming.side = (book.load ptr).side)
    (idEq : second.incoming.id = first.incoming.id) :
    MatchedAs book final ptr second := by
  have sameSide := toMiddle.side_eq sideEq
  constructor
  case valid => exact toFinal.valid
  case live => exact toFinal.live
  case load_eq => exact toFinal.load_eq
  case opposite => rw [← sameSide, toFinal.opposite]
  case own =>
    rw [← sameSide, toFinal.own, sameSide, toMiddle.own,
      replaceOrder_replaceOrder idEq.symm]
  case nextOrderId => rw [toFinal.nextOrderId, toMiddle.nextOrderId]

end Iteration

/-- An iteration that trades performs the match on the two queues. -/
theorem afterMatch_refines {resting : Nat} {tail : List Order} (valid : book.Valid)
    (live : book.Live ptr) (restingLive : book.Live resting)
    (shape : book.queue (!(book.load ptr).side.isBuy) = book.load resting :: tail) (now : Nat) :
    MatchedAs book (book.afterMatch ptr resting now) ptr
      ⟨[(book.matchAt ptr resting now).trade], (book.matchAt ptr resting now).incoming,
        (book.matchAt ptr resting now).leftover tail⟩ := by
  unfold afterMatch Match.leftover
  set result := book.matchAt ptr resting now
  dsimp only
  split
  · obtain ⟨rewritten, headLive⟩ := MatchedAs.rewrite valid live restingLive shape
      result.incoming { result.resting with status := .filled } [result.trade]
      ⟨rfl, rfl, rfl⟩ ⟨rfl, rfl, rfl⟩
    rw [store_store]
    exact rewritten.removeHead headLive (load_store_self _ _ _) rfl
  · exact (MatchedAs.rewrite valid live restingLive shape result.incoming result.resting
      [result.trade] ⟨rfl, rfl, rfl⟩ ⟨rfl, rfl, rfl⟩).1

theorem sweep_of_nextMatch_none (valid : book.Valid) (clock : Clock) (count : Nat)
    (stops : book.nextMatch ptr = none) :
    sweep clock count (book.load ptr) (book.queue (!(book.load ptr).side.isBuy)) =
      ⟨[], book.load ptr, book.queue (!(book.load ptr).side.isBuy)⟩ := by
  by_cases filled : (book.load ptr).remainingQty = 0
  · exact sweep_of_filled clock count filled _
  cases shape : book.queue (!(book.load ptr).side.isBuy) with
  | nil => rfl
  | cons head tail =>
      obtain ⟨resting, rest, best, rfl⟩ := valid.bestLevel_of_queue shape
      have apart : ¬priceMatch (book.load ptr) (book.load resting) = true := by
        intro crosses
        simp [nextMatch, filled, best, crosses] at stops
      rw [sweep, if_neg filled, if_neg apart]

/-- With fuel for every order on the opposite side, the loop is a sweep. -/
theorem matchLoop_refines (clock : Clock) {fuel : Nat} (trades : List Trade)
    (valid : book.Valid) (live : book.Live ptr)
    (enough : (book.load ptr).remainingQty ≠ 0 →
      (book.queue (!(book.load ptr).side.isBuy)).length < fuel) :
    (matchLoop clock ptr fuel book trades).2 = trades ++
        (sweep clock (2 + trades.length) (book.load ptr)
          (book.queue (!(book.load ptr).side.isBuy))).trades ∧
      MatchedAs book (matchLoop clock ptr fuel book trades).1 ptr
        (sweep clock (2 + trades.length) (book.load ptr)
          (book.queue (!(book.load ptr).side.isBuy))) := by
  induction fuel generalizing book trades with
  | zero =>
      have filled : (book.load ptr).remainingQty = 0 := by
        by_contra active
        exact absurd (enough active) (Nat.not_lt_zero _)
      rw [sweep_of_filled _ _ filled]
      exact ⟨by simp [matchLoop], .refl valid live []⟩
  | succ fuel ih =>
      rw [matchLoop_succ]
      cases next : book.nextMatch ptr with
      | none =>
          rw [sweep_of_nextMatch_none valid clock _ next]
          exact ⟨by simp, .refl valid live []⟩
      | some resting =>
          obtain ⟨active, ⟨rest, best⟩, crosses⟩ := nextMatch_eq_some next
          obtain ⟨restingLive, tail, shape⟩ := valid.queue_of_bestLevel best
          have step := afterMatch_refines valid live restingLive shape (clock (2 + trades.length))
          set result := book.matchAt ptr resting (clock (2 + trades.length))
          have oppositeEq : _ = result.leftover tail := step.opposite
          rw [← step.side_eq rfl] at oppositeEq
          -- an unfilled incoming order has used up the head of the queue
          have shorter : ((book.afterMatch ptr resting (clock (2 + trades.length))).load
              ptr).remainingQty ≠ 0 → (result.leftover tail).length < fuel := by
            intro unfilled
            have gone : result.resting.isFilled = true := by
              by_contra stays
              rw [step.load_eq] at unfilled
              exact unfilled (executeMatch_fills stays)
            have room := enough active
            rw [shape, List.length_cons] at room
            rw [Match.leftover, if_pos gone]
            omega
          have later := ih (trades ++ [result.trade]) step.valid step.live
            (by rw [oppositeEq]; exact shorter)
          have countEq : 2 + (trades ++ [result.trade]).length = 2 + trades.length + 1 := by
            rw [List.length_append, List.length_singleton, Nat.add_assoc]
          rw [oppositeEq, step.load_eq, countEq] at later
          rw [shape, sweep_cons clock _ active crosses]
          have composed := step.trans later.2 rfl (by rw [sweep_incoming])
          refine ⟨?_, ⟨composed.valid, composed.live, composed.load_eq, composed.opposite,
            composed.own, composed.nextOrderId⟩⟩
          rw [later.1, List.append_assoc]
          rfl

theorem nodeCount_eq (book : OrderBook) (buy : Bool) :
    book.nodeCount buy = (book.queue buy).length := by
  simp [nodeCount, queue, List.length_flatMap]

/-- The incoming order as `match_order` leaves it. -/
def settled (result : Sweep) : Sweep :=
  { result with
    incoming := { result.incoming with status := matchedStatus result.incoming } }

theorem MatchedAs.withStatus {final : OrderBook} {result : Sweep}
    (matched : MatchedAs book final ptr result)
    (sideEq : result.incoming.side = (book.load ptr).side) (status : OrderStatus) :
    MatchedAs book (final.store ptr { result.incoming with status }) ptr
      { result with incoming := { result.incoming with status } } := by
  have valid := matched.valid
  have loadEq := matched.load_eq.symm
  have ownMem := valid.mem_queue_of_live matched.live
  rw [matched.load_eq, sideEq] at ownMem
  have queueEq := queue_store valid matched.live { result.incoming with status }
    (by rw [loadEq])
  constructor
  case valid => exact valid.store _ _ (by rw [loadEq]) (by rw [loadEq]) (by rw [loadEq])
  case live =>
    exact live_store _ _ (by rw [loadEq]) (by rw [loadEq]) (by rw [loadEq]) matched.live
  case load_eq => rw [load_store_self]
  case opposite =>
    rw [queueEq, replaceOrder_of_absent]
    · exact matched.opposite
    · intro other member
      exact (valid.id_ne_of_opposite ownMem member).symm
  case own =>
    rw [queueEq, matched.own]
    exact replaceOrder_replaceOrder rfl
  case nextOrderId => exact matched.nextOrderId

theorem matchOrder_refines (clock : Clock) (valid : book.Valid) (live : book.Live ptr) :
    (book.matchOrder clock ptr).2 =
        (sweep clock 2 (book.load ptr)
          (book.queue (!(book.load ptr).side.isBuy))).trades ∧
      MatchedAs book (book.matchOrder clock ptr).1 ptr
        (settled (sweep clock 2 (book.load ptr)
          (book.queue (!(book.load ptr).side.isBuy)))) := by
  have enough : (book.queue (!(book.load ptr).side.isBuy)).length <
      book.nodeCount (!(book.load ptr).side.isBuy) + 1 := by
    rw [nodeCount_eq]
    omega
  obtain ⟨tradesEq, looped⟩ := matchLoop_refines clock [] valid live fun _ => enough
  rw [matchOrder]
  dsimp only
  rw [looped.load_eq]
  refine ⟨by simpa using tradesEq, ?_⟩
  exact looped.withStatus (by rw [sweep_incoming]) _

/-- Post-match handling takes an order off the book unless it goes on
resting. -/
theorem postMatch_refines (valid : book.Valid) (live : book.Live ptr) (type : OrderType) :
    (book.postMatch ptr type).Valid ∧
      (book.postMatch ptr type).view =
        if PriorityBook.rests type (book.load ptr) then book.view
        else book.view.drop (book.load ptr).id := by
  unfold postMatch PriorityBook.rests
  dsimp only
  by_cases filled : (book.load ptr).isFilled = true
  · rw [if_pos filled, filled]
    exact ⟨valid.removeOrder live, view_removeOrder valid live⟩
  · rw [if_neg filled]
    by_cases discarded : type = .market ∨ type = .ioc
    · have leaves : (type == .market || type == .ioc) = true := by simpa using discarded
      rw [if_pos discarded, leaves, Bool.not_true, Bool.and_false]
      generalize (if 0 < (book.load ptr).filledQty then OrderStatus.partiallyFilled
        else .cancelled) = status
      obtain ⟨storedValid, storedLive⟩ := valid.withStatus live status
      refine ⟨storedValid.removeOrder storedLive, ?_⟩
      rw [view_removeOrder storedValid storedLive, load_store_self,
        view_store valid live { book.load ptr with status } rfl]
      simp [PriorityBook.drop, PriorityBook.replace, dropOrder_replaceOrder]
    · have stays : (type == .market || type == .ioc) = false := by simpa using discarded
      have unfilled : (book.load ptr).isFilled = false := by simpa using filled
      rw [if_neg discarded, stays, unfilled]
      exact ⟨valid, rfl⟩

/-! ### A whole submission -/

section Accept

variable (clock : Clock) (side : Side) (type : OrderType) {price : Price}
  (quantity : Quantity)

/-- Where a submission stands after matching: the opposite queue is swept and
the own queue has the matched order inserted. -/
theorem matched_refines (valid : book.Valid) (priceNum : price ≠ .nan) :
    (book.addOrder side type price quantity (clock 1)).1.Live
        (book.addOrder side type price quantity (clock 1)).2 ∧
      (book.matched clock side type price quantity).2 =
        (book.view.matching clock side type price quantity).trades ∧
      (book.matched clock side type price quantity).1.Valid ∧
      (book.matched clock side type price quantity).1.Live book.orderPool.acquire.1 ∧
      (book.matched clock side type price quantity).1.load book.orderPool.acquire.1 =
        (settled (book.view.matching clock side type price quantity)).incoming ∧
      (book.matched clock side type price quantity).1.queue (!side.isBuy) =
        (book.view.matching clock side type price quantity).queue ∧
      (book.matched clock side type price quantity).1.queue side.isBuy =
        insertOrder side.isBuy
          (settled (book.view.matching clock side type price quantity)).incoming
          (book.queue side.isBuy) ∧
      (book.matched clock side type price quantity).1.nextOrderId =
        book.nextOrderId + 1 := by
  have addedValid := valid.addOrder side type quantity (clock 1) priceNum
  set added := book.addOrder side type price quantity (clock 1) with addedDef
  have ptrEq : added.2 = book.orderPool.acquire.1 := rfl
  have loadEq : added.1.load added.2 =
      book.view.incoming clock side type price quantity :=
    load_addOrder_self book side type price quantity (clock 1)
  have live : added.1.Live added.2 := by
    rw [Live, loadEq]
    exact Finmap.lookup_insert _
  have queueEq := queue_addOrder valid side type quantity (clock 1) priceNum
  rw [← addedDef] at queueEq
  have oppositeEq : added.1.queue (!side.isBuy) = book.queue (!side.isBuy) := by
    rw [queueEq, if_neg (by cases side.isBuy <;> simp)]
  have ownEq : added.1.queue side.isBuy =
      insertOrder side.isBuy (book.view.incoming clock side type price quantity)
        (book.queue side.isBuy) := by
    rw [queueEq, if_pos rfl]
    rfl
  obtain ⟨tradesEq, matchedAs⟩ := matchOrder_refines clock addedValid live
  have sideEq : (added.1.load added.2).side = side := by
    rw [loadEq]
    rfl
  rw [sideEq, loadEq, oppositeEq] at tradesEq
  have opposite := matchedAs.opposite
  have own := matchedAs.own
  have loadFinal := matchedAs.load_eq
  rw [sideEq, loadEq, oppositeEq] at opposite own
  rw [sideEq, loadEq, oppositeEq] at loadFinal
  refine ⟨live, tradesEq, matchedAs.valid, matchedAs.live, loadFinal, opposite, ?_,
    matchedAs.nextOrderId⟩
  have swept : (settled (sweep clock 2 (book.view.incoming clock side type price quantity)
      (book.queue (!side.isBuy)))).incoming.id = book.nextOrderId := by
    rw [settled]
    dsimp only
    rw [sweep_incoming]
    rfl
  refine own.trans ?_
  rw [ownEq]
  apply replaceOrder_insertOrder
  · rw [swept]
    rfl
  · rw [settled]
    dsimp only
    rw [sweep_incoming]
  · intro other member
    rw [swept]
    have := (valid.id_bounds_of_mem_queue member).2
    omega

theorem acceptOrder_refines (valid : book.Valid) (priceNum : price ≠ .nan) :
    (book.acceptOrder clock side type price quantity).1.Valid ∧
      (book.acceptOrder clock side type price quantity).1.view =
        (book.view.acceptOrder clock side type price quantity).1 ∧
      (book.acceptOrder clock side type price quantity).2 =
        (book.view.acceptOrder clock side type price quantity).2 := by
  obtain ⟨addedLive, tradesEq, matchedValid, live, loadEq, opposite, own, nextId⟩ :=
    matched_refines clock side type quantity valid priceNum
  set result := book.view.matching clock side type price quantity with resultDef
  set final := (book.matched clock side type price quantity).1 with finalDef
  set ptr := book.orderPool.acquire.1 with ptrDef
  have incomingId : result.incoming.id = book.nextOrderId := by
    rw [resultDef, PriorityBook.matching, sweep_incoming]
    rfl
  have settledId : (settled result).incoming.id = book.nextOrderId := incomingId
  have ownFresh : ∀ other ∈ book.queue side.isBuy,
      other.id ≠ (settled result).incoming.id := by
    intro other member
    have := (valid.id_bounds_of_mem_queue member).2
    omega
  have loadMem : (settled result).incoming ∈ final.queue side.isBuy := by
    rw [own]
    simp
  -- removing the order again restores its side and leaves the swept one alone
  have removed : ∀ {removal : OrderBook}, removal.view = final.view.drop book.nextOrderId →
      removal.view =
        { queue := fun buy => if buy = side.isBuy then book.queue buy else result.queue
          nextOrderId := book.nextOrderId + 1 } := by
    intro removal viewEq
    rw [viewEq]
    apply PriorityBook.ext
    · funext buy
      simp only [PriorityBook.drop, view_queue]
      by_cases same : buy = side.isBuy
      · subst same
        rw [if_pos rfl, own, ← settledId, dropOrder_insertOrder ownFresh]
      · rw [if_neg same, Bool.eq_not_of_ne same, opposite]
        apply dropOrder_of_absent
        intro other member
        rw [← opposite] at member
        rw [← settledId]
        exact (matchedValid.id_ne_of_opposite loadMem member).symm
    · exact nextId
  have acceptEq : book.acceptOrder clock side type price quantity =
      (final.postMatch ptr type, book.nextOrderId,
        (book.matched clock side type price quantity).2) := by
    have idEq : ((book.addOrder side type price quantity (clock 1)).1.load
        (book.addOrder side type price quantity (clock 1)).2).id = book.nextOrderId := by
      rw [addOrder_ptr, load_addOrder_self]
      rfl
    rw [acceptOrder, idEq]
    rfl
  obtain ⟨postValid, postView⟩ := postMatch_refines matchedValid live type
  rw [loadEq, settledId] at postView
  rw [acceptEq, PriorityBook.acceptOrder]
  dsimp only
  rw [← resultDef, tradesEq]
  refine ⟨postValid, ?_, rfl⟩
  have restsEq : PriorityBook.rests type (settled result).incoming =
      PriorityBook.rests type result.incoming := rfl
  rw [restsEq] at postView
  by_cases stays : PriorityBook.rests type result.incoming = true
  · rw [if_pos stays] at postView
    rw [postView]
    apply PriorityBook.ext
    · funext buy
      simp only [view_queue]
      by_cases same : buy = side.isBuy
      · subst same
        rw [if_pos rfl, if_pos stays]
        exact own
      · rw [if_neg same, Bool.eq_not_of_ne same]
        exact opposite
    · exact nextId
  · rw [if_neg stays] at postView
    rw [removed postView]
    simp only [if_neg stays]
    rfl

end Accept

end OrderBook

end OrderBookExchange
