import OrderBookExchange.FilledShares
import OrderBookExchange.MatchWalk
import OrderBookExchange.ShelvedBook

/-!
# The status of a resting order

Matching sets the status of the incoming order by what it filled, and marks a
resting order that it fills completely.  A resting order that is filled in part
keeps the status it had.  The status of the orders on the book is therefore
right as long as no submission leaves an order that has not traded before partly
filled.  Without NaN prices it is right after every call only then.
-/

namespace OrderBookExchange

/-- The order that a walk along a queue leaves partly filled: all orders up to
it are in reach, and the shares run out in the middle of it. -/
def partlyHit (side : Side) (price : Price) : Nat → List Order → Option Order
  | _, [] => none
  | left, resting :: rest =>
      if left = 0 ∨ inReach side price resting = false then none
      else if left < resting.remainingQty.toNat then some resting
      else partlyHit side price (left - resting.remainingQty.toNat) rest

theorem executeMatch_of_gone {incoming resting : Order} {now : Nat}
    (gone : (executeMatch incoming resting now).resting.isFilled = true) :
    resting.remainingQty.toNat ≤ incoming.remainingQty.toNat ∧
      (executeMatch incoming resting now).incoming.remainingQty.toNat =
        incoming.remainingQty.toNat - resting.remainingQty.toNat := by
  have balance := executeMatch_balance incoming resting now
  rw [Order.isFilled_eq_true.mp gone, UInt32.toNat_zero] at balance
  omega

theorem lt_of_executeMatch_stays {incoming resting : Order} {now : Nat}
    (stays : ¬(executeMatch incoming resting now).resting.isFilled = true) :
    incoming.remainingQty.toNat < resting.remainingQty.toNat := by
  have balance := executeMatch_balance incoming resting now
  have filled := executeMatch_fills stays
  rw [Order.isFilled_eq_true, ← UInt32.toNat_inj, UInt32.toNat_zero] at stays
  rw [filled, UInt32.toNat_zero] at balance
  omega

/-- A sweep trades with the order that it leaves partly filled, and leaves it its
status. -/
theorem sweep_partlyHit (clock : Clock) (count : Nat) (incoming : Order) {queue : List Order}
    {resting : Order}
    (hit : partlyHit incoming.side incoming.price incoming.remainingQty.toNat queue =
      some resting) :
    resting ∈ queue ∧
      (∃ order ∈ (sweep clock count incoming queue).queue,
        order.id = resting.id ∧ order.status = resting.status) ∧
      ∃ trade ∈ (sweep clock count incoming queue).trades, trade.Names resting.id := by
  induction queue generalizing count incoming with
  | nil => simp [partlyHit] at hit
  | cons head rest induction =>
      rw [partlyHit] at hit
      split at hit
      · simp at hit
      next goesOn =>
      rw [not_or, Bool.not_eq_false] at goesOn
      have active : incoming.remainingQty ≠ 0 := by
        intro zero
        exact goesOn.1 (by rw [zero, UInt32.toNat_zero])
      rw [sweep, if_neg active, if_pos (show priceMatch incoming head = true from goesOn.2)]
      split at hit
      · next runsOut =>
          -- The shares run out in the head, which stays with its status.
          have stays : ¬(executeMatch incoming head (clock count)).resting.isFilled = true :=
            fun gone => absurd (executeMatch_of_gone gone).1 (Nat.not_le.mpr runsOut)
          obtain rfl := Option.some.inj hit
          dsimp only
          rw [if_neg stays]
          refine ⟨List.mem_cons_self, ⟨_, List.mem_cons_self, rfl, rfl⟩, _,
            List.mem_singleton_self _, ?_⟩
          cases buy : incoming.side.isBuy <;> simp [Trade.Names, executeMatch, buy]
      · next lasts =>
          -- The head is used up, and the sweep goes on with what the walk has left.
          have gone : (executeMatch incoming head (clock count)).resting.isFilled = true := by
            by_contra stays
            exact lasts (lt_of_executeMatch_stays stays)
          rw [← (executeMatch_of_gone gone).2] at hit
          obtain ⟨member, kept, trade, traded, named⟩ := induction (count + 1)
            (executeMatch incoming head (clock count)).incoming hit
          dsimp only
          rw [if_pos gone]
          exact ⟨List.mem_cons_of_mem _ member, kept, trade, List.mem_cons_of_mem _ traded, named⟩

/-- The status that an order on the book should have. -/
def Order.restingStatus (order : Order) : OrderStatus :=
  if order.remainingQty.toNat < order.quantity.toNat then .partiallyFilled else .accepted

namespace OrderBook

variable {book : OrderBook}

/-! ### Orders of the book during matching -/

section Loop

variable {buy : Bool} {incoming : Nat}

/-- An order other than the incoming one is on the book after an iteration as it
was before, or it is the resting order and not yet filled. -/
theorem IterationFrame.orderAt_cases {next : OrderBook} {resting : Nat} {result : Match}
    (frame : IterationFrame book next buy incoming resting result) {id : Nat} {order : Order}
    (other : id ≠ (book.load incoming).id) (found : next.orderAt id = some order) :
    book.orderAt id = some order ∨
      (id = (book.load resting).id ∧ ¬result.resting.isFilled = true ∧
        order = result.resting) := by
  rw [frame.orders, if_neg other] at found
  split at found
  · next isResting =>
      split at found
      · simp at found
      · next stays => exact Or.inr ⟨isResting, stays, (Option.some.inj found).symm⟩
  · exact Or.inl found

/-- An order other than the incoming one is on the book after the loop as it
was before, or it is the one that the walk leaves partly filled. -/
theorem matchLoop_resting (clock : Clock) (fuel : Nat) (trades : List Trade)
    (linked : book.Linked) (live : incoming ∈ book.nodePtrs buy)
    (unfilled : book.UnfilledBut (book.load incoming).id) {id : Nat} {order : Order}
    (found : (matchLoop clock incoming fuel book trades).1.orderAt id = some order)
    (other : id ≠ (book.load incoming).id) :
    book.orderAt id = some order ∨
      ∃ older, book.orderAt id = some older ∧ ShrunkFrom order older ∧
        partlyHit (book.load incoming).side (book.load incoming).price
          (book.load incoming).remainingQty.toNat (book.queue (!buy)) = some older := by
  induction fuel generalizing book trades with
  | zero => exact Or.inl found
  | succ fuel ih =>
      rw [matchLoop_succ] at found
      cases next : book.nextMatch incoming with
      | none =>
          rw [next] at found
          exact Or.inl found
      | some resting =>
          rw [next] at found
          dsimp only at found
          obtain ⟨active, ⟨rest, best⟩, crosses⟩ := nextMatch_eq_some next
          rw [linked.side_of_mem live] at best
          have restingLive := mem_nodePtrs_of_bestLevel best
          obtain ⟨tail, shape⟩ := nodePtrs_of_bestLevel best
          have queueEq : book.queue (!buy) = book.load resting :: tail.map book.load := by
            rw [queue_eq_map, shape, List.map_cons]
          have frame := frame_afterMatch linked live restingLive (clock (2 + trades.length))
          have step := conserved_afterMatch linked live unfilled restingLive active
            (clock (2 + trades.length))
          obtain ⟨incomingEq, nextQueue⟩ := afterMatch_queue linked live shape
            (clock (2 + trades.length))
          have reached : inReach (book.load incoming).side (book.load incoming).price
              (book.load resting) = true := crosses
          have positive : (book.load incoming).remainingQty.toNat ≠ 0 :=
            fun zero => active (UInt32.toNat_inj.mp zero)
          have later := ih _ step.linked step.live step.unfilled found
            (by rw [step.idEq]; exact other)
          rw [incomingEq, nextQueue] at later
          rw [queueEq, partlyHit, if_neg (by simp [positive, reached])]
          by_cases gone : (book.matchAt incoming resting
              (clock (2 + trades.length))).resting.isFilled = true
          · -- The walk goes on behind the resting order, which is off the book.
            obtain ⟨enough, leftEq⟩ := executeMatch_of_gone gone
            change (book.matchAt incoming resting
              (clock (2 + trades.length))).incoming.remainingQty.toNat = _ at leftEq
            have before (stage : Order) (kept : (book.afterMatch incoming resting
                (clock (2 + trades.length))).orderAt id = some stage) :
                book.orderAt id = some stage :=
              (frame.orderAt_cases other kept).resolve_right fun stays => stays.2.1 gone
            rw [Match.leftover, if_pos gone, leftEq] at later
            rw [if_neg (by omega)]
            rcases later with same | ⟨older, olderFound, shrunk, hit⟩
            · exact Or.inl (before order same)
            · exact Or.inr ⟨older, before older olderFound, shrunk, hit⟩
          · -- The resting order stays with less, and the incoming order is filled.
            have filled : (book.matchAt incoming resting
                (clock (2 + trades.length))).incoming.remainingQty = 0 := executeMatch_fills gone
            rw [if_pos (lt_of_executeMatch_stays gone)]
            rw [Match.leftover, if_neg gone, filled, UInt32.toNat_zero, partlyHit,
              if_pos (Or.inl rfl)] at later
            rcases later with same | ⟨older, -, -, impossible⟩
            · rcases frame.orderAt_cases other same with unchanged | ⟨isResting, -, rfl⟩
              · exact Or.inl unchanged
              · right
                refine ⟨book.load resting, ?_, executeMatch_shrunk gone, rfl⟩
                rw [isResting]
                exact linked.orderAt_of_mem restingLive
            · simp at impossible

/-- The loop leaves the status of the incoming order to the code behind it. -/
theorem status_matchLoop (clock : Clock) (fuel : Nat) (trades : List Trade)
    (linked : book.Linked) (live : incoming ∈ book.nodePtrs buy)
    (unfilled : book.UnfilledBut (book.load incoming).id) :
    ((matchLoop clock incoming fuel book trades).1.load incoming).status =
      (book.load incoming).status := by
  induction fuel generalizing book trades with
  | zero => rfl
  | succ fuel ih =>
      rw [matchLoop_succ]
      cases next : book.nextMatch incoming with
      | none => rfl
      | some resting =>
          obtain ⟨active, ⟨rest, best⟩, -⟩ := nextMatch_eq_some next
          rw [linked.side_of_mem live] at best
          have restingLive := mem_nodePtrs_of_bestLevel best
          have frame := frame_afterMatch linked live restingLive (clock (2 + trades.length))
          have step := conserved_afterMatch linked live unfilled restingLive active
            (clock (2 + trades.length))
          dsimp only
          rw [ih _ step.linked step.live step.unfilled, frame.incomingEq]
          rfl

theorem matchOrder_resting (clock : Clock) (linked : book.Linked)
    (live : incoming ∈ book.nodePtrs buy)
    (unfilled : book.UnfilledBut (book.load incoming).id) {id : Nat} {order : Order}
    (found : (book.matchOrder clock incoming).1.orderAt id = some order)
    (other : id ≠ (book.load incoming).id) :
    book.orderAt id = some order ∨
      ∃ older, book.orderAt id = some older ∧ ShrunkFrom order older ∧
        partlyHit (book.load incoming).side (book.load incoming).price
          (book.load incoming).remainingQty.toNat (book.queue (!buy)) = some older := by
  obtain ⟨new, -, conserved⟩ := matchLoop_conserved clock
    (book.nodeCount (!(book.load incoming).side.isBuy) + 1) [] linked live unfilled
  apply matchLoop_resting clock (book.nodeCount (!(book.load incoming).side.isBuy) + 1) [] linked
    live unfilled _ other
  have written := orderAt_store conserved.linked conserved.live
    { (matchLoop clock incoming (book.nodeCount (!(book.load incoming).side.isBuy) + 1) book
        []).1.load incoming with
      status := matchedStatus ((matchLoop clock incoming
        (book.nodeCount (!(book.load incoming).side.isBuy) + 1) book []).1.load incoming) } rfl id
  rw [if_neg (by rw [← conserved.idEq] at other; exact other)] at written
  exact written.symm.trans found

/-- A new order that matching does not fill has the status of its fills. -/
theorem matchOrder_status (clock : Clock) (linked : book.Linked)
    (live : incoming ∈ book.nodePtrs buy)
    (unfilled : book.UnfilledBut (book.load incoming).id)
    (untouched : (book.load incoming).remainingQty = (book.load incoming).quantity)
    (accepted : (book.load incoming).status = .accepted)
    (left : ((book.matchOrder clock incoming).1.load incoming).remainingQty ≠ 0) :
    ((book.matchOrder clock incoming).1.load incoming).status =
      ((book.matchOrder clock incoming).1.load incoming).restingStatus := by
  obtain ⟨new, -, conserved⟩ := matchLoop_conserved clock
    (book.nodeCount (!(book.load incoming).side.isBuy) + 1) [] linked live unfilled
  have status := status_matchLoop clock
    (book.nodeCount (!(book.load incoming).side.isBuy) + 1) [] linked live unfilled
  have balance := conserved.balance (book.load incoming).id
  obtain ⟨older, olderFound, terms⟩ :=
    conserved.older _ _ (conserved.linked.orderAt_of_mem conserved.live)
  rw [conserved.idEq, linked.orderAt_of_mem live, Option.some.injEq] at olderFound
  rw [← olderFound] at terms
  nth_rewrite 2 [← conserved.idEq] at balance
  rw [remainingOf_of_mem linked live, remainingOf_of_mem conserved.linked conserved.live,
    untouched, terms.quantity] at balance
  rw [matchOrder] at left ⊢
  dsimp only at left ⊢
  rw [load_store_self] at left ⊢
  generalize (matchLoop clock incoming (book.nodeCount (!(book.load incoming).side.isBuy) + 1)
    book []).1.load incoming = reached at *
  dsimp only at left ⊢
  have stays : ¬reached.isFilled = true := fun filled => left (Order.isFilled_eq_true.mp filled)
  have filledEq : reached.filledQty.toNat = reached.quantity.toNat - reached.remainingQty.toNat :=
    filledQty_toNat (by omega)
  have someFilled : 0 < reached.filledQty ↔
      reached.remainingQty.toNat < reached.quantity.toNat := by
    rw [UInt32.lt_iff_toNat_lt, UInt32.toNat_zero, filledEq]
    omega
  rw [matchedStatus, if_neg stays, Order.restingStatus, status, accepted]
  simp only [someFilled]

end Loop

/-! ### Orders of the book across a submission -/

section Accept

variable (clock : Clock) (side : Side) (type : OrderType) (price : Price) (quantity : Quantity)
  (linked : book.Linked) (unfilled : book.Unfilled)
include linked unfilled

theorem orderAt_acceptOrder_of_ne {id : Nat} (other : id ≠ book.nextOrderId) :
    (book.acceptOrder clock side type price quantity).1.orderAt id =
      (book.matched clock side type price quantity).1.orderAt id := by
  have matched := matched_from clock side type price quantity linked unfilled
  obtain ⟨-, -, outcome⟩ := postMatch_cases matched.linked matched.live type
  rw [acceptOrder_eq]
  rcases outcome with ⟨orders, -⟩ | ⟨unchanged, -⟩
  · rw [orders, matched.idEq, if_neg other]
  · rw [unchanged]

/-- An older order is on the book after a submission as it was before, or it is
the one that the submission leaves partly filled. -/
theorem acceptOrder_resting {id : Nat} {order : Order} (other : id ≠ book.nextOrderId)
    (found : (book.acceptOrder clock side type price quantity).1.orderAt id = some order) :
    book.orderAt id = some order ∨
      ∃ older, book.orderAt id = some older ∧ ShrunkFrom order older ∧
        partlyHit side price quantity.toNat (book.queue (!side.isBuy)) = some older := by
  obtain ⟨addedLinked, addedLive, addedOrder, addedUnfilled⟩ :=
    placed_addOrder clock side type price quantity linked unfilled
  rw [orderAt_acceptOrder_of_ne clock side type price quantity linked unfilled other] at found
  have walked := matchOrder_resting clock addedLinked addedLive addedUnfilled found
    (by rw [addedOrder]; exact other)
  rw [orderAt_addOrder side type price quantity (clock 1) linked id, if_neg other, addedOrder,
    queue_addOrder_opposite linked] at walked
  exact walked

omit linked in
/-- Where no NaN is among the prices, a submission does trade with the order that
it is to leave partly filled, and leaves it its status. -/
theorem acceptOrder_partlyHit (valid : book.Valid) (priceNum : price ≠ .nan) {resting : Order}
    (hit : partlyHit side price quantity.toNat (book.queue (!side.isBuy)) = some resting) :
    (∃ order, (book.acceptOrder clock side type price quantity).1.orderAt resting.id =
        some order ∧ order.status = resting.status) ∧
      ∃ trade ∈ (book.acceptOrder clock side type price quantity).2.2,
        trade.Names resting.id := by
  obtain ⟨-, tradesEq, matchedValid, -, -, opposite, -, -⟩ :=
    matched_refines clock side type quantity valid priceNum
  obtain ⟨member, ⟨order, kept, idEq, statusEq⟩, named⟩ :=
    sweep_partlyHit clock 2 (book.view.incoming clock side type price quantity) hit
  have older := (valid.id_bounds_of_mem_queue member).2
  refine ⟨⟨order, ?_, statusEq⟩, ?_⟩
  · rw [orderAt_acceptOrder_of_ne clock side type price quantity valid.linked unfilled
      (Nat.ne_of_lt older), ← idEq]
    exact (matchedValid.mem_queue_iff.mp (opposite ▸ kept)).1
  · rw [acceptOrder_eq]
    exact tradesEq ▸ named

theorem acceptOrder_new_status {order : Order}
    (found : (book.acceptOrder clock side type price quantity).1.orderAt book.nextOrderId =
      some order) :
    order.status = order.restingStatus := by
  obtain ⟨addedLinked, addedLive, addedOrder, addedUnfilled⟩ :=
    placed_addOrder clock side type price quantity linked unfilled
  have matchedFrom := matched_from clock side type price quantity linked unfilled
  obtain ⟨-, -, outcome⟩ := postMatch_cases matchedFrom.linked matchedFrom.live type
  rw [acceptOrder_eq] at found
  dsimp only at found
  rcases outcome with ⟨orders, -⟩ | ⟨unchanged, left, -⟩
  · rw [orders, matchedFrom.idEq, if_pos rfl] at found
    simp at found
  · have ownOrder := matchedFrom.linked.orderAt_of_mem matchedFrom.live
    rw [unchanged, ← matchedFrom.idEq, ownOrder, Option.some.injEq] at found
    rw [← found]
    exact matchOrder_status clock addedLinked addedLive addedUnfilled (by rw [addedOrder]; rfl)
      (by rw [addedOrder]; rfl) left

end Accept

/-! ### Whole runs -/

/-- A submission is refused, or does not leave an order partly filled that has the
status of an untouched one. -/
def Spares (book : OrderBook) : EngineOp → Prop
  | .submit _ _ side type price quantity =>
      ¬rejects type price quantity = true →
        ∀ resting, partlyHit side (effectivePrice side type price) quantity.toNat
          (book.queue (!side.isBuy)) = some resting → resting.status = .partiallyFilled
  | _ => True

/-- Every order on the book has the status that its fills call for. -/
def StatusTold (book : OrderBook) : Prop :=
  ∀ id order, book.orderAt id = some order → order.status = order.restingStatus

theorem statusTold_step (linked : book.Linked) (unfilled : book.Unfilled)
    (told : book.StatusTold) {op : EngineOp} (noReduce : op.NoReduce) (spared : book.Spares op) :
    (book.step op).1.StatusTold := by
  intro id order found
  cases op with
  | submit clock symbol side type price quantity =>
      by_cases rejected : rejects type price quantity = true
      · rw [step_submit_of_rejects book clock symbol side rejected] at found
        exact told id order found
      · rw [step_submit_of_accepts book clock symbol side rejected] at found
        by_cases own : id = book.nextOrderId
        · subst own
          exact acceptOrder_new_status clock side type _ quantity linked unfilled found
        · rcases acceptOrder_resting clock side type _ quantity linked unfilled own found with
            same | ⟨older, olderFound, shrunk, hit⟩
          · exact told id order same
          · -- The order has traded before, and has even less left now.
            have olderStatus := spared rejected older hit
            have olderTold := told id older olderFound
            have olderPart : older.remainingQty.toNat < older.quantity.toNat := by
              by_contra whole
              rw [Order.restingStatus, if_neg whole, olderStatus] at olderTold
              simp at olderTold
            have less := shrunk.atMost
            have statusEq : order.status = older.status := by rw [shrunk.same]
            have quantityEq : order.quantity = older.quantity := by rw [shrunk.same]
            rw [statusEq, olderStatus, Order.restingStatus, quantityEq, if_pos (by omega)]
  | cancel symbol orderId =>
      obtain ⟨-, -, -, -, orders⟩ := cancelOrder_conserved linked unfilled orderId
      rw [step_cancel, orders] at found
      split at found
      · simp at found
      · exact told id order found
  | reduce symbol orderId newQuantity => exact noReduce.elim

theorem statusTold_run_new (symbol : Symbol) (poolSize : Nat) {ops : List EngineOp}
    (spared : Transition.Along step (fun book op => op.NoReduce ∧ book.Spares op)
      (new symbol poolSize) ops) :
    (Transition.run step (new symbol poolSize) ops).1.StatusTold := by
  have initial : (new symbol poolSize).StatusTold := by
    intro id order found
    simp at found
  have invariant := Transition.run_invariant
    (fun book : OrderBook => book.Linked ∧ book.Unfilled ∧ book.StatusTold)
    (fun book op holds condition =>
      have next := linked_step holds.1 holds.2.1 op
      ⟨next.1, next.2, statusTold_step holds.1 holds.2.1 holds.2.2 condition.1 condition.2⟩)
    ⟨linked_new symbol poolSize, unfilled_new symbol poolSize, initial⟩ spared
  exact invariant.2.2

theorem takenAlong_of_noReduce {id : Nat} {ops : List EngineOp}
    (noReduce : ∀ op ∈ ops, op.NoReduce) : takenAlong id book ops = 0 := by
  induction ops generalizing book with
  | nil => rfl
  | cons op ops ih =>
      rw [List.forall_mem_cons] at noReduce
      rw [takenAlong, ih noReduce.2, Nat.add_zero]
      cases op with
      | submit clock symbol side type price quantity => rfl
      | cancel symbol orderId => rfl
      | reduce symbol orderId newQuantity => exact noReduce.1.elim

/-- A status that tells whether a trade has named the order. -/
def NamedTold (symbol : Symbol) (poolSize : Nat) (ops : List EngineOp) : Prop :=
  ∀ id order, (Transition.run step (new symbol poolSize) ops).1.orderAt id = some order →
    order.status =
      if ∃ trade ∈ reportedTrades (Transition.history step (new symbol poolSize) ops),
          trade.Names id then
        .partiallyFilled
      else .accepted

theorem quantity_pos_of_reported (symbol : Symbol) (poolSize : Nat) (ops : List EngineOp)
    {trade : Trade}
    (reported : trade ∈ reportedTrades (Transition.history step (new symbol poolSize) ops)) :
    0 < trade.quantity := by
  obtain ⟨entry, inHistory, traded⟩ := List.mem_flatMap.mp reported
  obtain ⟨before, after, -, outputEq⟩ := Transition.exists_of_mem_history inHistory
  obtain ⟨linked, unfilled⟩ := linked_run_new symbol poolSize before
  rw [outputEq] at traded
  have accepted := accepted_of_traded traded
  obtain ⟨op, output⟩ := entry
  cases op with
  | submit clock named side type price quantity =>
      rw [step_submit_of_accepts _ clock named side accepted, EngineOutput.trades,
        acceptOrder_eq] at traded
      exact ((matched_from clock side type _ quantity linked unfilled).parties trade traded).1
  | cancel named orderId => exact accepted.elim
  | reduce named orderId newQuantity => exact accepted.elim

theorem namedTold_of_spared (symbol : Symbol) (poolSize : Nat) {ops : List EngineOp}
    (noReduce : ∀ op ∈ ops, op.NoReduce)
    (spared : Transition.Along step (fun book op => book.Spares op) (new symbol poolSize) ops) :
    NamedTold symbol poolSize ops := by
  intro id order found
  have told := statusTold_run_new symbol poolSize
    (Transition.along_and.mpr ⟨Transition.along_of_forall noReduce _, spared⟩) id order found
  rcases run_remaining (linked_new symbol poolSize) (unfilled_new symbol poolSize) _ found with
    ⟨older, olderFound, -⟩ | ⟨-, balance⟩
  · simp at olderFound
  · rw [takenAlong_of_noReduce noReduce, Nat.add_zero] at balance
    have named := tradedQty_ne_zero_iff id fun trade reported =>
      quantity_pos_of_reported symbol poolSize ops reported
    have filled : order.remainingQty.toNat < order.quantity.toNat ↔
        ∃ trade ∈ reportedTrades (Transition.history step (new symbol poolSize) ops),
          trade.Names id := by
      rw [← named]
      omega
    rw [told, Order.restingStatus]
    simp only [filled]

/-- A call after which the statuses are right spares the orders, if no NaN is
among the prices: the order that a submission leaves partly filled has been named
by its trade, and still has the status from before it. -/
theorem spares_of_namedTold (symbol : Symbol) (poolSize : Nat) {ops : List EngineOp}
    {op : EngineOp} (valid : (Transition.run step (new symbol poolSize) ops).1.Valid)
    (nanFree : op.NanFree) (told : NamedTold symbol poolSize (ops ++ [op])) :
    (Transition.run step (new symbol poolSize) ops).1.Spares op := by
  have runEq : (Transition.run step (new symbol poolSize) (ops ++ [op])).1 =
      ((Transition.run step (new symbol poolSize) ops).1.step op).1 := by
    rw [Transition.run_append]
    rfl
  have tradesEq : reportedTrades (Transition.history step (new symbol poolSize) (ops ++ [op])) =
      reportedTrades (Transition.history step (new symbol poolSize) ops) ++
        ((Transition.run step (new symbol poolSize) ops).1.step op).2.trades := by
    rw [Transition.history_append, reportedTrades_append, Transition.history_cons,
      reportedTrades_cons]
    exact congrArg _ (List.append_nil _)
  have unfilled := (linked_run_new symbol poolSize ops).2
  cases op with
  | submit clock named side type price quantity =>
      intro accepted resting hit
      obtain ⟨⟨order, found, statusEq⟩, trade, traded, names⟩ :=
        acceptOrder_partlyHit clock side type _ quantity unfilled valid
          (effectivePrice_num side nanFree) hit
      rw [step_submit_of_accepts _ clock named side accepted] at runEq tradesEq
      rw [← statusEq, told resting.id order (runEq ▸ found)]
      apply if_pos
      refine ⟨trade, ?_, names⟩
      rw [tradesEq]
      exact List.mem_append_right _ traded
  | cancel named orderId => trivial
  | reduce named orderId newQuantity => trivial

end OrderBook

namespace MatchingEngine

/-- After the run, every resting order is partially filled by its status if a
trade has named it and accepted if none has. -/
def RestingStatusTold (ops : List EngineOp) : Prop :=
  ∀ symbol id order, ((Transition.run step .new ops).1.book symbol).orderAt id = some order →
    order.status =
      if ∃ trade ∈ reportedTrades (historyOn symbol (Transition.history step .new ops)),
          trade.Names id then
        .partiallyFilled
      else .accepted

theorem restingStatusTold_iff {ops : List EngineOp} :
    RestingStatusTold ops ↔
      ∀ symbol, OrderBook.NamedTold symbol defaultPoolSize (callsOn symbol ops) := by
  apply forall_congr'
  intro symbol
  rw [OrderBook.NamedTold, book_run_new, historyOn_new]

/-- In a run of submissions and cancels, none of which leaves an order partly
filled that has the status of an untouched one, the statuses are right after every
call.  If no price is NaN, they are right after every call only in such runs. -/
theorem resting_status_of_spared (ops : List EngineOp) (noReduce : ∀ op ∈ ops, op.NoReduce) :
    (Transition.Along step (fun engine op => (engine.book op.symbol).Spares op) .new ops →
        ∀ before, before <+: ops → RestingStatusTold before) ∧
      ((∀ op ∈ ops, op.NanFree) → (∀ before, before <+: ops → RestingStatusTold before) →
        Transition.Along step (fun engine op => (engine.book op.symbol).Spares op) .new ops) := by
  constructor
  · rintro spared before ⟨after, rfl⟩
    rw [restingStatusTold_iff]
    intro symbol
    apply OrderBook.namedTold_of_spared
    · intro op member
      exact noReduce op (List.mem_append_left _ (List.mem_filter.mp member).1)
    · have onSymbol := books_independent.along_part (fun book op => book.Spares op) new before
        symbol
      rw [book_new] at onSymbol
      apply onSymbol.mp
      apply Transition.along_mono _ (Transition.along_append.mp spared).1
      rintro engine op spares rfl
      exact spares
  · clear noReduce
    intro nanFree told
    induction ops using List.reverseRecOn with
    | nil => trivial
    | append_singleton ops op induction =>
        have earlierNanFree : ∀ op ∈ ops, op.NanFree := fun op member =>
          nanFree op (List.mem_append_left _ member)
        have valid := (run_refines valid_new earlierNanFree).1 op.symbol
        have lastTold := restingStatusTold_iff.mp (told _ List.prefix_rfl) op.symbol
        have callsEq : callsOn op.symbol (ops ++ [op]) = callsOn op.symbol ops ++ [op] := by
          simp [callsOn]
        rw [callsEq] at lastTold
        rw [Transition.along_append, Transition.along_cons, book_run_new]
        refine ⟨?_, ?_, trivial⟩
        · apply induction earlierNanFree
          intro before isBefore
          exact told before (isBefore.trans (List.prefix_append _ _))
        · rw [book_run_new] at valid
          exact OrderBook.spares_of_namedTold op.symbol defaultPoolSize valid
            (nanFree op (by simp)) lastTold

/-- A sell order for four shares, taken by a buy order for ten. -/
def fourThenTen : List EngineOp :=
  [.submit (fun _ => 0) [65] .sell .limit (.finite 100) 4,
    .submit (fun _ => 0) [65] .buy .limit (.finite 100) 10]

theorem resting_status_of_spared_four_then_ten :
    ∃ order, ((Transition.run step .new fourThenTen).1.book [65]).orderAt 2 = some order ∧
      order.status = .partiallyFilled := by
  obtain ⟨order, found⟩ := Option.isSome_iff_exists.mp (show (((Transition.run step .new
    fourThenTen).1.book [65]).orderAt 2).isSome = true by decide +kernel)
  have spared : Transition.Along step (fun engine op => (engine.book op.symbol).Spares op) .new
      fourThenTen := by
    refine ⟨?_, ?_, trivial⟩
    · intro _ resting hit
      exact absurd (hit.symm.trans (show _ = none by decide +kernel)) (by simp)
    · intro _ resting hit
      exact absurd (hit.symm.trans (show _ = none by decide +kernel)) (by simp)
  refine ⟨order, found, ?_⟩
  rw [(resting_status_of_spared fourThenTen (by decide)).1 spared fourThenTen List.prefix_rfl
    [65] 2 order found]
  exact if_pos (by decide +kernel)

/-- A buy order that has sold to it four of its ten shares rests as accepted. -/
theorem passive_fill_rests_as_accepted :
    let ops := tenShares (.submit (fun _ => 0) [65] .sell .limit (.finite 100) 4)
    (((Transition.run step .new ops).1.book [65]).orderAt 1).map Order.status =
        some .accepted ∧
      ∃ trade ∈ reportedTrades (historyOn [65] (Transition.history step .new ops)),
        trade.Names 1 := by
  decide +kernel

end MatchingEngine

end OrderBookExchange
