import OrderBookExchange.PoolUsage
import OrderBookExchange.SlotRenaming

/-!
# A book that recycles nothing

The pool hands a released order out again.  Here a book with the pool is
compared with one that allocates every order anew: its free list is dropped, so
an order gets a slot that no order had before, and what is left in the slot of a
released order is overwritten at once.  Both books return the same and hold the
same orders, so recycling is not observable and no released order is read.
-/

namespace OrderBookExchange

namespace OrderBook

/-! ### Allocating every order anew -/

/-- The book with nothing to recycle, and with garbage in every slot that no
queue holds. -/
def renewed (book : OrderBook) (garbage : Nat → Order) : OrderBook :=
  { book with
    orderPool :=
      { book.orderPool with
        storage := fun ptr =>
          if ptr ∈ book.nodePtrs true ∨ ptr ∈ book.nodePtrs false then book.load ptr
          else garbage ptr
        freeList := [] } }

/-- The matching loop, with the resting order it may have released overwritten
before the next iteration. -/
def freshMatchLoop (garbage : Nat → Order) (clock : Clock) (incoming : Nat) :
    Nat → OrderBook → List Trade → OrderBook × List Trade
  | 0, book, trades => (book, trades)
  | fuel + 1, book, trades =>
      match book.nextMatch incoming with
      | none => (book, trades)
      | some resting =>
          let now := clock (2 + trades.length)
          freshMatchLoop garbage clock incoming fuel
            ((book.afterMatch incoming resting now).renewed garbage)
            (trades ++ [(book.matchAt incoming resting now).trade])

def freshMatchOrder (book : OrderBook) (garbage : Nat → Order) (clock : Clock)
    (incoming : Nat) : OrderBook × List Trade :=
  let fuel := book.nodeCount (!(book.load incoming).side.isBuy) + 1
  let result := freshMatchLoop garbage clock incoming fuel book []
  let order := result.1.load incoming
  (result.1.store incoming { order with status := matchedStatus order }, result.2)

def freshAcceptOrder (book : OrderBook) (garbage : Nat → Order) (clock : Clock) (side : Side)
    (type : OrderType) (price : Price) (quantity : Quantity) : OrderBook × Nat × List Trade :=
  let added := book.addOrder side type price quantity (clock 1)
  let result := added.1.freshMatchOrder garbage clock added.2
  (result.1.postMatch added.2 type, (added.1.load added.2).id, result.2)

/-- A call on a book that allocates every order anew.  The garbage left behind
by earlier calls comes with the call. -/
def freshStep (book : OrderBook) (call : EngineOp × (Nat → Order)) : OrderBook × EngineOutput :=
  let book := book.renewed call.2
  match call.1 with
  | .submit clock _ side type price quantity =>
      if rejects type price quantity then (book, .submitted 0 [])
      else
        let result := book.freshAcceptOrder call.2 clock side type
          (effectivePrice side type price) quantity
        (result.1, .submitted result.2.1 result.2.2)
  | .cancel _ orderId =>
      let result := book.cancelOrder orderId
      (result.1, .cancelled result.2)
  | .reduce _ orderId newQuantity =>
      let result := book.reduceOrder orderId newQuantity
      (result.1, .reduced result.2)

/-! ### The two books run alike -/

variable {rename : Equiv.Perm Nat} {left right : OrderBook}

theorem Renamed.renewed (renamed : Renamed rename left right) (garbage : Nat → Order) :
    Renamed rename left (right.renewed garbage) where
  levels := by
    intro buy
    rw [← renamed.levels buy]
    cases buy <;> rfl
  index := renamed.index
  loads := by
    intro buy ptr member
    have onBook : rename ptr ∈ right.nodePtrs true ∨ rename ptr ∈ right.nodePtrs false := by
      have renamedMember : rename ptr ∈ right.nodePtrs buy := by
        rw [renamed.nodePtrs]
        exact List.mem_map_of_mem member
      cases buy
      · exact Or.inr renamedMember
      · exact Or.inl renamedMember
    rw [← renamed.loads buy ptr member]
    exact if_pos onBook
  nextId := renamed.nextId
  bounded := renamed.bounded

section Loop

variable {buy : Bool} {incoming : Nat}

theorem Renamed.matchLoop (renamed : Renamed rename left right) (linked : left.Linked)
    (live : incoming ∈ left.nodePtrs buy) (unfilled : left.UnfilledBut (left.load incoming).id)
    (garbage : Nat → Order) (clock : Clock) (fuel : Nat) (trades : List Trade) :
    Renamed rename (OrderBook.matchLoop clock incoming fuel left trades).1
        (freshMatchLoop garbage clock (rename incoming) fuel right trades).1 ∧
      (freshMatchLoop garbage clock (rename incoming) fuel right trades).2 =
        (OrderBook.matchLoop clock incoming fuel left trades).2 := by
  induction fuel generalizing left right trades with
  | zero => exact ⟨renamed, rfl⟩
  | succ fuel ih =>
      rw [matchLoop_succ, freshMatchLoop, renamed.nextMatch live]
      cases next : left.nextMatch incoming with
      | none => exact ⟨renamed, rfl⟩
      | some resting =>
          obtain ⟨active, ⟨rest, best⟩, -⟩ := nextMatch_eq_some next
          rw [linked.side_of_mem live] at best
          have restingLive := mem_nodePtrs_of_bestLevel best
          have kept := conserved_afterMatch linked live unfilled restingLive active
            (clock (2 + trades.length))
          have matched := (renamed.afterMatch linked live restingLive
            (clock (2 + trades.length))).renewed garbage
          rw [Option.map_some]
          dsimp only
          rw [renamed.matchAt live restingLive]
          exact ih matched kept.linked kept.live kept.unfilled _

theorem Renamed.matchOrder (renamed : Renamed rename left right) (linked : left.Linked)
    (live : incoming ∈ left.nodePtrs buy) (unfilled : left.UnfilledBut (left.load incoming).id)
    (garbage : Nat → Order) (clock : Clock) :
    Renamed rename (left.matchOrder clock incoming).1
        (right.freshMatchOrder garbage clock (rename incoming)).1 ∧
      (right.freshMatchOrder garbage clock (rename incoming)).2 =
        (left.matchOrder clock incoming).2 := by
  unfold freshMatchOrder OrderBook.matchOrder
  dsimp only
  rw [renamed.loads buy incoming live, renamed.nodeCount]
  set fuel := left.nodeCount (!(left.load incoming).side.isBuy) + 1
  obtain ⟨looped, tradesEq⟩ := renamed.matchLoop linked live unfilled garbage clock fuel []
  obtain ⟨_, _, conserved⟩ := matchLoop_conserved clock fuel [] linked live unfilled
  rw [looped.loads buy incoming conserved.live]
  exact ⟨looped.store _ _, tradesEq⟩

end Loop

/-- A recycled slot on the left, a slot never used before on the right. -/
theorem Renamed.acceptOrder (renamed : Renamed rename left right) (linked : left.Linked)
    (unfilled : left.Unfilled) (empty : right.orderPool.freeList = []) (garbage : Nat → Order)
    (clock : Clock) (side : Side) (type : OrderType) (price : Price) (quantity : Quantity) :
    (∃ extended, Renamed extended (left.acceptOrder clock side type price quantity).1
        (right.freshAcceptOrder garbage clock side type price quantity).1) ∧
      (right.freshAcceptOrder garbage clock side type price quantity).2 =
        (left.acceptOrder clock side type price quantity).2 := by
  obtain ⟨addedLinked, addedLive, addedOrder, addedUnfilled⟩ :=
    placed_addOrder clock side type price quantity linked unfilled
  obtain ⟨extended, slot, added⟩ :=
    renamed.exists_addOrder side type price quantity (clock 1) linked empty
  obtain ⟨matched, tradesEq⟩ :=
    added.matchOrder addedLinked addedLive addedUnfilled garbage clock
  have conserved := matchOrder_conserved clock addedLinked addedLive addedUnfilled
  have loadEq := added.loads _ _ addedLive
  rw [slot] at matched tradesEq loadEq
  refine ⟨⟨extended, ?_⟩, ?_⟩
  · have posted := matched.postMatch conserved.linked conserved.live type
    rw [slot] at posted
    exact posted
  · rw [freshAcceptOrder, OrderBook.acceptOrder]
    dsimp only
    rw [tradesEq, loadEq]

/-- The state of the two books between calls. -/
def Alike (left right : OrderBook) : Prop :=
  (∃ rename, Renamed rename left right) ∧ left.Linked ∧ left.Unfilled

theorem Alike.step (alike : Alike left right) (call : EngineOp × (Nat → Order)) :
    Alike (left.step call.1).1 (right.freshStep call).1 ∧
      (left.step call.1).2 = (right.freshStep call).2 := by
  obtain ⟨⟨rename, related⟩, linked, unfilled⟩ := alike
  obtain ⟨op, garbage⟩ := call
  have kept := linked_step linked unfilled op
  have renamed := related.renewed garbage
  cases op with
  | submit clock symbol side type price quantity =>
      by_cases rejected : rejects type price quantity = true
      · have freshEq : right.freshStep (.submit clock symbol side type price quantity, garbage) =
            (right.renewed garbage, .submitted 0 []) := by
          rw [freshStep]
          exact if_pos rejected
        rw [freshEq, step_submit_of_rejects left clock symbol side rejected]
        exact ⟨⟨⟨rename, renamed⟩, linked, unfilled⟩, rfl⟩
      · obtain ⟨accepted, outputEq⟩ := renamed.acceptOrder linked unfilled rfl garbage clock side
          type (effectivePrice side type price) quantity
        have freshEq : right.freshStep (.submit clock symbol side type price quantity, garbage) =
            (((right.renewed garbage).freshAcceptOrder garbage clock side type
                (effectivePrice side type price) quantity).1,
              .submitted ((right.renewed garbage).freshAcceptOrder garbage clock side type
                  (effectivePrice side type price) quantity).2.1
                ((right.renewed garbage).freshAcceptOrder garbage clock side type
                  (effectivePrice side type price) quantity).2.2) := by
          rw [freshStep]
          exact if_neg rejected
        rw [OrderBook.step, if_neg rejected] at kept
        rw [freshEq, outputEq, OrderBook.step, if_neg rejected]
        exact ⟨⟨accepted, kept⟩, rfl⟩
  | cancel symbol orderId =>
      obtain ⟨cancelled, foundEq⟩ := renamed.cancelOrder linked orderId
      exact ⟨⟨⟨rename, cancelled⟩, kept⟩, congrArg EngineOutput.cancelled foundEq.symm⟩
  | reduce symbol orderId newQuantity =>
      obtain ⟨reduced, doneEq⟩ := renamed.reduceOrder linked orderId newQuantity
      exact ⟨⟨⟨rename, reduced⟩, kept⟩, congrArg EngineOutput.reduced doneEq.symm⟩

theorem alike_run (symbol : Symbol) (poolSize : Nat) (calls : List (EngineOp × (Nat → Order))) :
    Alike (Transition.run step (new symbol poolSize) (calls.map Prod.fst)).1
        (Transition.run freshStep (new symbol 0) calls).1 ∧
      (Transition.run step (new symbol poolSize) (calls.map Prod.fst)).2 =
        (Transition.run freshStep (new symbol 0) calls).2 := by
  have initial : Alike (new symbol poolSize) (new symbol 0) :=
    ⟨⟨1, renamed_new symbol poolSize 0⟩, linked_new symbol poolSize, unfilled_new symbol poolSize⟩
  have simulates : ∀ (left right : OrderBook) (call : EngineOp × (Nat → Order)),
      Alike left right → True →
        Alike (left.step call.1).1 (freshStep right call).1 ∧
          id (left.step call.1).2 = id (freshStep right call).2 :=
    fun _ _ call alike _ => alike.step call
  have observed := Transition.run_simulation simulates initial
    (Transition.along_of_forall (fun _ (_ : _ ∈ calls) => trivial) _)
  rw [List.map_id, List.map_id] at observed
  rw [Transition.run_map]
  exact observed

/-! ### Every order has a slot of its own -/

/-- The slots of a book that was never given a pool: the order with identifier
`n + 1` is in slot `n`, for good. -/
structure OwnSlots (book : OrderBook) : Prop where
  next : book.orderPool.capacity + 1 = book.nextOrderId
  own : ∀ id location, book.orderLookup.lookup id = some location → location.iterator + 1 = id

variable {book next : OrderBook}

theorem OwnSlots.settles (slots : book.OwnSlots) (settles : Settles book next) :
    next.OwnSlots := by
  induction settles with
  | refl => exact slots
  | store _ ptr order ih => exact ⟨ih.next, ih.own⟩
  | unlink _ found ptr ih =>
      constructor
      · rw [orderPool_unlink, nextOrderId_unlink]
        exact ih.next
      · intro other location otherFound
        exact ih.own other location (lookup_unlink _ otherFound).2

theorem OwnSlots.renewed (slots : book.OwnSlots) (garbage : Nat → Order) :
    (book.renewed garbage).OwnSlots :=
  ⟨slots.next, slots.own⟩

theorem OwnSlots.addOrder (slots : book.OwnSlots) (empty : book.orderPool.freeList = [])
    (side : Side) (type : OrderType) (price : Price) (quantity : Quantity) (now : Nat) :
    (book.addOrder side type price quantity now).1.OwnSlots := by
  obtain ⟨slot, grown⟩ := ObjectPool.acquire_of_empty empty
  constructor
  · rw [nextOrderId_addOrder, ← slots.next]
    exact congrArg (· + 1) grown
  · intro id location found
    rw [orderLookup_addOrder] at found
    by_cases own : id = book.nextOrderId
    · subst own
      rw [Finmap.lookup_insert, Option.some.injEq] at found
      subst found
      dsimp only
      rw [slot, slots.next]
    · rw [Finmap.lookup_insert_of_ne _ own] at found
      exact slots.own id location found

theorem OwnSlots.freshMatchLoop (slots : book.OwnSlots) (garbage : Nat → Order) (clock : Clock)
    (incoming fuel : Nat) (trades : List Trade) :
    (OrderBook.freshMatchLoop garbage clock incoming fuel book trades).1.OwnSlots := by
  induction fuel generalizing book trades with
  | zero => exact slots
  | succ fuel ih =>
      rw [OrderBook.freshMatchLoop]
      cases book.nextMatch incoming with
      | none => exact slots
      | some resting => exact ih ((slots.settles (.afterMatch _ _ _)).renewed garbage) _

theorem OwnSlots.freshStep (slots : book.OwnSlots) (call : EngineOp × (Nat → Order)) :
    (book.freshStep call).1.OwnSlots := by
  obtain ⟨op, garbage⟩ := call
  have renewed := slots.renewed garbage
  cases op with
  | submit clock symbol side type price quantity =>
      rw [OrderBook.freshStep]
      dsimp only
      split
      · exact renewed
      · have added := renewed.addOrder rfl side type (effectivePrice side type price) quantity
          (clock 1)
        have looped := added.freshMatchLoop garbage clock
        exact (looped _ _ _).settles ((Settles.refl.store _ _).trans (.postMatch _ type))
  | cancel symbol orderId => exact renewed.settles (.cancelOrder orderId)
  | reduce symbol orderId newQuantity =>
      exact renewed.settles (.reduceOrder orderId newQuantity)

theorem ownSlots_run (symbol : Symbol) (calls : List (EngineOp × (Nat → Order))) :
    (Transition.run freshStep (new symbol 0) calls).1.OwnSlots := by
  have initial : (new symbol 0).OwnSlots := by
    refine ⟨rfl, ?_⟩
    intro id location found
    simp [new] at found
  exact Transition.run_of_preserved OwnSlots (fun _ call slots => slots.freshStep call) initial
    calls

/-! ### What a book holds -/

/-- The contents of a book, wherever they are stored. -/
@[ext]
structure BookContents where
  levels : Bool → List (Price × List Order)
  index : Nat → Option (Side × Price × Order)
  nextOrderId : Nat

def contents (book : OrderBook) : BookContents where
  levels := fun buy => (book.levels buy).map (Prod.map id (List.map book.load))
  index := fun id => (book.orderLookup.lookup id).map fun location =>
    (location.side, location.price, book.load location.iterator)
  nextOrderId := book.nextOrderId

theorem Renamed.contents (renamed : Renamed rename left right) (linked : left.Linked) :
    right.contents = left.contents := by
  have levelsEq : right.contents.levels = left.contents.levels := by
    funext buy
    change (right.levels buy).map (Prod.map id (List.map right.load)) =
      (left.levels buy).map (Prod.map id (List.map left.load))
    rw [renamed.levels, List.map_map]
    apply List.map_congr_left
    intro level member
    have loadsEq : (level.2.map rename).map right.load = level.2.map left.load := by
      rw [List.map_map]
      apply List.map_congr_left
      intro ptr onLevel
      exact renamed.loads buy ptr (List.mem_flatMap.mpr ⟨level, member, onLevel⟩)
    exact congrArg (Prod.mk level.1) loadsEq
  have indexEq : right.contents.index = left.contents.index := by
    funext id
    change (right.orderLookup.lookup id).map _ = (left.orderLookup.lookup id).map _
    rw [renamed.index, Option.map_map]
    cases found : left.orderLookup.lookup id with
    | none => rfl
    | some location =>
        have loadEq := renamed.loads _ _ (linked.indexed id location found).1
        exact congrArg (fun order => some (location.side, location.price, order)) loadEq
  exact BookContents.ext levelsEq indexEq renamed.nextId

/-- A book with a pool of any size, after any run of calls, next to one that
allocates every order anew and whose released orders turn into garbage at once.
The slots on the queues of the first are distinct and not free, the index leads
to the order it names, and the slot the pool hands out next is none of them.
The pool has as many slots in use as there are orders, and is as large as it was
made or as it had to be.  Each order of the second is in a slot that no other
order was ever in.  Both return the same and hold the same. -/
theorem pool_refines_fresh_objects (symbol : Symbol) (poolSize : Nat)
    (calls : List (EngineOp × (Nat → Order))) :
    let ops := calls.map Prod.fst
    let recycled := Transition.run step (new symbol poolSize) ops
    let fresh := Transition.run freshStep (new symbol 0) calls
    let pool := recycled.1.orderPool
    (recycled.1.nodePtrs true ++ recycled.1.nodePtrs false).Nodup ∧
      (∀ buy, ∀ ptr ∈ recycled.1.nodePtrs buy, ptr ∉ pool.freeList ∧ ptr ≠ pool.acquire.1) ∧
      pool.freeList.Nodup ∧
      (∀ id location, recycled.1.orderLookup.lookup id = some location →
        location.iterator ∈ recycled.1.nodePtrs location.side.isBuy ∧
          (recycled.1.load location.iterator).id = id) ∧
      pool.activeCount = recycled.1.orderCount ∧
      pool.capacity = max poolSize (peakUse (new symbol poolSize) ops) ∧
      (∀ id location, fresh.1.orderLookup.lookup id = some location →
        location.iterator + 1 = id) ∧
      recycled.2 = fresh.2 ∧ recycled.1.contents = fresh.1.contents := by
  intro ops recycled fresh pool
  obtain ⟨⟨⟨rename, renamed⟩, linked, -⟩, outputEq⟩ := alike_run symbol poolSize calls
  obtain ⟨counted, capacity⟩ := (counted_new symbol poolSize).run (linked_new symbol poolSize)
    (unfilled_new symbol poolSize) ops
  have distinct : (recycled.1.nodePtrs true ++ recycled.1.nodePtrs false).Nodup := by
    rw [List.nodup_append]
    refine ⟨linked.nodup true, linked.nodup false, ?_⟩
    intro bid onBids ask onAsks
    exact linked.ptr_ne_of_opposite onBids onAsks
  refine ⟨distinct, ?_, linked.poolSound.free_nodup, ?_, counted.activeCount, capacity,
    (ownSlots_run symbol calls).own, outputEq, (renamed.contents linked).symm⟩
  · intro buy ptr member
    obtain ⟨location, found, rfl, -⟩ := linked.placed buy ptr member
    exact ⟨(linked.inUse _ location found).2, linked.ne_acquired found⟩
  · intro id location found
    obtain ⟨onBook, idEq, -⟩ := linked.indexed id location found
    exact ⟨onBook, idEq⟩

end OrderBook

end OrderBookExchange
