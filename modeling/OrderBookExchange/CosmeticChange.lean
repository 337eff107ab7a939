import OrderBookExchange.BookRuns

/-!
# Changes of orders that a book does not notice

A book reads the identifier, the side, the price and the quantities of an order,
and it writes what remains of it and its status.  A change of the stored orders,
slot by slot, that keeps the former and commutes with the latter commutes with
every operation of a book.  The timestamp and the type of an order can be changed
in this way.
-/

namespace OrderBookExchange

/-- A change of orders, by slot, that no operation of a book notices. -/
structure Cosmetic (change : Nat → Order → Order) : Prop where
  id : ∀ slot order, (change slot order).id = order.id
  side : ∀ slot order, (change slot order).side = order.side
  price : ∀ slot order, (change slot order).price = order.price
  quantity : ∀ slot order, (change slot order).quantity = order.quantity
  remainingQty : ∀ slot order, (change slot order).remainingQty = order.remainingQty
  statusEq : ∀ slot order, (change slot order).status = order.status
  remaining : ∀ slot order remainingQty,
    change slot { order with remainingQty } = { change slot order with remainingQty }
  status : ∀ slot order status, change slot { order with status } = { change slot order with status }

namespace Cosmetic

variable {change : Nat → Order → Order} (cosmetic : Cosmetic change) (slot : Nat) (order : Order)
include cosmetic

theorem isFilled : (change slot order).isFilled = order.isFilled := by
  rw [Order.isFilled, cosmetic.remainingQty, Order.isFilled]

theorem filledQty : (change slot order).filledQty = order.filledQty := by
  rw [Order.filledQty, cosmetic.quantity, cosmetic.remainingQty, Order.filledQty]

theorem matchedStatus : OrderBook.matchedStatus (change slot order) =
    OrderBook.matchedStatus order := by
  rw [OrderBook.matchedStatus, cosmetic.isFilled, cosmetic.filledQty, cosmetic.statusEq,
    OrderBook.matchedStatus]

theorem priceMatch (other : Nat) (resting : Order) :
    priceMatch (change slot order) (change other resting) = priceMatch order resting := by
  rw [OrderBookExchange.priceMatch, cosmetic.side, cosmetic.price, cosmetic.price,
    OrderBookExchange.priceMatch]

theorem executeMatch (other : Nat) (resting : Order) (now : Nat) :
    executeMatch (change slot order) (change other resting) now =
      { incoming := change slot (executeMatch order resting now).incoming
        resting := change other (executeMatch order resting now).resting
        trade := (executeMatch order resting now).trade } := by
  have incomingEq := cosmetic.remaining slot order
    (order.remainingQty - minQuantity order.remainingQty resting.remainingQty)
  have restingEq := cosmetic.remaining other resting
    (resting.remainingQty - minQuantity order.remainingQty resting.remainingQty)
  simp only [OrderBookExchange.executeMatch, cosmetic.remainingQty, cosmetic.side, cosmetic.id,
    cosmetic.price] at incomingEq restingEq ⊢
  rw [incomingEq, restingEq]

end Cosmetic

/-- The pool with every object replaced by its image, which may depend on the
slot. -/
def ObjectPool.mapSlots {T : Type} (change : Nat → T → T) (pool : ObjectPool T) :
    ObjectPool T where
  storage := fun ptr => change ptr (pool.storage ptr)
  capacity := pool.capacity
  freeList := pool.freeList

theorem ObjectPool.mapSlots_store {T : Type} (change : Nat → T → T) (pool : ObjectPool T)
    (ptr : Nat) (value : T) :
    (pool.store ptr value).mapSlots change = (pool.mapSlots change).store ptr (change ptr value) := by
  have storageEq : (fun other => change other (Function.update pool.storage ptr value other)) =
      Function.update (fun other => change other (pool.storage other)) ptr (change ptr value) := by
    funext other
    by_cases same : other = ptr
    · subst same
      simp
    · simp [Function.update_of_ne same]
  unfold mapSlots store
  dsimp only
  rw [storageEq]

theorem ObjectPool.acquire_mapSlots {T : Type} (change : Nat → T → T) (pool : ObjectPool T) :
    (pool.mapSlots change).acquire = (pool.acquire.1, pool.acquire.2.mapSlots change) := by
  unfold acquire mapSlots
  dsimp only
  cases pool.freeList <;> rfl

namespace OrderBook

/-- The book with every stored order changed. -/
def recast (change : Nat → Order → Order) (book : OrderBook) : OrderBook :=
  { book with orderPool := book.orderPool.mapSlots change }

variable (change : Nat → Order → Order) (book : OrderBook)

/-! ### Parts of a book -/

theorem load_recast (ptr : Nat) : (book.recast change).load ptr = change ptr (book.load ptr) :=
  rfl

theorem levels_recast (buy : Bool) : (book.recast change).levels buy = book.levels buy := by
  cases buy <;> rfl

theorem orderLookup_recast : (book.recast change).orderLookup = book.orderLookup :=
  rfl

theorem bestLevel_recast (buy : Bool) :
    (book.recast change).bestLevel buy = book.bestLevel buy := by
  rw [bestLevel, levels_recast, bestLevel]

theorem nodeCount_recast (buy : Bool) :
    (book.recast change).nodeCount buy = book.nodeCount buy := by
  rw [nodeCount, levels_recast, nodeCount]

theorem recast_withLevels (buy : Bool) (levels : List (Price × PriceLevel)) :
    (book.withLevels buy levels).recast change = (book.recast change).withLevels buy levels := by
  cases buy <;> rfl

theorem recast_store (ptr : Nat) (order : Order) :
    (book.store ptr order).recast change = (book.recast change).store ptr (change ptr order) := by
  unfold recast store
  dsimp only
  rw [ObjectPool.mapSlots_store]

/-! ### Operations on a book -/

theorem recast_eraseNode (location : OrderLocation) :
    (book.eraseNode location).recast change = (book.recast change).eraseNode location := by
  rw [eraseNode, recast_withLevels, eraseNode, levels_recast]

theorem recast_cleanupPriceLevel (side : Side) (price : Price) :
    (book.cleanupPriceLevel side price).recast change =
      (book.recast change).cleanupPriceLevel side price := by
  unfold cleanupPriceLevel
  rw [levels_recast]
  split
  · rw [recast_withLevels]
  · rfl

theorem recast_unlink (id : Nat) (location : OrderLocation) (ptr : Nat) :
    (book.unlink id location ptr).recast change =
      (book.recast change).unlink id location ptr := by
  have cleaned : ((book.eraseNode location).cleanupPriceLevel location.side
      location.price).recast change =
        ((book.recast change).eraseNode location).cleanupPriceLevel location.side
          location.price := by
    rw [recast_cleanupPriceLevel, recast_eraseNode]
  unfold unlink
  rw [← cleaned]
  rfl

variable {change} (cosmetic : Cosmetic change)
include cosmetic

theorem recast_removeOrder (ptr : Nat) :
    (book.removeOrder ptr).recast change = (book.recast change).removeOrder ptr := by
  rw [removeOrder, removeOrder, load_recast, cosmetic.id, orderLookup_recast]
  cases book.orderLookup.lookup (book.load ptr).id with
  | none => rfl
  | some location => exact recast_unlink change book _ location ptr

theorem recast_cancelOrder (id : Nat) :
    (book.recast change).cancelOrder id =
      ((book.cancelOrder id).1.recast change, (book.cancelOrder id).2) := by
  rw [cancelOrder, cancelOrder, orderLookup_recast]
  cases book.orderLookup.lookup id with
  | none => rfl
  | some location =>
      dsimp only
      rw [recast_unlink, recast_store, cosmetic.status, load_recast]

theorem recast_reduceOrder (id : Nat) (newQuantity : Quantity) :
    (book.recast change).reduceOrder id newQuantity =
      ((book.reduceOrder id newQuantity).1.recast change,
        (book.reduceOrder id newQuantity).2) := by
  rw [reduceOrder, reduceOrder, orderLookup_recast]
  cases book.orderLookup.lookup id with
  | none => rfl
  | some location =>
      dsimp only
      rw [load_recast, cosmetic.remainingQty]
      by_cases grows : (book.load location.iterator).remainingQty ≤ newQuantity
      · rw [if_pos grows, if_pos grows]
      · rw [if_neg grows, if_neg grows]
        by_cases zero : newQuantity = 0
        · rw [if_pos zero, if_pos zero, recast_cancelOrder book cosmetic]
        · have rewritten := cosmetic.remaining location.iterator (book.load location.iterator)
            newQuantity
          rw [if_neg zero, if_neg zero, recast_store, rewritten]

/-! ### Matching -/

theorem nextMatch_recast (incoming : Nat) :
    (book.recast change).nextMatch incoming = book.nextMatch incoming := by
  unfold nextMatch
  rw [load_recast, bestLevel_recast, cosmetic.remainingQty, cosmetic.side]
  simp only [load_recast, cosmetic.priceMatch]

theorem recast_afterMatch (incoming resting now : Nat) :
    (book.afterMatch incoming resting now).recast change =
      (book.recast change).afterMatch incoming resting now := by
  unfold afterMatch matchAt
  rw [load_recast, load_recast, cosmetic.executeMatch]
  dsimp only
  rw [cosmetic.isFilled]
  split
  · have marked := cosmetic.status resting
      (executeMatch (book.load incoming) (book.load resting) now).resting .filled
    rw [recast_removeOrder _ cosmetic, recast_store, recast_store, recast_store, marked]
  · rw [recast_store, recast_store]

theorem recast_matchLoop (clock : Clock) (incoming fuel : Nat) (trades : List Trade) :
    matchLoop clock incoming fuel (book.recast change) trades =
      ((matchLoop clock incoming fuel book trades).1.recast change,
        (matchLoop clock incoming fuel book trades).2) := by
  induction fuel generalizing book trades with
  | zero => rfl
  | succ fuel ih =>
      rw [matchLoop_succ, matchLoop_succ, nextMatch_recast book cosmetic]
      cases book.nextMatch incoming with
      | none => rfl
      | some resting =>
          have tradeEq : ((book.recast change).matchAt incoming resting
              (clock (2 + trades.length))).trade =
                (book.matchAt incoming resting (clock (2 + trades.length))).trade := by
            rw [matchAt, load_recast, load_recast, cosmetic.executeMatch]
            rfl
          dsimp only
          rw [tradeEq, ← recast_afterMatch book cosmetic, ih]

theorem recast_matchOrder (clock : Clock) (incoming : Nat) :
    (book.recast change).matchOrder clock incoming =
      ((book.matchOrder clock incoming).1.recast change, (book.matchOrder clock incoming).2) := by
  unfold matchOrder
  rw [load_recast, cosmetic.side, nodeCount_recast]
  dsimp only
  rw [recast_matchLoop book cosmetic]
  generalize matchLoop clock incoming (book.nodeCount (!(book.load incoming).side.isBuy) + 1) book
    [] = result
  have marked := cosmetic.status incoming (result.1.load incoming)
    (matchedStatus (result.1.load incoming))
  dsimp only
  rw [recast_store, marked, load_recast, cosmetic.matchedStatus]

theorem recast_postMatch (incoming : Nat) (type : OrderType) :
    (book.postMatch incoming type).recast change =
      (book.recast change).postMatch incoming type := by
  unfold postMatch
  dsimp only
  rw [load_recast, cosmetic.isFilled, cosmetic.filledQty]
  split
  · exact recast_removeOrder book cosmetic incoming
  · split
    · have marked := cosmetic.status incoming (book.load incoming)
        (if 0 < (book.load incoming).filledQty then .partiallyFilled else .cancelled)
      rw [recast_removeOrder _ cosmetic, recast_store, marked]
    · rfl

end OrderBook

end OrderBookExchange
