import OrderBookExchange.ObjectPool
import OrderBookExchange.SortedMap
import OrderBookExchange.Types
import Mathlib.Data.Finmap

/-!
# The order book

Two sorted maps from prices to queues of order pointers, an index from order
identifiers to queue positions, and the pool that owns the orders.  A queue
node is named by the order pointer it holds, so an iterator into a price level
is that pointer.

The bid and ask branches of the source differ only in the map and its
comparator.  They are one definition here, with the branch taken by
`side == Side::Buy` as a Boolean.
-/

namespace OrderBookExchange

/-- The orders at one price, in arrival order. -/
abbrev PriceLevel := List Nat

/-- Where a live order is: its side, its level and its queue node. -/
structure OrderLocation where
  side : Side
  price : Price
  iterator : Nat
  deriving DecidableEq

structure OrderBook where
  symbol : Symbol
  bids : List (Price × PriceLevel)
  asks : List (Price × PriceLevel)
  orderLookup : Finmap fun _ : Nat => OrderLocation
  orderPool : ObjectPool Order
  nextOrderId : Nat

/-- Priority of prices on a side: `std::greater` for bids, `std::less` for
asks. -/
def better : Bool → Price → Price → Bool
  | true, first, second => second.lt first
  | false, first, second => first.lt second

namespace OrderBook

def new (symbol : Symbol) (poolSize : Nat) : OrderBook where
  symbol := symbol
  bids := []
  asks := []
  orderLookup := ∅
  orderPool := .new poolSize
  nextOrderId := 1

/-- The map of one side: bids for `true`, asks for `false`. -/
def levels (book : OrderBook) : Bool → List (Price × PriceLevel)
  | true => book.bids
  | false => book.asks

def withLevels (book : OrderBook) (buy : Bool) (levels : List (Price × PriceLevel)) :
    OrderBook :=
  match buy with
  | true => { book with bids := levels }
  | false => { book with asks := levels }

def load (book : OrderBook) (ptr : Nat) : Order :=
  book.orderPool.load ptr

def store (book : OrderBook) (ptr : Nat) (order : Order) : OrderBook :=
  { book with orderPool := book.orderPool.store ptr order }

/-- Take an order from the pool, fill it in, append it to its price level and
record where it is. -/
def addOrder (book : OrderBook) (side : Side) (type : OrderType) (price : Price)
    (quantity : Quantity) (now : Nat) : OrderBook × Nat :=
  let acquired := book.orderPool.acquire
  let ptr := acquired.1
  let order := Order.new book.nextOrderId side type price quantity now
  let levels := SortedMap.upsert (better side.isBuy) price [] (· ++ [ptr])
    (book.levels side.isBuy)
  ({ book.withLevels side.isBuy levels with
      orderLookup := book.orderLookup.insert order.id ⟨side, price, ptr⟩
      orderPool := acquired.2.store ptr order
      nextOrderId := book.nextOrderId + 1 }, ptr)

/-- `bids_[loc.price].erase(loc.iterator)`, or the same on the asks.  The
subscript may create a level, and erasing a list node unhooks it from its
neighbours, whichever level they belong to. -/
def eraseNode (book : OrderBook) (location : OrderLocation) : OrderBook :=
  let levels := SortedMap.upsert (better location.side.isBuy) location.price [] id
    (book.levels location.side.isBuy)
  book.withLevels location.side.isBuy
    (levels.map fun level => (level.1, level.2.erase location.iterator))

/-- Drop the level at a price once it has no orders left. -/
def cleanupPriceLevel (book : OrderBook) (side : Side) (price : Price) : OrderBook :=
  match SortedMap.find? (better side.isBuy) price (book.levels side.isBuy) with
  | some [] =>
      book.withLevels side.isBuy
        (SortedMap.erase (better side.isBuy) price (book.levels side.isBuy))
  | _ => book

/-- The common tail of `cancel_order` and `remove_order`: splice the node out,
clean up its level, forget the index entry and release the order. -/
def unlink (book : OrderBook) (orderId : Nat) (location : OrderLocation)
    (ptr : Nat) : OrderBook :=
  let book := (book.eraseNode location).cleanupPriceLevel location.side location.price
  { book with
    orderLookup := book.orderLookup.erase orderId
    orderPool := book.orderPool.release ptr }

/-- Cancel an order by identifier; false when it is not on the book. -/
def cancelOrder (book : OrderBook) (orderId : Nat) : OrderBook × Bool :=
  match book.orderLookup.lookup orderId with
  | none => (book, false)
  | some location =>
      let ptr := location.iterator
      let book := book.store ptr { book.load ptr with status := .cancelled }
      (book.unlink orderId location ptr, true)

/-- Shrink an order's remaining quantity in place; zero cancels it. -/
def reduceOrder (book : OrderBook) (orderId : Nat) (newQuantity : Quantity) :
    OrderBook × Bool :=
  match book.orderLookup.lookup orderId with
  | none => (book, false)
  | some location =>
      let order := book.load location.iterator
      if order.remainingQty ≤ newQuantity then (book, false)
      else if newQuantity = 0 then book.cancelOrder orderId
      else
        (book.store location.iterator { order with remainingQty := newQuantity }, true)

/-- Remove an order the matching engine has finished with. -/
def removeOrder (book : OrderBook) (ptr : Nat) : OrderBook :=
  let orderId := (book.load ptr).id
  match book.orderLookup.lookup orderId with
  | none => book
  | some location => book.unlink orderId location ptr

/-! ### Accessors -/

/-- The first key of a side, or the sentinel `0.0` for an empty side. -/
def bestPrice (book : OrderBook) (buy : Bool) : Price :=
  match book.levels buy with
  | [] => 0
  | (price, _) :: _ => price

def bestBid (book : OrderBook) : Price :=
  book.bestPrice true

def bestAsk (book : OrderBook) : Price :=
  book.bestPrice false

def spread (book : OrderBook) : Price :=
  if book.bestBid.eq 0 || book.bestAsk.eq 0 then 0
  else book.bestAsk.sub book.bestBid

def midPrice (book : OrderBook) : Price :=
  if book.bestBid.eq 0 || book.bestAsk.eq 0 then 0
  else (book.bestBid.add book.bestAsk).half

/-- The 32-bit accumulator of the quantity totals. -/
def totalQuantity (book : OrderBook) (buy : Bool) : Quantity :=
  (book.levels buy).foldl
    (fun total level =>
      level.2.foldl (fun total ptr => total + (book.load ptr).remainingQty) total) 0

def totalBidQuantity (book : OrderBook) : Quantity :=
  book.totalQuantity true

def totalAskQuantity (book : OrderBook) : Quantity :=
  book.totalQuantity false

def bidDepth (book : OrderBook) : Nat :=
  book.bids.length

def askDepth (book : OrderBook) : Nat :=
  book.asks.length

def orderCount (book : OrderBook) : Nat :=
  book.orderLookup.keys.card

/-- `best_bid_level` for `true` and `best_ask_level` for `false`. -/
def bestLevel (book : OrderBook) (buy : Bool) : Option PriceLevel :=
  match book.levels buy with
  | [] => none
  | (_, level) :: _ => some level

/-! ### How the updates act on the parts of a book -/

section Fields

variable (book : OrderBook) (buy : Bool) (levels : List (Price × PriceLevel))

@[simp]
theorem levels_withLevels_self : (book.withLevels buy levels).levels buy = levels := by
  cases buy <;> rfl

theorem levels_withLevels (other : Bool) :
    (book.withLevels buy levels).levels other =
      if other = buy then levels else book.levels other := by
  cases buy <;> cases other <;> rfl

@[simp]
theorem orderLookup_withLevels :
    (book.withLevels buy levels).orderLookup = book.orderLookup := by
  cases buy <;> rfl

@[simp]
theorem orderPool_withLevels :
    (book.withLevels buy levels).orderPool = book.orderPool := by
  cases buy <;> rfl

@[simp]
theorem nextOrderId_withLevels :
    (book.withLevels buy levels).nextOrderId = book.nextOrderId := by
  cases buy <;> rfl

variable (ptr : Nat) (order : Order)

@[simp]
theorem levels_store : (book.store ptr order).levels buy = book.levels buy := by
  cases buy <;> rfl

@[simp]
theorem orderLookup_store : (book.store ptr order).orderLookup = book.orderLookup :=
  rfl

@[simp]
theorem nextOrderId_store : (book.store ptr order).nextOrderId = book.nextOrderId :=
  rfl

@[simp]
theorem load_store_self : (book.store ptr order).load ptr = order := by
  simp [store, load]

theorem store_store (later : Order) :
    (book.store ptr order).store ptr later = book.store ptr later := by
  simp [store, ObjectPool.store]

theorem load_store_of_ne {other : Nat} (different : other ≠ ptr) :
    (book.store ptr order).load other = book.load other := by
  simp [store, load, ObjectPool.load_store_of_ne _ _ different]

end Fields

end OrderBook

end OrderBookExchange
