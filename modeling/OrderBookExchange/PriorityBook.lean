import OrderBookExchange.MatchingEngine
import OrderBookExchange.PriorityQueue

/-!
# The book without pointers

A priority book is what an order book is for: two queues of orders in
price-time priority and the next identifier.  It has no pool, no index and no
levels, and an incoming order never sits on it while it is being matched.
Matching consumes the opposite queue from its head.
-/

namespace OrderBookExchange

/-- The result of matching an incoming order against a queue. -/
structure Sweep where
  trades : List Trade
  incoming : Order
  queue : List Order

/-- Match an incoming order against a queue from its head.  The counter numbers
the trades, so that they read the clock one after another. -/
def sweep (clock : Clock) : Nat → Order → List Order → Sweep
  | _, incoming, [] => ⟨[], incoming, []⟩
  | count, incoming, resting :: rest =>
      if incoming.remainingQty = 0 then ⟨[], incoming, resting :: rest⟩
      else if priceMatch incoming resting then
        let result := executeMatch incoming resting (clock count)
        if result.resting.isFilled then
          let later := sweep clock (count + 1) result.incoming rest
          ⟨result.trade :: later.trades, later.incoming, later.queue⟩
        else ⟨[result.trade], result.incoming, result.resting :: rest⟩
      else ⟨[], incoming, resting :: rest⟩

@[ext]
structure PriorityBook where
  queue : Bool → List Order
  nextOrderId : Nat

namespace PriorityBook

def empty : PriorityBook where
  queue := fun _ => []
  nextOrderId := 1

def find? (book : PriorityBook) (id : Nat) : Option Order :=
  (book.queue true ++ book.queue false).find? fun order => order.id = id

def drop (book : PriorityBook) (id : Nat) : PriorityBook :=
  { book with queue := fun buy => dropOrder id (book.queue buy) }

def replace (book : PriorityBook) (order : Order) : PriorityBook :=
  { book with queue := fun buy => replaceOrder order (book.queue buy) }

def cancelOrder (book : PriorityBook) (id : Nat) : PriorityBook × Bool :=
  match book.find? id with
  | none => (book, false)
  | some _ => (book.drop id, true)

def reduceOrder (book : PriorityBook) (id : Nat) (newQuantity : Quantity) :
    PriorityBook × Bool :=
  match book.find? id with
  | none => (book, false)
  | some order =>
      if order.remainingQty ≤ newQuantity then (book, false)
      else if newQuantity = 0 then (book.drop id, true)
      else (book.replace { order with remainingQty := newQuantity }, true)

/-- A submitted order before matching. -/
def incoming (book : PriorityBook) (clock : Clock) (side : Side) (type : OrderType)
    (price : Price) (quantity : Quantity) : Order :=
  Order.new book.nextOrderId side type price quantity (clock 1)

/-- Match a submitted order against the opposite queue. -/
def matching (book : PriorityBook) (clock : Clock) (side : Side) (type : OrderType)
    (price : Price) (quantity : Quantity) : Sweep :=
  sweep clock 2 (book.incoming clock side type price quantity) (book.queue (!side.isBuy))

/-- Whether what is left of an order goes on resting on the book. -/
def rests (type : OrderType) (order : Order) : Bool :=
  !order.isFilled && !(type == .market || type == .ioc)

/-- Match a submitted order and rest what is left of a limit order. -/
def acceptOrder (book : PriorityBook) (clock : Clock) (side : Side) (type : OrderType)
    (price : Price) (quantity : Quantity) : PriorityBook × Nat × List Trade :=
  let result := book.matching clock side type price quantity
  let remainder :=
    { result.incoming with status := OrderBook.matchedStatus result.incoming }
  ({ queue := fun buy =>
        if buy = side.isBuy then
          if rests type result.incoming then insertOrder buy remainder (book.queue buy)
          else book.queue buy
        else result.queue
     nextOrderId := book.nextOrderId + 1 },
    book.nextOrderId, result.trades)

end PriorityBook

/-! ### What a sweep leaves unchanged -/

theorem sweep_incoming (clock : Clock) (count : Nat) (incoming : Order)
    (queue : List Order) :
    (sweep clock count incoming queue).incoming =
      { incoming with
        remainingQty := (sweep clock count incoming queue).incoming.remainingQty } := by
  induction queue generalizing count incoming with
  | nil => rfl
  | cons resting rest ih =>
      unfold sweep
      split
      · rfl
      · split
        · dsimp only
          split
          · exact ih (count + 1) (executeMatch incoming resting (clock count)).incoming
          · rfl
        · rfl

end OrderBookExchange
