import OrderBookExchange.OrderBook
import OrderBookExchange.TransitionRun

/-!
# The matching engine

Order intake, price-time matching and resting.  One engine serves many symbols,
each with a lazily created book.  An incoming order is placed on the book first
and matched afterwards, so during a submission the book may be crossed.

Clock readings are an input: a submission reads its clock at the start, once
for the order's timestamp, once for every trade and once at the end.  The trade
callback is not part of the engine's state.  A submission returns the trades in
the order in which the callback sees them.
-/

namespace OrderBookExchange

/-- The successive readings of `now_ns` during one submission. -/
abbrev Clock := Nat → Nat

/-- The outcome of one match: both orders after it, and its record. -/
structure Match where
  incoming : Order
  resting : Order
  trade : Trade

/-- `std::min` on quantities. -/
def minQuantity (first second : Quantity) : Quantity :=
  if second < first then second else first

/-- A single trade between an incoming and a resting order, at the resting
order's price. -/
def executeMatch (incoming resting : Order) (now : Nat) : Match :=
  let fillQty := minQuantity incoming.remainingQty resting.remainingQty
  let buyIncoming := incoming.side.isBuy
  { incoming := { incoming with remainingQty := incoming.remainingQty - fillQty }
    resting := { resting with remainingQty := resting.remainingQty - fillQty }
    trade :=
      { buyOrderId := if buyIncoming then incoming.id else resting.id
        sellOrderId := if buyIncoming then resting.id else incoming.id
        price := resting.price
        quantity := fillQty
        timestamp := now } }

/-- Whether an incoming order's price reaches a resting order's price. -/
def priceMatch (incoming resting : Order) : Bool :=
  if incoming.side.isBuy then resting.price.le incoming.price
  else incoming.price.le resting.price

namespace OrderBook

/-- Number of queue nodes on a side. -/
def nodeCount (book : OrderBook) (buy : Bool) : Nat :=
  ((book.levels buy).map fun level => level.2.length).sum

/-- The loop of `match_order`.  The fuel bounds the iterations; a call gives
it one more than the nodes of the opposite side, and every iteration that
continues removes one of them. -/
def matchLoop (clock : Clock) (incoming : Nat) :
    Nat → OrderBook → List Trade → OrderBook × List Trade
  | 0, book, trades => (book, trades)
  | fuel + 1, book, trades =>
      let order := book.load incoming
      if order.remainingQty = 0 then (book, trades)
      else
        match book.bestLevel (!order.side.isBuy) with
        | none => (book, trades)
        | some [] => (book, trades)
        | some (resting :: _) =>
            if priceMatch order (book.load resting) then
              let result := executeMatch order (book.load resting)
                (clock (2 + trades.length))
              let book := (book.store incoming result.incoming).store resting
                result.resting
              if result.resting.isFilled then
                let book := book.store resting
                  { result.resting with status := .filled }
                matchLoop clock incoming fuel (book.removeOrder resting)
                  (trades ++ [result.trade])
              else
                matchLoop clock incoming fuel book (trades ++ [result.trade])
            else (book, trades)

/-- The resting order the loop trades with next, if it does not stop. -/
def nextMatch (book : OrderBook) (incoming : Nat) : Option Nat :=
  if (book.load incoming).remainingQty = 0 then none
  else
    match book.bestLevel (!(book.load incoming).side.isBuy) with
    | some (resting :: _) =>
        if priceMatch (book.load incoming) (book.load resting) then some resting else none
    | _ => none

/-- The match of two orders on the book. -/
def matchAt (book : OrderBook) (incoming resting now : Nat) : Match :=
  executeMatch (book.load incoming) (book.load resting) now

/-- The book after an iteration that trades. -/
def afterMatch (book : OrderBook) (incoming resting now : Nat) : OrderBook :=
  let result := book.matchAt incoming resting now
  let rewritten := (book.store incoming result.incoming).store resting result.resting
  if result.resting.isFilled then
    (rewritten.store resting { result.resting with status := .filled }).removeOrder resting
  else rewritten

theorem nextMatch_eq_some {book : OrderBook} {incoming resting : Nat}
    (next : book.nextMatch incoming = some resting) :
    (book.load incoming).remainingQty ≠ 0 ∧
      (∃ rest, book.bestLevel (!(book.load incoming).side.isBuy) = some (resting :: rest)) ∧
      priceMatch (book.load incoming) (book.load resting) = true := by
  unfold nextMatch at next
  split at next
  · simp at next
  · next active =>
      split at next
      · next best =>
          split at next
          · next crosses =>
              obtain rfl := Option.some.inj next
              exact ⟨active, ⟨_, best⟩, crosses⟩
          · simp at next
      · simp at next

theorem matchLoop_succ (clock : Clock) (incoming fuel : Nat) (book : OrderBook)
    (trades : List Trade) :
    matchLoop clock incoming (fuel + 1) book trades =
      match book.nextMatch incoming with
      | none => (book, trades)
      | some resting =>
          matchLoop clock incoming fuel
            (book.afterMatch incoming resting (clock (2 + trades.length)))
            (trades ++ [(book.matchAt incoming resting (clock (2 + trades.length))).trade]) := by
  rw [matchLoop, nextMatch]
  dsimp only
  by_cases filled : (book.load incoming).remainingQty = 0
  · rw [if_pos filled, if_pos filled]
  rw [if_neg filled, if_neg filled]
  cases book.bestLevel (!(book.load incoming).side.isBuy) with
  | none => rfl
  | some level =>
      cases level with
      | nil => rfl
      | cons resting rest =>
          by_cases crosses : priceMatch (book.load incoming) (book.load resting) = true
          · simp only [crosses, if_true, afterMatch, matchAt]
            split
            · next gone => simp only [gone, if_true]
            · next stays => simp only [stays, Bool.false_eq_true, if_false]
          · simp only [crosses]
            rfl

/-- The status an incoming order has after matching. -/
def matchedStatus (order : Order) : OrderStatus :=
  if order.isFilled then .filled
  else if 0 < order.filledQty then .partiallyFilled
  else order.status

/-- Match an order already on the book against the opposite side. -/
def matchOrder (book : OrderBook) (clock : Clock) (incoming : Nat) :
    OrderBook × List Trade :=
  let fuel := book.nodeCount (!(book.load incoming).side.isBuy) + 1
  let result := matchLoop clock incoming fuel book []
  let order := result.1.load incoming
  (result.1.store incoming { order with status := matchedStatus order }, result.2)

/-- Post-match handling: a filled order leaves the book, and so does the
remainder of a market or IOC order. -/
def postMatch (book : OrderBook) (incoming : Nat) (type : OrderType) : OrderBook :=
  let order := book.load incoming
  if order.isFilled then book.removeOrder incoming
  else if type = .market ∨ type = .ioc then
    let status := if 0 < order.filledQty then OrderStatus.partiallyFilled else .cancelled
    (book.store incoming { order with status }).removeOrder incoming
  else book

/-- The book right after matching, with the incoming order still on it. -/
def matched (book : OrderBook) (clock : Clock) (side : Side) (type : OrderType)
    (price : Price) (quantity : Quantity) : OrderBook × List Trade :=
  let added := book.addOrder side type price quantity (clock 1)
  added.1.matchOrder clock added.2

/-- The part of a submission that works on the book of its symbol. -/
def acceptOrder (book : OrderBook) (clock : Clock) (side : Side) (type : OrderType)
    (price : Price) (quantity : Quantity) : OrderBook × Nat × List Trade :=
  let added := book.addOrder side type price quantity (clock 1)
  let result := added.1.matchOrder clock added.2
  (result.1.postMatch added.2 type, (added.1.load added.2).id, result.2)

end OrderBook

structure EngineStats where
  totalOrders : Nat := 0
  totalTrades : Nat := 0
  totalCancels : Nat := 0
  totalRejects : Nat := 0
  totalVolume : Nat := 0
  totalNotional : Double := 0
  totalLatencyNs : Nat := 0
  minLatencyNs : Nat := 2 ^ 64 - 1
  maxLatencyNs : Nat := 0

namespace EngineStats

def recordTrade (stats : EngineStats) (trade : Trade) : EngineStats :=
  { stats with
    totalTrades := stats.totalTrades + 1
    totalVolume := stats.totalVolume + trade.quantity.toNat
    totalNotional := stats.totalNotional.add
      (trade.price.mul (.ofNat trade.quantity.toNat)) }

def recordLatency (stats : EngineStats) (latency : Nat) : EngineStats :=
  { stats with
    totalLatencyNs := stats.totalLatencyNs + latency
    minLatencyNs := min stats.minLatencyNs latency
    maxLatencyNs := max stats.maxLatencyNs latency }

/-- The average latency of an order, not rounded. -/
def avgLatencyNs (stats : EngineStats) : ℚ :=
  if 0 < stats.totalOrders then stats.totalLatencyNs / stats.totalOrders else 0

end EngineStats

structure MatchingEngine where
  books : Finmap fun _ : Symbol => OrderBook
  stats : EngineStats

/-- Structural validation: a positive quantity, and a positive price on a
limit order. -/
def rejects (type : OrderType) (price : Price) (quantity : Quantity) : Bool :=
  quantity == 0 || (type == .limit && price.le 0)

/-- Market orders get a price that crosses the whole opposite side. -/
def effectivePrice (side : Side) (type : OrderType) (price : Price) : Price :=
  if type = .market then
    if side.isBuy then .finite Double.maxFinite else 0
  else price

namespace MatchingEngine

def new : MatchingEngine where
  books := ∅
  stats := {}

/-- The default pool size of a lazily created book. -/
def defaultPoolSize : Nat := 100000

/-- The book of a symbol, as `get_order_book` returns it. -/
def book (engine : MatchingEngine) (symbol : Symbol) : OrderBook :=
  (engine.books.lookup symbol).getD (.new symbol defaultPoolSize)

/-- `get_order_book` creates the book if the symbol has none. -/
def getOrderBook (engine : MatchingEngine) (symbol : Symbol) : MatchingEngine :=
  if symbol ∈ engine.books then engine
  else { engine with books := engine.books.insert symbol (.new symbol defaultPoolSize) }

def withBook (engine : MatchingEngine) (symbol : Symbol) (book : OrderBook) :
    MatchingEngine :=
  { engine with books := engine.books.insert symbol book }

/-- Submit an order: the engine after it, the identifier (zero for a rejected
order) and the trades handed to the callback. -/
def submitOrder (engine : MatchingEngine) (clock : Clock) (symbol : Symbol)
    (side : Side) (type : OrderType) (price : Price) (quantity : Quantity) :
    MatchingEngine × Nat × List Trade :=
  let engine := engine.getOrderBook symbol
  let stats := { engine.stats with totalOrders := engine.stats.totalOrders + 1 }
  if rejects type price quantity then
    ({ engine with stats := { stats with totalRejects := stats.totalRejects + 1 } }, 0, [])
  else
    let result := (engine.book symbol).acceptOrder clock side type
      (effectivePrice side type price) quantity
    let stats := result.2.2.foldl EngineStats.recordTrade stats
    let latency := clock (2 + result.2.2.length) - clock 0
    ({ engine.withBook symbol result.1 with stats := stats.recordLatency latency },
      result.2.1, result.2.2)

def cancelOrder (engine : MatchingEngine) (symbol : Symbol) (orderId : Nat) :
    MatchingEngine × Bool :=
  match engine.books.lookup symbol with
  | none => (engine, false)
  | some book =>
      let result := book.cancelOrder orderId
      let stats :=
        if result.2 then { engine.stats with totalCancels := engine.stats.totalCancels + 1 }
        else engine.stats
      ({ engine.withBook symbol result.1 with stats }, result.2)

/-- `get_order_book(symbol).reduce_order(order_id, new_quantity)`. -/
def reduceOrder (engine : MatchingEngine) (symbol : Symbol) (orderId : Nat)
    (newQuantity : Quantity) : MatchingEngine × Bool :=
  let engine := engine.getOrderBook symbol
  let result := (engine.book symbol).reduceOrder orderId newQuantity
  (engine.withBook symbol result.1, result.2)

def resetStats (engine : MatchingEngine) : MatchingEngine :=
  { engine with stats := {} }

end MatchingEngine

/-- One call on the engine. -/
inductive EngineOp where
  | submit (clock : Clock) (symbol : Symbol) (side : Side) (type : OrderType)
      (price : Price) (quantity : Quantity)
  | cancel (symbol : Symbol) (orderId : Nat)
  | reduce (symbol : Symbol) (orderId : Nat) (newQuantity : Quantity)

/-- What a call returns, with the trades the callback saw during it. -/
inductive EngineOutput where
  | submitted (id : Nat) (trades : List Trade)
  | cancelled (found : Bool)
  | reduced (done : Bool)
  deriving DecidableEq

/-- Perform one call. -/
def MatchingEngine.step (engine : MatchingEngine) :
    EngineOp → MatchingEngine × EngineOutput
  | .submit clock symbol side type price quantity =>
      let result := engine.submitOrder clock symbol side type price quantity
      (result.1, .submitted result.2.1 result.2.2)
  | .cancel symbol orderId =>
      let result := engine.cancelOrder symbol orderId
      (result.1, .cancelled result.2)
  | .reduce symbol orderId newQuantity =>
      let result := engine.reduceOrder symbol orderId newQuantity
      (result.1, .reduced result.2)

end OrderBookExchange
