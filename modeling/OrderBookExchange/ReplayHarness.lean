import OrderBookExchange.MatchingEngine
import OrderBookExchange.RiskChecker

/-!
# Tape replay

The harness feeds the rows of a tape to an engine behind an optional risk
checker.  Tape identifiers and engine identifiers are different numbers, so it
keeps a map from the former to the latter for the cancel rows.

A row comes with the clock readings of the submission it may cause.  Latency
and throughput figures are left out of the results.
-/

namespace OrderBookExchange

/-- One parsed row of a tape. -/
structure ReplayEvent where
  timestampNs : Int
  symbol : Symbol
  side : Side
  type : OrderType
  price : Price
  quantity : Quantity
  action : Char
  orderId : Nat

namespace ReplayEvent

def isNew (event : ReplayEvent) : Bool :=
  event.action == 'N' || event.action == 'n'

def isCancel (event : ReplayEvent) : Bool :=
  event.action == 'C' || event.action == 'c'

end ReplayEvent

/-- The counters of a replay.  The volume has the width of a quantity. -/
structure ReplayResult where
  eventsProcessed : Nat := 0
  newOrders : Nat := 0
  cancels : Nat := 0
  riskRejections : Nat := 0
  tradesGenerated : Nat := 0
  volumeTraded : Quantity := 0
  notionalTraded : Double := 0

/-- The harness's trade callback.  It does not feed the risk checker. -/
def ReplayResult.countTrade (result : ReplayResult) (trade : Trade) : ReplayResult :=
  { result with
    tradesGenerated := result.tradesGenerated + 1
    volumeTraded := result.volumeTraded + trade.quantity
    notionalTraded := result.notionalTraded.add
      (trade.price.mul (.ofNat trade.quantity.toNat)) }

structure ReplayHarness where
  engine : MatchingEngine
  risk : Option RiskChecker
  idMap : Nat → Option Nat
  result : ReplayResult

namespace ReplayHarness

/-- A harness on a fresh engine, before the first row. -/
def new (risk : Option RiskChecker) : ReplayHarness where
  engine := .new
  risk := risk
  idMap := fun _ => none
  result := {}

/-- A new order row: its order goes to the engine unless the checker rejects
it, and its tape identifier is mapped to what the engine returned. -/
def replayNew (harness : ReplayHarness) (clock : Clock) (event : ReplayEvent) :
    ReplayHarness × Option Nat :=
  let result := { harness.result with newOrders := harness.result.newOrders + 1 }
  let gate := riskGate harness.risk event.symbol event.side event.type event.price
    event.quantity
  if gate.2 ≠ .none then
    ({ harness with
        risk := gate.1
        result := { result with riskRejections := result.riskRejections + 1 } }, none)
  else
    let submitted := harness.engine.submitOrder clock event.symbol event.side event.type
      event.price event.quantity
    ({ engine := submitted.1
       risk := gate.1
       idMap :=
        if event.orderId ≠ 0 then
          Function.update harness.idMap event.orderId (some submitted.2.1)
        else harness.idMap
       result := submitted.2.2.foldl ReplayResult.countTrade result },
      some submitted.2.1)

/-- The engine identifier a cancel row aims at: the mapped one if the tape
identifier is known, else the tape identifier itself. -/
def target (harness : ReplayHarness) (event : ReplayEvent) : Nat :=
  (harness.idMap event.orderId).getD event.orderId

def replayCancel (harness : ReplayHarness) (event : ReplayEvent) : ReplayHarness :=
  { harness with
    engine := (harness.engine.cancelOrder event.symbol (harness.target event)).1
    result := { harness.result with cancels := harness.result.cancels + 1 } }

/-- One row of the tape, and what `submit_order` returned for it if it was
called. -/
def step (harness : ReplayHarness) (row : ReplayEvent × Clock) : ReplayHarness × Option Nat :=
  let harness :=
    { harness with
      result := { harness.result with
        eventsProcessed := harness.result.eventsProcessed + 1 } }
  if row.1.isNew then harness.replayNew row.2 row.1
  else if row.1.isCancel then (harness.replayCancel row.1, none)
  else (harness, none)

end ReplayHarness

end OrderBookExchange
