import OrderBookExchange.Types

/-!
# The pre-trade risk checker

Limits, the seven checks in their evaluation order, and the bookkeeping of
fills.  Positions are per symbol and start at zero; the notional exposure is
one number for the whole firm.  Positions are integers, since a `long` is far
wider than any sum of fills the limits let through.
-/

namespace OrderBookExchange

inductive RejectReason where
  | none
  | killSwitchActive
  | invalidQuantity
  | invalidPrice
  | maxOrderQuantityExceeded
  | maxOrderNotionalExceeded
  | maxPositionExceeded
  | maxNotionalExposureExceeded
  deriving DecidableEq, Repr

structure RiskLimits where
  maxOrderQuantity : Quantity := 1000000
  maxOrderNotional : Double := .finite 10000000
  maxPositionAbs : Int := 5000000
  maxNotionalExposure : Double := .finite 50000000

structure RiskStats where
  totalChecks : Nat := 0
  totalPasses : Nat := 0
  totalRejections : Nat := 0
  byReason : RejectReason → Nat := fun _ => 0

namespace RiskStats

def recordPass (stats : RiskStats) : RiskStats :=
  { stats with
    totalChecks := stats.totalChecks + 1
    totalPasses := stats.totalPasses + 1 }

def recordReject (stats : RiskStats) (reason : RejectReason) : RiskStats :=
  { stats with
    totalChecks := stats.totalChecks + 1
    totalRejections := stats.totalRejections + 1
    byReason := Function.update stats.byReason reason (stats.byReason reason + 1) }

end RiskStats

structure RiskChecker where
  limits : RiskLimits
  killSwitch : Bool
  positions : Symbol → Int
  currentNotionalExposure : Double
  stats : RiskStats

/-- The signed size of an order or a fill. -/
def signedQuantity (side : Side) (quantity : Quantity) : Int :=
  if side.isBuy then quantity.toNat else -quantity.toNat

/-- `price * static_cast<double>(quantity)`. -/
def orderNotional (price : Price) (quantity : Quantity) : Double :=
  price.mul (.ofNat quantity.toNat)

namespace RiskChecker

def new (limits : RiskLimits) : RiskChecker where
  limits := limits
  killSwitch := false
  positions := fun _ => 0
  currentNotionalExposure := 0
  stats := {}

def position (checker : RiskChecker) (symbol : Symbol) : Int :=
  checker.positions symbol

def notionalExposure (checker : RiskChecker) : Double :=
  checker.currentNotionalExposure

def engageKillSwitch (checker : RiskChecker) : RiskChecker :=
  { checker with killSwitch := true }

def disengageKillSwitch (checker : RiskChecker) : RiskChecker :=
  { checker with killSwitch := false }

def isKilled (checker : RiskChecker) : Bool :=
  checker.killSwitch

/-- The first check an order fails, `none` when it passes them all. -/
def rejectReason (checker : RiskChecker) (symbol : Symbol) (side : Side) (type : OrderType)
    (price : Price) (quantity : Quantity) : RejectReason :=
  if checker.killSwitch then .killSwitchActive
  else if quantity = 0 then .invalidQuantity
  else if checker.limits.maxOrderQuantity < quantity then .maxOrderQuantityExceeded
  else if type = .limit ∧ price.le 0 then .invalidPrice
  else if type ≠ .market ∧
      checker.limits.maxOrderNotional.lt (orderNotional price quantity) then
    .maxOrderNotionalExceeded
  else if checker.limits.maxPositionAbs <
      |checker.position symbol + signedQuantity side quantity| then
    .maxPositionExceeded
  else if type ≠ .market ∧
      checker.limits.maxNotionalExposure.lt
        (checker.currentNotionalExposure.add (orderNotional price quantity)) then
    .maxNotionalExposureExceeded
  else .none

/-- The pre-trade check. -/
def check (checker : RiskChecker) (symbol : Symbol) (side : Side) (type : OrderType)
    (price : Price) (quantity : Quantity) : RiskChecker × RejectReason :=
  let reason := checker.rejectReason symbol side type price quantity
  let stats :=
    if reason = .none then checker.stats.recordPass else checker.stats.recordReject reason
  ({ checker with stats }, reason)

/-- The post-trade callback. -/
def onFill (checker : RiskChecker) (symbol : Symbol) (side : Side) (price : Price)
    (quantity : Quantity) : RiskChecker :=
  { checker with
    positions := Function.update checker.positions symbol
      (checker.positions symbol + signedQuantity side quantity)
    currentNotionalExposure :=
      checker.currentNotionalExposure.add (orderNotional price quantity) }

section Fields

variable (checker : RiskChecker) (symbol : Symbol) (side : Side) (type : OrderType)
  (price : Price) (quantity : Quantity)

@[simp]
theorem position_check (other : Symbol) :
    (checker.check symbol side type price quantity).1.position other = checker.position other :=
  rfl

theorem position_onFill (other : Symbol) :
    (checker.onFill symbol side price quantity).position other =
      checker.position other +
        if other = symbol then signedQuantity side quantity else 0 := by
  unfold position onFill
  by_cases same : other = symbol
  · subst same
    simp
  · simp [same]

end Fields

/-- What an order that passes the check satisfies. -/
structure Passes (checker : RiskChecker) (symbol : Symbol) (side : Side) (type : OrderType)
    (price : Price) (quantity : Quantity) : Prop where
  alive : checker.killSwitch = false
  nonzero : quantity ≠ 0
  quantityCap : quantity ≤ checker.limits.maxOrderQuantity
  priceValid : type = .limit → price.le 0 = false
  notionalCap : type ≠ .market →
    checker.limits.maxOrderNotional.lt (orderNotional price quantity) = false
  positionCap : |checker.position symbol + signedQuantity side quantity| ≤
    checker.limits.maxPositionAbs
  exposureCap : type ≠ .market →
    checker.limits.maxNotionalExposure.lt
      (checker.currentNotionalExposure.add (orderNotional price quantity)) = false

theorem passes_of_none {checker : RiskChecker} {symbol : Symbol} {side : Side}
    {type : OrderType} {price : Price} {quantity : Quantity}
    (accepted : checker.rejectReason symbol side type price quantity = .none) :
    checker.Passes symbol side type price quantity := by
  unfold rejectReason at accepted
  split_ifs at accepted with killed zero large unpriced notional position exposure
  refine ⟨by simpa using killed, zero, by simpa using large, ?_, ?_, not_lt.mp position, ?_⟩
  · intro limit
    simpa [limit] using unpriced
  · intro priced
    simpa [priced] using notional
  · intro priced
    simpa [priced] using exposure

end RiskChecker

/-- The pre-trade gate of a component that may run without a checker. -/
def riskGate (risk : Option RiskChecker) (symbol : Symbol) (side : Side) (type : OrderType)
    (price : Price) (quantity : Quantity) : Option RiskChecker × RejectReason :=
  match risk with
  | none => (none, .none)
  | some checker =>
      let result := checker.check symbol side type price quantity
      (some result.1, result.2)

end OrderBookExchange
