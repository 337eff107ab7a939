import OrderBookExchange.Double

/-!
# Orders, trades and the vocabulary of the exchange

Quantities keep the 32-bit width of the source, so their subtraction wraps.
Order identifiers and timestamps are 64-bit counters that no run can exhaust;
they are natural numbers.

The enumerations have a one-byte underlying type, and the wire protocol casts
raw bytes into them.  A byte that names no enumerator is therefore a value of
the type as well.
-/

namespace OrderBookExchange

abbrev Price := Double
abbrev Quantity := UInt32

/-- Symbols are byte strings. -/
abbrev Symbol := List UInt8

inductive Side where
  | buy
  | sell
  | undeclared (byte : UInt8) (unlisted : 2 ≤ byte.toNat)
  deriving DecidableEq

inductive OrderType where
  | limit
  | market
  | ioc
  | undeclared (byte : UInt8) (unlisted : 3 ≤ byte.toNat)
  deriving DecidableEq

inductive OrderStatus where
  | accepted
  | filled
  | partiallyFilled
  | cancelled
  | rejected
  deriving DecidableEq, Repr

/-- The test `side == Side::Buy`.  Every branch of the source asks this one
question, so a byte that names no side is handled as a sell. -/
def Side.isBuy : Side → Bool
  | .buy => true
  | _ => false

def Side.Declared (side : Side) : Prop :=
  side = .buy ∨ side = .sell

def OrderType.Declared (type : OrderType) : Prop :=
  type = .limit ∨ type = .market ∨ type = .ioc

instance (side : Side) : Decidable side.Declared :=
  inferInstanceAs (Decidable (_ ∨ _))

instance (type : OrderType) : Decidable type.Declared :=
  inferInstanceAs (Decidable (_ ∨ _ ∨ _))

/-- A request to buy or sell. -/
structure Order where
  id : Nat
  price : Price
  quantity : Quantity
  remainingQty : Quantity
  timestamp : Nat
  side : Side
  type : OrderType
  status : OrderStatus
  deriving DecidableEq

/-- Pool objects are value-initialised, which zeroes every field. -/
instance : Inhabited Order where
  default :=
    { id := 0, price := 0, quantity := 0, remainingQty := 0, timestamp := 0,
      side := .buy, type := .limit, status := .accepted }

namespace Order

/-- The constructor of a new order: accepted, unfilled and stamped. -/
def new (id : Nat) (side : Side) (type : OrderType) (price : Price)
    (quantity : Quantity) (now : Nat) : Order :=
  { id, price, quantity, remainingQty := quantity, timestamp := now,
    side, type, status := .accepted }

def filledQty (order : Order) : Quantity :=
  order.quantity - order.remainingQty

def isFilled (order : Order) : Bool :=
  order.remainingQty == 0

theorem isFilled_eq_true {order : Order} :
    order.isFilled = true ↔ order.remainingQty = 0 := by
  rw [isFilled, beq_iff_eq]

end Order

/-- A record of a match between two orders. -/
structure Trade where
  buyOrderId : Nat
  sellOrderId : Nat
  price : Price
  quantity : Quantity
  timestamp : Nat
  deriving DecidableEq

/-- Whether a trade names an order as one of its two parties. -/
def Trade.Names (trade : Trade) (id : Nat) : Prop :=
  trade.buyOrderId = id ∨ trade.sellOrderId = id

instance (trade : Trade) (id : Nat) : Decidable (trade.Names id) :=
  inferInstanceAs (Decidable (_ ∨ _))

end OrderBookExchange
