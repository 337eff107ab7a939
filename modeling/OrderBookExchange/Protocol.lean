import OrderBookExchange.Types

/-!
# The binary protocol

Fixed-size packed messages led by a type tag.  The socket layer casts the bytes
of a message to a structure and reads its fields, in the native byte order,
which is little-endian here, and in the native representation of doubles.  No
field is validated on the way, so every byte pattern is a message.
-/

namespace OrderBookExchange

/-- The unsigned integer stored in a run of bytes. -/
def littleEndian : List UInt8 → Nat
  | [] => 0
  | byte :: bytes => byte.toNat + 256 * littleEndian bytes

/-- The bytes of an unsigned integer of the given size. -/
def toLittleEndian : Nat → Nat → List UInt8
  | 0, _ => []
  | size + 1, value => .ofNat value :: toLittleEndian size (value / 256)

/-- The cast of a raw byte to a side. -/
def Side.ofByte (byte : UInt8) : Side :=
  if isBuy : byte.toNat = 0 then .buy
  else if isSell : byte.toNat = 1 then .sell
  else .undeclared byte (by omega)

def Side.toByte : Side → UInt8
  | .buy => 0
  | .sell => 1
  | .undeclared byte _ => byte

/-- The cast of a raw byte to an order type. -/
def OrderType.ofByte (byte : UInt8) : OrderType :=
  if isLimit : byte.toNat = 0 then .limit
  else if isMarket : byte.toNat = 1 then .market
  else if isIoc : byte.toNat = 2 then .ioc
  else .undeclared byte (by omega)

def OrderType.toByte : OrderType → UInt8
  | .limit => 0
  | .market => 1
  | .ioc => 2
  | .undeclared byte _ => byte

def OrderStatus.toByte : OrderStatus → UInt8
  | .accepted => 0
  | .filled => 1
  | .partiallyFilled => 2
  | .cancelled => 3
  | .rejected => 4

namespace MessageType

def newOrder : UInt8 := 1

def cancel : UInt8 := 2

def execReport : UInt8 := 3

end MessageType

/-- `set_symbol`: at most seven bytes, followed by nulls. -/
def setSymbol (symbol : Symbol) : List UInt8 :=
  symbol.take 7 ++ List.replicate (8 - min symbol.length 7) 0

/-- `get_symbol`: the bytes of a null-padded field up to the first null. -/
def getSymbol (field : List UInt8) : Symbol :=
  field.takeWhile (· ≠ 0)

structure OrderMessage where
  symbol : List UInt8
  side : Side
  orderType : OrderType
  price : Price
  quantity : Quantity

namespace OrderMessage

/-- Size of the message without its tag. -/
def bodySize : Nat := 22

/-- The fields of the structure laid over the bytes after the tag. -/
def ofBody (body : List UInt8) : OrderMessage where
  symbol := body.take 8
  side := .ofByte (body.getD 8 0)
  orderType := .ofByte (body.getD 9 0)
  price := .ofBits (littleEndian ((body.drop 10).take 8))
  quantity := .ofNat (littleEndian ((body.drop 18).take 4))

/-- The bytes after the tag of a message with these fields.  A price is given
by its 64 bits. -/
def toBody (symbol : Symbol) (side : Side) (orderType : OrderType) (price : UInt64)
    (quantity : Quantity) : List UInt8 :=
  setSymbol symbol ++ side.toByte :: orderType.toByte ::
    (toLittleEndian 8 price.toNat ++ toLittleEndian 4 quantity.toNat)

end OrderMessage

structure CancelMessage where
  symbol : List UInt8
  orderId : Nat

namespace CancelMessage

def bodySize : Nat := 16

def ofBody (body : List UInt8) : CancelMessage where
  symbol := body.take 8
  orderId := littleEndian ((body.drop 8).take 8)

def toBody (symbol : Symbol) (orderId : UInt64) : List UInt8 :=
  setSymbol symbol ++ toLittleEndian 8 orderId.toNat

end CancelMessage

structure ExecutionReport where
  orderId : Nat
  status : OrderStatus
  price : Price
  quantity : Quantity
  remainingQty : Quantity
  deriving DecidableEq

/-- The packed report, where the price is given by its 64 bits. -/
def ExecutionReport.toBytes (report : ExecutionReport) (price : UInt64) : List UInt8 :=
  MessageType.execReport ::
    (toLittleEndian 8 report.orderId ++ report.status.toByte ::
      (toLittleEndian 8 price.toNat ++
        (toLittleEndian 4 report.quantity.toNat ++ toLittleEndian 4 report.remainingQty.toNat)))

/-- A complete message on the wire.  A tag other than the two the server knows
is a message of one byte. -/
inductive Frame where
  | newOrder (body : List UInt8) (complete : body.length = OrderMessage.bodySize)
  | cancel (body : List UInt8) (complete : body.length = CancelMessage.bodySize)
  | other (tag : UInt8) (unknown : tag ≠ MessageType.newOrder ∧ tag ≠ MessageType.cancel)

def Frame.bytes : Frame → List UInt8
  | .newOrder body _ => MessageType.newOrder :: body
  | .cancel body _ => MessageType.cancel :: body
  | .other tag _ => [tag]

/-- The bytes of a sequence of messages. -/
def frameBytes (frames : List Frame) : List UInt8 :=
  frames.flatMap Frame.bytes

end OrderBookExchange
