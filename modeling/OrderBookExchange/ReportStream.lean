import OrderBookExchange.RestingOrders
import OrderBookExchange.WireRoundTrip

/-!
# Reading the reports back

A client receives a stream of packed reports, of 26 bytes each and with nothing
between them.  Cut into pieces of that size and unpacked by the offsets of the
packed structure, the stream gives back the reports that the server has sent, in
their order.  Identifiers are 64 bits on the wire; a server whose counters leave
room for the bytes of a connection sends none that does not fit.
-/

namespace OrderBookExchange

theorem littleEndian_lt (bytes : List UInt8) : littleEndian bytes < 256 ^ bytes.length := by
  induction bytes with
  | nil => exact Nat.one_pos
  | cons byte bytes induction =>
      have low : byte.toNat < 256 := byte.toNat_lt
      rw [littleEndian, List.length_cons, Nat.pow_succ']
      omega

/-- The status of a byte, if it is one. -/
def OrderStatus.ofByte (byte : UInt8) : Option OrderStatus :=
  if byte = 0 then some .accepted
  else if byte = 1 then some .filled
  else if byte = 2 then some .partiallyFilled
  else if byte = 3 then some .cancelled
  else if byte = 4 then some .rejected
  else none

theorem OrderStatus.ofByte_toByte (status : OrderStatus) : ofByte status.toByte = some status := by
  cases status <;> rfl

namespace ExecutionReport

/-- Size of a packed report. -/
def size : Nat := 26

/-- The report in a piece of the stream. -/
def ofBytes (bytes : List UInt8) : Option ExecutionReport :=
  if bytes.length = size ∧ bytes.head? = some MessageType.execReport then
    (OrderStatus.ofByte (bytes.getD 9 0)).map fun status =>
      { orderId := littleEndian ((bytes.drop 1).take 8)
        status := status
        price := .ofBits (littleEndian ((bytes.drop 10).take 8))
        quantity := .ofNat (littleEndian ((bytes.drop 18).take 4))
        remainingQty := .ofNat (littleEndian ((bytes.drop 22).take 4)) }
  else none

section Fields

variable (report : ExecutionReport) (price : UInt64)

theorem toBytes_behindTag :
    (report.toBytes price).drop 1 = toLittleEndian 8 report.orderId ++ report.status.toByte ::
      (toLittleEndian 8 price.toNat ++
        (toLittleEndian 4 report.quantity.toNat ++
          toLittleEndian 4 report.remainingQty.toNat)) :=
  rfl

theorem toBytes_behindStatus :
    (report.toBytes price).drop 10 = toLittleEndian 8 price.toNat ++
      (toLittleEndian 4 report.quantity.toNat ++ toLittleEndian 4 report.remainingQty.toNat) := by
  have shift : (report.toBytes price).drop 10 = ((report.toBytes price).drop 1).drop (8 + 1) := by
    rw [List.drop_drop]
  rw [shift, toBytes_behindTag, List.drop_append, length_toLittleEndian,
    List.drop_of_length_le (by rw [length_toLittleEndian]; omega)]
  rfl

theorem toBytes_behindPrice :
    (report.toBytes price).drop 18 =
      toLittleEndian 4 report.quantity.toNat ++ toLittleEndian 4 report.remainingQty.toNat := by
  have shift : (report.toBytes price).drop 18 = ((report.toBytes price).drop 10).drop 8 := by
    rw [List.drop_drop]
  rw [shift, toBytes_behindStatus]
  exact List.drop_left' (length_toLittleEndian _ _)

theorem toBytes_behindQuantity :
    (report.toBytes price).drop 22 = toLittleEndian 4 report.remainingQty.toNat := by
  have shift : (report.toBytes price).drop 22 = ((report.toBytes price).drop 18).drop 4 := by
    rw [List.drop_drop]
  rw [shift, toBytes_behindPrice]
  exact List.drop_left' (length_toLittleEndian _ _)

theorem toBytes_status : (report.toBytes price).getD 9 0 = report.status.toByte := by
  simp [toBytes, length_toLittleEndian]

end Fields

theorem ofBytes_of_packed {report : ExecutionReport} {bytes : List UInt8}
    (packed : report.Packed bytes) (fits : report.orderId < 2 ^ 64) :
    ofBytes bytes = some report := by
  have length := packed.length_eq
  obtain ⟨price, priceEq, rfl⟩ := packed
  have longPrice : price.toNat < 256 ^ 8 := price.toNat_lt
  have longQuantity : report.quantity.toNat < 256 ^ 4 := report.quantity.toNat_lt
  have longRemaining : report.remainingQty.toNat < 256 ^ 4 := report.remainingQty.toNat_lt
  have longId : report.orderId < 256 ^ 8 := fits
  rw [ofBytes, if_pos ⟨length, rfl⟩, toBytes_status, OrderStatus.ofByte_toByte,
    toBytes_behindTag, toBytes_behindStatus, toBytes_behindPrice, toBytes_behindQuantity,
    List.take_left' (length_toLittleEndian _ _), List.take_left' (length_toLittleEndian _ _),
    List.take_left' (length_toLittleEndian _ _),
    List.take_of_length_le (length_toLittleEndian _ _).le]
  rw [littleEndian_toLittleEndian, littleEndian_toLittleEndian, littleEndian_toLittleEndian,
    littleEndian_toLittleEndian, Nat.mod_eq_of_lt longId, Nat.mod_eq_of_lt longPrice,
    Nat.mod_eq_of_lt longQuantity, Nat.mod_eq_of_lt longRemaining, priceEq, UInt32.ofNat_toNat,
    UInt32.ofNat_toNat]
  rfl

end ExecutionReport

/-- The reports in a stream of bytes.  The fuel bounds their number. -/
def readReports : Nat → List UInt8 → Option (List ExecutionReport)
  | _, [] => some []
  | 0, _ :: _ => none
  | fuel + 1, byte :: bytes =>
      match ExecutionReport.ofBytes ((byte :: bytes).take ExecutionReport.size),
        readReports fuel ((byte :: bytes).drop ExecutionReport.size) with
      | some report, some reports => some (report :: reports)
      | _, _ => none

theorem readReports_flatten {reports : List ExecutionReport} {packets : List (List UInt8)}
    (packed : List.Forall₂ ExecutionReport.Packed reports packets)
    (fit : ∀ report ∈ reports, report.orderId < 2 ^ 64) {fuel : Nat}
    (enough : packets.length ≤ fuel) : readReports fuel packets.flatten = some reports := by
  induction packed generalizing fuel with
  | nil => cases fuel <;> rfl
  | @cons report packet reports packets first rest induction =>
      obtain ⟨fuel, rfl⟩ : ∃ smaller, fuel = smaller + 1 :=
        ⟨fuel - 1, by rw [List.length_cons] at enough; omega⟩
      have size : packet.length = ExecutionReport.size := first.length_eq
      have later := induction (fun other member => fit other (List.mem_cons_of_mem _ member))
        (Nat.le_of_succ_le_succ enough)
      have head := ExecutionReport.ofBytes_of_packed first (fit report List.mem_cons_self)
      rw [List.flatten_cons]
      cases packet with
      | nil => cases size
      | cons byte bytes =>
          rw [List.cons_append, readReports, ← List.cons_append, List.take_left' size,
            List.drop_left' size, head, later]

theorem length_le_flatten_of_packed {reports : List ExecutionReport}
    {packets : List (List UInt8)} (packed : List.Forall₂ ExecutionReport.Packed reports packets) :
    packets.length ≤ packets.flatten.length := by
  induction packed with
  | nil => exact le_rfl
  | cons first rest induction =>
      rw [List.length_cons, List.flatten_cons, List.length_append, first.length_eq]
      omega

namespace TcpServer

/-- What every message keeps of the server, and allows of the calls for it, holds
over the loop.  The count bounds the messages handled so far. -/
theorem handleLoop_rule (invariant : Nat → TcpServer → Prop) (allowed : ServerCall → Prop)
    (limit : Nat)
    (orders : ∀ count server clock msg, count < limit → invariant count server →
      invariant (count + 1) (handleNewOrder server clock msg).1 ∧
        ∀ call ∈ (handleNewOrder server clock msg).2, allowed call)
    (cancels : ∀ count server body, count < limit → invariant count server →
      invariant (count + 1) (handleCancel server (.ofBody body)).1 ∧
        ∀ call ∈ (handleCancel server (.ofBody body)).2, allowed call)
    (stack : Nat → UInt8) (fuel : Nat) (clocks : Nat → Clock) {server : TcpServer} {count : Nat}
    (stream : List UInt8) (initial : invariant count server)
    (short : count + stream.length ≤ limit) :
    (∃ later, invariant later (handleLoop stack fuel clocks server stream).1) ∧
      ∀ call ∈ (handleLoop stack fuel clocks server stream).2, allowed call := by
  induction fuel generalizing clocks server count stream with
  | zero => exact ⟨⟨count, initial⟩, by simp [handleLoop]⟩
  | succ fuel induction =>
      cases stream with
      | nil => exact ⟨⟨count, initial⟩, by simp [handleLoop]⟩
      | cons tag stream =>
          rw [List.length_cons] at short
          have counted : count < limit := by omega
          -- What follows a message that was handled.
          have goOn (handled : TcpServer × List ServerCall) (size : Nat)
              (kept : invariant (count + 1) handled.1) (fine : ∀ call ∈ handled.2, allowed call) :
              (∃ later, invariant later (handleLoop stack fuel (fun index => clocks (index + 1))
                handled.1 (stream.drop size)).1) ∧
                ∀ call ∈ handled.2 ++ (handleLoop stack fuel (fun index => clocks (index + 1))
                  handled.1 (stream.drop size)).2, allowed call := by
            have shorter : count + 1 + (stream.drop size).length ≤ limit := by
              rw [List.length_drop]
              omega
            obtain ⟨rest, restFine⟩ := induction (fun index => clocks (index + 1))
              (stream.drop size) kept shorter
            refine ⟨rest, ?_⟩
            intro call member
            rcases List.mem_append.mp member with here | later
            · exact fine call here
            · exact restFine call later
          rw [handleLoop]
          dsimp only
          split
          · split
            · exact ⟨⟨count, initial⟩, by simp⟩
            · obtain ⟨kept, fine⟩ := orders count server (clocks 0) _ counted initial
              exact goOn _ OrderMessage.bodySize kept fine
          · split
            · split
              · exact ⟨⟨count, initial⟩, by simp⟩
              · obtain ⟨kept, fine⟩ := cancels count server _ counted initial
                exact goOn _ CancelMessage.bodySize kept fine
            · exact induction _ stream initial (by omega)

/-- The counters of the books have room for the messages still to come. -/
structure Roomy (room : Nat) (server : TcpServer) : Prop where
  numbered : server.engine.Numbered
  below : ∀ symbol, (server.engine.book symbol).nextOrderId ≤ room

/-- A report whose identifier fits the field. -/
def Fits : ServerCall → Prop
  | .send report => report.orderId < 2 ^ 64
  | _ => True

theorem Roomy.submit {room : Nat} {server : TcpServer} (roomy : server.Roomy room) (clock : Clock)
    (msg : OrderMessage) :
    (server.submit clock msg).1.Roomy (room + 1) ∧ (server.submit clock msg).2 ≤ room := by
  have numbered := roomy.numbered.submitOrder clock (getSymbol msg.symbol) msg.side msg.orderType
    msg.price msg.quantity
  by_cases rejected : rejects msg.orderType msg.price msg.quantity = true
  · constructor
    · refine ⟨numbered, fun symbol => ?_⟩
      have bookEq := server.engine.book_submitOrder clock (getSymbol msg.symbol) symbol msg.side
        msg.orderType msg.price msg.quantity
      rw [if_neg fun both => both.2 rejected] at bookEq
      have below := roomy.below symbol
      change ((server.engine.submitOrder clock (getSymbol msg.symbol) msg.side msg.orderType
        msg.price msg.quantity).1.book symbol).nextOrderId ≤ room + 1
      rw [bookEq]
      omega
    · simp [TcpServer.submit, MatchingEngine.submitOrder, rejected]
  · constructor
    · refine ⟨numbered, fun symbol => ?_⟩
      have bookEq := server.engine.book_submitOrder_accepted clock (getSymbol msg.symbol) symbol
        msg.side rejected
      obtain ⟨linked, unfilled⟩ := roomy.numbered.resting.linked (getSymbol msg.symbol)
      have next := (OrderBook.acceptOrder_conserved clock msg.side msg.orderType
        (effectivePrice msg.side msg.orderType msg.price) msg.quantity linked unfilled).2.2.1
      have below := roomy.below symbol
      have belowOwn := roomy.below (getSymbol msg.symbol)
      change ((server.engine.submitOrder clock (getSymbol msg.symbol) msg.side msg.orderType
        msg.price msg.quantity).1.book symbol).nextOrderId ≤ room + 1
      rw [bookEq]
      split
      · omega
      · omega
    · have newId := server.engine.submitOrder_id clock (getSymbol msg.symbol) msg.side rejected
      change (server.engine.submitOrder clock (getSymbol msg.symbol) msg.side msg.orderType
        msg.price msg.quantity).2.1 ≤ room
      rw [newId]
      exact roomy.below _

theorem Roomy.handleNewOrder {room : Nat} {server : TcpServer} (roomy : server.Roomy room)
    (left : room < 2 ^ 64) (clock : Clock) (msg : OrderMessage) :
    (server.handleNewOrder clock msg).1.Roomy (room + 1) ∧
      ∀ call ∈ (server.handleNewOrder clock msg).2, Fits call := by
  have checked : (server.checkOrder msg).1.Roomy room := ⟨roomy.numbered, roomy.below⟩
  have checkFits : ∀ call ∈ server.checkCalls msg, Fits call := by
    intro call member
    unfold checkCalls at member
    split at member
    · rw [List.mem_singleton.mp member]
      trivial
    · cases member
  unfold TcpServer.handleNewOrder
  dsimp only
  split
  · refine ⟨⟨roomy.numbered, fun symbol => (roomy.below symbol).trans (Nat.le_succ room)⟩, ?_⟩
    intro call member
    rcases List.mem_append.mp member with check | sent
    · exact checkFits call check
    · rw [List.mem_singleton.mp sent]
      exact Nat.two_pow_pos 64
  · obtain ⟨submitted, small⟩ := checked.submit clock msg
    refine ⟨submitted, ?_⟩
    intro call member
    rcases List.mem_append.mp member with check | sent
    · exact checkFits call check
    · rcases List.mem_pair.mp sent with rfl | rfl
      · trivial
      · exact small.trans_lt left

theorem Roomy.handleCancel {room : Nat} {server : TcpServer} (roomy : server.Roomy room)
    (body : List UInt8) :
    (server.handleCancel (.ofBody body)).1.Roomy (room + 1) ∧
      ∀ call ∈ (server.handleCancel (.ofBody body)).2, Fits call := by
  constructor
  · refine ⟨roomy.numbered.cancelOrder _ _, fun symbol => ?_⟩
    have bookEq := (server.engine.book_cancelOrder (getSymbol (CancelMessage.ofBody body).symbol)
      symbol (CancelMessage.ofBody body).orderId).1
    obtain ⟨linked, unfilled⟩ :=
      roomy.numbered.resting.linked (getSymbol (CancelMessage.ofBody body).symbol)
    have next := (OrderBook.cancelOrder_conserved linked unfilled
      (CancelMessage.ofBody body).orderId).2.2.1
    have below := roomy.below symbol
    have belowOwn := roomy.below (getSymbol (CancelMessage.ofBody body).symbol)
    change ((server.engine.cancelOrder _ _).1.book symbol).nextOrderId ≤ room + 1
    rw [bookEq]
    split
    · omega
    · omega
  · intro call member
    rcases List.mem_pair.mp member with rfl | rfl
    · trivial
    · have length : ((body.drop 8).take 8).length ≤ 8 := List.length_take_le ..
      exact (littleEndian_lt _).trans_le (Nat.pow_le_pow_right (by omega) length)

theorem mem_sentReports {report : ExecutionReport} {calls : List ServerCall}
    (sent : report ∈ sentReports calls) : ServerCall.send report ∈ calls := by
  obtain ⟨call, member, isReport⟩ := List.mem_filterMap.mp sent
  cases call with
  | send other =>
      obtain rfl := Option.some.inj isReport
      exact member
  | check | submitOrder | cancelOrder => cases isReport

/-- Whatever a client sends, the bytes it receives for it are read back as the reports
that the server has sent, in their order. -/
theorem reports_read_back (server : TcpServer) (stack : Nat → UInt8) (clocks : Nat → Clock)
    (stream : List UInt8) (numbered : server.engine.Numbered)
    (room : ∀ symbol, (server.engine.book symbol).nextOrderId + stream.length ≤ 2 ^ 64)
    (packets : List (List UInt8))
    (packed : List.Forall₂ ExecutionReport.Packed
      (sentReports (server.handleClient stack clocks stream).2) packets) :
    readReports packets.flatten.length packets.flatten =
      some (sentReports (server.handleClient stack clocks stream).2) := by
  have short : 0 + stream.length ≤ 2 ^ 64 := (Nat.add_le_add_right (Nat.zero_le _) _).trans (room [])
  have initial : server.Roomy (2 ^ 64 - stream.length + 0) :=
    ⟨numbered, fun symbol => Nat.le_sub_of_add_le (room symbol)⟩
  have fit := (handleLoop_rule (fun count server => server.Roomy (2 ^ 64 - stream.length + count))
    Fits stream.length (fun count server clock msg counted roomy => roomy.handleNewOrder (by omega) clock msg)
    (fun count server body _ roomy => roomy.handleCancel body) stack stream.length clocks stream
    initial (by omega)).2
  apply readReports_flatten packed
  · intro report sent
    exact fit _ (mem_sentReports sent)
  · exact length_le_flatten_of_packed packed

/-- An order for ten shares at 100 dollars and its cancel, one packet behind the other. -/
def orderThenCancel : List UInt8 :=
  MessageType.newOrder :: OrderMessage.toBody [88] .buy .limit 0x4059000000000000 10 ++
    MessageType.cancel :: CancelMessage.toBody [88] 1

/-- A new server accepts the order and then cancels it, and the client reads back the
two reports. -/
theorem reports_read_back_order_then_cancel :
    let accepted : ExecutionReport := ⟨1, .accepted, .finite 100, 10, 10⟩
    let cancelled : ExecutionReport := ⟨1, .cancelled, 0, 0, 0⟩
    sentReports ((new {}).handleClient (fun _ => 0) (fun _ _ => 0) orderThenCancel).2 =
        [accepted, cancelled] ∧
      readReports 52 (accepted.toBytes 0x4059000000000000 ++ cancelled.toBytes 0) =
        some [accepted, cancelled] := by
  have sent : sentReports ((new {}).handleClient (fun _ => 0) (fun _ _ => 0) orderThenCancel).2 =
      [⟨1, .accepted, .finite 100, 10, 10⟩, ⟨1, .cancelled, 0, 0, 0⟩] := by
    decide +kernel
  have packed : List.Forall₂ ExecutionReport.Packed
      (sentReports ((new {}).handleClient (fun _ => 0) (fun _ _ => 0) orderThenCancel).2)
      [ExecutionReport.toBytes ⟨1, .accepted, .finite 100, 10, 10⟩ 0x4059000000000000,
        ExecutionReport.toBytes ⟨1, .cancelled, 0, 0, 0⟩ 0] := by
    rw [sent]
    exact .cons ⟨_, by decide +kernel, rfl⟩ (.cons ⟨_, by decide +kernel, rfl⟩ .nil)
  have room : ∀ symbol, ((new {}).engine.book symbol).nextOrderId + orderThenCancel.length ≤
      2 ^ 64 := by
    intro symbol
    change (MatchingEngine.new.book symbol).nextOrderId + 40 ≤ 2 ^ 64
    rw [MatchingEngine.book_new]
    change 1 + 40 ≤ 2 ^ 64
    omega
  have readBack := reports_read_back (new {}) (fun _ => 0) (fun _ _ => 0) orderThenCancel
    MatchingEngine.numbered_new room _ packed
  rw [sent] at readBack
  exact ⟨sent, readBack⟩

end TcpServer

end OrderBookExchange
