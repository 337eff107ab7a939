import OrderBookExchange.TcpServer

/-!
# Messages through the wire

A client packs its messages back to back, and the server takes them apart
again.  The fields of a message may hold the bytes that tag messages, the two
kinds of message have different lengths, and a byte that tags nothing is
skipped.  The server stays in frame all the same: it makes the calls of the
messages that were sent, with the values that were sent.
-/

namespace OrderBookExchange

/-! ### Fields -/

@[simp]
theorem length_toLittleEndian (size value : Nat) :
    (toLittleEndian size value).length = size := by
  induction size generalizing value with
  | zero => rfl
  | succ size ih => rw [toLittleEndian, List.length_cons, ih]

theorem littleEndian_toLittleEndian (size value : Nat) :
    littleEndian (toLittleEndian size value) = value % 256 ^ size := by
  induction size generalizing value with
  | zero => simp [toLittleEndian, littleEndian, Nat.mod_one]
  | succ size ih =>
      have lowByte : (UInt8.ofNat value).toNat = value % 256 := UInt8.toNat_ofNat'
      rw [toLittleEndian, littleEndian, ih, lowByte, Nat.pow_succ', Nat.mod_mul]

@[simp]
theorem Side.ofByte_toByte (side : Side) : Side.ofByte side.toByte = side := by
  cases side with
  | buy => rfl
  | sell => rfl
  | undeclared byte unlisted =>
      have notBuy : byte.toNat ≠ 0 := by omega
      have notSell : byte.toNat ≠ 1 := by omega
      simp [Side.toByte, Side.ofByte, notBuy, notSell]

@[simp]
theorem OrderType.ofByte_toByte (type : OrderType) : OrderType.ofByte type.toByte = type := by
  cases type with
  | limit => rfl
  | market => rfl
  | ioc => rfl
  | undeclared byte unlisted =>
      have notLimit : byte.toNat ≠ 0 := by omega
      have notMarket : byte.toNat ≠ 1 := by omega
      have notIoc : byte.toNat ≠ 2 := by omega
      simp [OrderType.toByte, OrderType.ofByte, notLimit, notMarket, notIoc]

@[simp]
theorem length_setSymbol (symbol : Symbol) : (setSymbol symbol).length = 8 := by
  rw [setSymbol, List.length_append, List.length_take, List.length_replicate]
  omega

/-- A symbol that fits its field and is not cut short by a null. -/
structure WireSymbol where
  bytes : Symbol
  fits : bytes.length ≤ 7
  noNull : ∀ byte ∈ bytes, byte ≠ 0

@[simp]
theorem WireSymbol.getSymbol_setSymbol (symbol : WireSymbol) :
    getSymbol (setSymbol symbol.bytes) = symbol.bytes := by
  have padded : List.replicate (8 - min symbol.bytes.length 7) (0 : UInt8) =
      0 :: List.replicate (7 - symbol.bytes.length) 0 := by
    rw [Nat.min_eq_left symbol.fits, Nat.succ_sub symbol.fits]
    rfl
  rw [getSymbol, setSymbol, List.take_of_length_le symbol.fits, padded,
    List.takeWhile_append_of_pos (by simpa using symbol.noNull)]
  simp

/-! ### Messages -/

/-- A message as its sender means it. -/
inductive ClientMessage where
  | newOrder (symbol : WireSymbol) (side : Side) (type : OrderType) (price : UInt64)
      (quantity : Quantity)
  | cancel (symbol : WireSymbol) (orderId : UInt64)

/-- The packed message. -/
def ClientMessage.bytes : ClientMessage → List UInt8
  | .newOrder symbol side type price quantity =>
      MessageType.newOrder :: OrderMessage.toBody symbol.bytes side type price quantity
  | .cancel symbol orderId => MessageType.cancel :: CancelMessage.toBody symbol.bytes orderId

namespace OrderMessage

theorem length_toBody (symbol : Symbol) (side : Side) (type : OrderType) (price : UInt64)
    (quantity : Quantity) : (toBody symbol side type price quantity).length = bodySize := by
  simp [toBody, bodySize]

/-- The structure laid over a packed message has the fields of the message. -/
theorem ofBody_toBody (symbol : Symbol) (side : Side) (type : OrderType) (price : UInt64)
    (quantity : Quantity) :
    ofBody (toBody symbol side type price quantity) =
      { symbol := setSymbol symbol
        side := side
        orderType := type
        price := .ofBits price.toNat
        quantity := quantity } := by
  have longPrice : price.toNat < 256 ^ 8 := price.toNat_lt
  have longQuantity : quantity.toNat < 256 ^ 4 := quantity.toNat_lt
  have symbolField : (toBody symbol side type price quantity).take 8 = setSymbol symbol :=
    List.take_left' (length_setSymbol symbol)
  have sideField : (toBody symbol side type price quantity).getD 8 0 = side.toByte := by
    simp [toBody]
  have typeField : (toBody symbol side type price quantity).getD 9 0 = type.toByte := by
    simp [toBody]
  have behindType : (toBody symbol side type price quantity).drop 10 =
      toLittleEndian 8 price.toNat ++ toLittleEndian 4 quantity.toNat := by
    rw [toBody, List.drop_append, length_setSymbol, List.drop_of_length_le (by simp)]
    rfl
  have behindPrice : (toBody symbol side type price quantity).drop 18 =
      toLittleEndian 4 quantity.toNat := by
    rw [← List.drop_drop (i := 8) (j := 10), behindType]
    exact List.drop_left' (length_toLittleEndian _ _)
  rw [ofBody, symbolField, sideField, typeField, behindType, behindPrice,
    List.take_left' (length_toLittleEndian _ _),
    List.take_of_length_le (length_toLittleEndian _ _).le, littleEndian_toLittleEndian,
    littleEndian_toLittleEndian, Nat.mod_eq_of_lt longPrice, Nat.mod_eq_of_lt longQuantity,
    Side.ofByte_toByte, OrderType.ofByte_toByte, UInt32.ofNat_toNat]

end OrderMessage

namespace CancelMessage

theorem length_toBody (symbol : Symbol) (orderId : UInt64) :
    (toBody symbol orderId).length = bodySize := by
  simp [toBody, bodySize]

theorem ofBody_toBody (symbol : Symbol) (orderId : UInt64) :
    ofBody (toBody symbol orderId) = { symbol := setSymbol symbol, orderId := orderId.toNat } := by
  have longId : orderId.toNat < 256 ^ 8 := orderId.toNat_lt
  have symbolField : (toBody symbol orderId).take 8 = setSymbol symbol :=
    List.take_left' (length_setSymbol symbol)
  have behindSymbol : (toBody symbol orderId).drop 8 = toLittleEndian 8 orderId.toNat :=
    List.drop_left' (length_setSymbol symbol)
  rw [ofBody, symbolField, behindSymbol, List.take_of_length_le (length_toLittleEndian _ _).le,
    littleEndian_toLittleEndian, Nat.mod_eq_of_lt longId]

end CancelMessage

/-- The message as the server's loop sees it. -/
def ClientMessage.frame : ClientMessage → Frame
  | .newOrder symbol side type price quantity =>
      .newOrder (OrderMessage.toBody symbol.bytes side type price quantity)
        (OrderMessage.length_toBody ..)
  | .cancel symbol orderId =>
      .cancel (CancelMessage.toBody symbol.bytes orderId) (CancelMessage.length_toBody ..)

theorem ClientMessage.bytes_frame (message : ClientMessage) :
    message.frame.bytes = message.bytes := by
  cases message <;> rfl

/-- A stream that carries these messages, in this order, among bytes that tag
no message. -/
inductive Carries : List ClientMessage → List UInt8 → Prop
  | nil : Carries [] []
  | skipped {messages : List ClientMessage} {stream : List UInt8} {byte : UInt8}
      (unknown : byte ≠ MessageType.newOrder ∧ byte ≠ MessageType.cancel)
      (rest : Carries messages stream) : Carries messages (byte :: stream)
  | message {messages : List ClientMessage} {stream : List UInt8} (message : ClientMessage)
      (rest : Carries messages stream) : Carries (message :: messages) (message.bytes ++ stream)

/-! ### What the server makes of a message -/

/-- What one message does to the server and the calls it leads to, on the values
its sender gave it.  An order goes to the checker if there is one, and then to the
engine unless the checker rejects it; the trades are fed back to the checker. -/
def TcpServer.answer (server : TcpServer) (clock : Clock) :
    ClientMessage → TcpServer × List ServerCall
  | .newOrder symbol side type bits quantity =>
      let price := Double.ofBits bits.toNat
      let verdict := riskGate server.risk symbol.bytes side type price quantity
      let checks : List ServerCall :=
        if server.risk.isSome then [.check symbol.bytes side type price quantity] else []
      if verdict.2 ≠ .none then
        ({ server with risk := verdict.1 },
          checks ++ [.send
            { orderId := 0
              status := .rejected
              price := price
              quantity := quantity
              remainingQty := quantity }])
      else
        let submitted := server.engine.submitOrder clock symbol.bytes side type price quantity
        ({ engine := submitted.1
           risk := verdict.1.map (submitted.2.2.foldl tradeCallback ·) },
          checks ++ [.submitOrder symbol.bytes side type price quantity,
            .send
              { orderId := submitted.2.1
                status := if 0 < submitted.2.1 then .accepted else .rejected
                price := price
                quantity := quantity
                remainingQty := quantity }])
  | .cancel symbol orderId =>
      let cancelled := server.engine.cancelOrder symbol.bytes orderId.toNat
      ({ server with engine := cancelled.1 },
        [.cancelOrder symbol.bytes orderId.toNat,
          .send
            { orderId := orderId.toNat
              status := if cancelled.2 then .cancelled else .rejected
              price := 0
              quantity := 0
              remainingQty := 0 }])

/-- The messages one after the other, each with its own clock. -/
def TcpServer.answerAll : (Nat → Clock) → TcpServer → List ClientMessage →
    TcpServer × List ServerCall
  | _, server, [] => (server, [])
  | clocks, server, message :: messages =>
      let answered := server.answer (clocks 0) message
      let rest := answerAll (fun index => clocks (index + 1)) answered.1 messages
      (rest.1, answered.2 ++ rest.2)

/-- The reports among the calls of a handler. -/
def sentReports (calls : List ServerCall) : List ExecutionReport :=
  calls.filterMap fun
    | .send report => some report
    | _ => none

@[simp]
theorem sentReports_append (calls later : List ServerCall) :
    sentReports (calls ++ later) = sentReports calls ++ sentReports later :=
  List.filterMap_append

/-- The bytes of a report.  Several bit patterns may stand for the value of its
price. -/
def ExecutionReport.Packed (report : ExecutionReport) (bytes : List UInt8) : Prop :=
  ∃ price : UInt64, Double.ofBits price.toNat = report.price ∧ bytes = report.toBytes price

theorem ExecutionReport.Packed.length_eq {report : ExecutionReport} {bytes : List UInt8}
    (packed : report.Packed bytes) : bytes.length = 26 := by
  obtain ⟨price, -, rfl⟩ := packed
  simp [ExecutionReport.toBytes]

namespace TcpServer

theorem answer_packet (server : TcpServer) (clock : Clock) (message : ClientMessage) :
    ∃ report, sentReports (server.answer clock message).2 = [report] ∧
      ∃ bytes, report.Packed bytes := by
  cases message with
  | newOrder symbol side type price quantity =>
      rw [answer]
      dsimp only
      split <;> cases server.risk.isSome <;> exact ⟨_, rfl, _, price, rfl, rfl⟩
  | cancel symbol orderId =>
      have zeroBits : Double.ofBits (0 : UInt64).toNat = 0 := by decide +kernel
      exact ⟨_, rfl, _, 0, zeroBits, rfl⟩

theorem answerAll_packets (clocks : Nat → Clock) (server : TcpServer)
    (messages : List ClientMessage) :
    ∃ packets : List (List UInt8), packets.length = messages.length ∧
      List.Forall₂ ExecutionReport.Packed (sentReports (answerAll clocks server messages).2)
        packets ∧
      ∀ packet ∈ packets, packet.length = 26 := by
  induction messages generalizing clocks server with
  | nil => exact ⟨[], rfl, .nil, by simp⟩
  | cons message messages ih =>
      obtain ⟨report, sent, bytes, packed⟩ := server.answer_packet (clocks 0) message
      obtain ⟨packets, count, packedRest, sizes⟩ :=
        ih (fun index => clocks (index + 1)) (server.answer (clocks 0) message).1
      refine ⟨bytes :: packets, by simp [count], ?_, ?_⟩
      · rw [answerAll, sentReports_append, sent]
        exact .cons packed packedRest
      · rw [List.forall_mem_cons]
        exact ⟨packed.length_eq, sizes⟩

theorem isSome_of_rejected {server : TcpServer} {msg : OrderMessage}
    (rejected : (server.checkOrder msg).2 ≠ .none) : server.risk.isSome = true := by
  cases gate : server.risk with
  | none => exact absurd (by rw [checkOrder, gate]; rfl) rejected
  | some risk => rfl

/-- The loop makes of a packed message what its sender meant. -/
theorem handleFrame_frame (server : TcpServer) (clock : Clock) (message : ClientMessage) :
    server.handleFrame clock message.frame = server.answer clock message := by
  cases message with
  | newOrder symbol side type price quantity =>
      rw [ClientMessage.frame, handleFrame, OrderMessage.ofBody_toBody, handleNewOrder, answer]
      simp only [checkOrder, checkCalls, submit, submitCalls, orderReport,
        WireSymbol.getSymbol_setSymbol]
      rfl
  | cancel symbol orderId =>
      rw [ClientMessage.frame, handleFrame, CancelMessage.ofBody_toBody, handleCancel, answer]
      simp only [cancelReport, WireSymbol.getSymbol_setSymbol]

/-- The turns of the messages behind one that has the first turn. -/
def turnsBehind (turn : Nat → Nat) : Nat → Nat
  | 0 => 0
  | index + 1 => turn index + 1

theorem strictMono_turnsBehind {turn : Nat → Nat} (increasing : StrictMono turn) :
    StrictMono (turnsBehind turn) := by
  refine strictMono_nat_of_lt_succ ?_
  rintro (- | index)
  · exact Nat.succ_pos _
  · exact Nat.succ_lt_succ (increasing (Nat.lt_succ_self index))

/-- A stream that carries messages is a sequence of complete frames, and the
server answers the messages one after the other.  The clock of a message is that
of its turn in the loop, which also counts the bytes it skips. -/
theorem frames_of_carries {messages : List ClientMessage} {stream : List UInt8}
    (carried : Carries messages stream) :
    ∃ (frames : List Frame) (turn : Nat → Nat), frameBytes frames = stream ∧ StrictMono turn ∧
      ∀ (clocks : Nat → Clock) (server : TcpServer),
        handleFrames clocks server frames =
          answerAll (fun index => clocks (turn index)) server messages := by
  induction carried with
  | nil => exact ⟨[], id, rfl, strictMono_id, fun clocks server => rfl⟩
  | @skipped messages stream byte unknown rest ih =>
      obtain ⟨frames, turn, bytesEq, increasing, handled⟩ := ih
      refine ⟨.other byte unknown :: frames, fun index => turn index + 1, ?_, ?_, ?_⟩
      · rw [← bytesEq]
        rfl
      · exact increasing.add_const 1
      · intro clocks server
        exact handled (fun index => clocks (index + 1)) server
  | @message messages stream message rest ih =>
      obtain ⟨frames, turn, bytesEq, increasing, handled⟩ := ih
      refine ⟨message.frame :: frames, turnsBehind turn, ?_,
        strictMono_turnsBehind increasing, ?_⟩
      · rw [← bytesEq, ← message.bytes_frame]
        rfl
      · intro clocks server
        rw [handleFrames, answerAll, handleFrame_frame,
          handled (fun index => clocks (index + 1))]
        rfl

/-- The server does for a stream what its messages ask for, in order and with the
values that were sent: the calls, the verdicts, the identifiers and the state it
ends in are those of the messages.  It sends one report of 26 bytes for each, and
stands between two messages when the stream ends: whatever comes after it is
handled as a stream of its own. -/
theorem handleClient_carries (server : TcpServer) (stack : Nat → UInt8) (clocks : Nat → Clock)
    {messages : List ClientMessage} {stream : List UInt8} (carried : Carries messages stream) :
    let handled := server.handleClient stack clocks stream
    (∃ turn : Nat → Nat, StrictMono turn ∧
      handled = answerAll (fun index => clocks (turn index)) server messages) ∧
    (∃ packets : List (List UInt8), packets.length = messages.length ∧
      List.Forall₂ ExecutionReport.Packed (sentReports handled.2) packets ∧
      ∀ packet ∈ packets, packet.length = 26) ∧
    (∀ fuel, stream.length ≤ fuel → handleLoop stack fuel clocks server stream = handled) ∧
    ∃ count, ∀ more,
      let rest := handled.1.handleClient stack (fun index => clocks (index + count)) more
      server.handleClient stack clocks (stream ++ more) = (rest.1, handled.2 ++ rest.2) := by
  obtain ⟨frames, turn, rfl, increasing, answered⟩ := frames_of_carries carried
  have packets := answerAll_packets (fun index => clocks (turn index)) server messages
  rw [← answered] at packets
  dsimp only
  rw [handleClient_frames]
  refine ⟨⟨turn, increasing, answered clocks server⟩, packets, ?_, frames.length, ?_⟩
  · intro fuel enough
    rw [← handleClient_frames server stack clocks]
    exact handleLoop_enough stack fuel _ clocks server _ enough le_rfl
  · intro more
    obtain ⟨left, enough, handled⟩ := handleLoop_frames stack clocks server frames more
      (frameBytes frames ++ more).length le_rfl
    dsimp only at handled
    rw [handleClient, handled, handleClient,
      handleLoop_enough stack left more.length _ _ _ enough le_rfl]

/-- An order for 513 shares, whose quantity and price hold the bytes 1 and 2,
and its cancel, with bytes around them that tag nothing. -/
theorem handleClient_carries_noise :
    let symbol : WireSymbol := ⟨[65], by simp, by simp⟩
    let buy : ClientMessage := .newOrder symbol .buy .limit 258 513
    let cancel : ClientMessage := .cancel symbol 1
    ∃ turn : Nat → Nat, StrictMono turn ∧
      (TcpServer.new {}).handleClient (fun _ => 0) (fun _ _ => 0)
          (9 :: (buy.bytes ++ 0 :: (cancel.bytes ++ [3]))) =
        answerAll (fun _ _ => 0) (TcpServer.new {}) [buy, cancel] :=
  (handleClient_carries (TcpServer.new {}) (fun _ => 0) (fun _ _ => 0)
    (.skipped (by decide) (.message _ (.skipped (by decide) (.message _
      (.skipped (by decide) .nil)))))).1

end TcpServer

end OrderBookExchange
