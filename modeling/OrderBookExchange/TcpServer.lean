import OrderBookExchange.MatchingEngine
import OrderBookExchange.Protocol
import OrderBookExchange.RiskChecker

/-!
# The server

The loop that reads messages from one connection, gates new orders through the
risk checker, forwards them to the engine and answers with a report.  The
engine's trade callback feeds both legs of every trade back to the checker, as
the program's entry point sets it up.

A connection is the finite stream of the bytes it will deliver.  The server's
`running_` flag stays set, and a handler keeps the calls it makes in a trace.
-/

namespace OrderBookExchange

structure TcpServer where
  engine : MatchingEngine
  risk : Option RiskChecker

/-- The calls a connection handler makes. -/
inductive ServerCall where
  | check (symbol : Symbol) (side : Side) (type : OrderType) (price : Price)
      (quantity : Quantity)
  | submitOrder (symbol : Symbol) (side : Side) (type : OrderType) (price : Price)
      (quantity : Quantity)
  | cancelOrder (symbol : Symbol) (orderId : Nat)
  | send (report : ExecutionReport)

/-- The symbol `"AAPL"` that the trade callback books every fill under. -/
def callbackSymbol : Symbol :=
  [65, 65, 80, 76]

/-- The engine's trade callback: both legs of the trade are fed to the checker. -/
def tradeCallback (risk : RiskChecker) (trade : Trade) : RiskChecker :=
  (risk.onFill callbackSymbol .buy trade.price trade.quantity).onFill callbackSymbol .sell
    trade.price trade.quantity

@[simp]
theorem limits_foldl_tradeCallback (risk : RiskChecker) (trades : List Trade) :
    (trades.foldl tradeCallback risk).limits = risk.limits := by
  induction trades generalizing risk with
  | nil => rfl
  | cons trade trades ih => exact ih (tradeCallback risk trade)

namespace TcpServer

/-- The objects as the entry point connects them. -/
def new (limits : RiskLimits) : TcpServer where
  engine := .new
  risk := some (.new limits)

/-- The check of a new order before the engine sees it. -/
def checkOrder (server : TcpServer) (msg : OrderMessage) : TcpServer × RejectReason :=
  let gate := riskGate server.risk (getSymbol msg.symbol) msg.side msg.orderType msg.price
    msg.quantity
  ({ server with risk := gate.1 }, gate.2)

/-- Submit an order, with the callback running on each of its trades. -/
def submit (server : TcpServer) (clock : Clock) (msg : OrderMessage) : TcpServer × Nat :=
  let result := server.engine.submitOrder clock (getSymbol msg.symbol) msg.side msg.orderType
    msg.price msg.quantity
  ({ engine := result.1
     risk := server.risk.map fun risk => result.2.2.foldl tradeCallback risk }, result.2.1)

/-- The answer to a new order, with identifier zero for a rejected one. -/
def orderReport (msg : OrderMessage) (orderId : Nat) : ExecutionReport where
  orderId := orderId
  status := if 0 < orderId then .accepted else .rejected
  price := msg.price
  quantity := msg.quantity
  remainingQty := msg.quantity

def cancelReport (msg : CancelMessage) (cancelled : Bool) : ExecutionReport where
  orderId := msg.orderId
  status := if cancelled then .cancelled else .rejected
  price := 0
  quantity := 0
  remainingQty := 0

/-- The call to the checker, if there is one. -/
def checkCalls (server : TcpServer) (msg : OrderMessage) : List ServerCall :=
  if server.risk.isSome then
    [.check (getSymbol msg.symbol) msg.side msg.orderType msg.price msg.quantity]
  else []

def submitCalls (msg : OrderMessage) (orderId : Nat) : List ServerCall :=
  [.submitOrder (getSymbol msg.symbol) msg.side msg.orderType msg.price msg.quantity,
    .send (orderReport msg orderId)]

/-- The branch of the loop for a new order. -/
def handleNewOrder (server : TcpServer) (clock : Clock) (msg : OrderMessage) :
    TcpServer × List ServerCall :=
  let checked := server.checkOrder msg
  if checked.2 ≠ .none then (checked.1, server.checkCalls msg ++ [.send (orderReport msg 0)])
  else
    let submitted := checked.1.submit clock msg
    (submitted.1, server.checkCalls msg ++ submitCalls msg submitted.2)

/-- The branch of the loop for a cancel. -/
def handleCancel (server : TcpServer) (msg : CancelMessage) : TcpServer × List ServerCall :=
  let result := server.engine.cancelOrder (getSymbol msg.symbol) msg.orderId
  ({ server with engine := result.1 },
    [.cancelOrder (getSymbol msg.symbol) msg.orderId, .send (cancelReport msg result.2)])

/-- What the loop does with one complete message. -/
def handleFrame (server : TcpServer) (clock : Clock) : Frame → TcpServer × List ServerCall
  | .newOrder body _ => server.handleNewOrder clock (.ofBody body)
  | .cancel body _ => server.handleCancel (.ofBody body)
  | .other _ _ => (server, [])

/-- The messages one after the other, each with its own clock. -/
def handleFrames : (Nat → Clock) → TcpServer → List Frame → TcpServer × List ServerCall
  | _, server, [] => (server, [])
  | clocks, server, frame :: frames =>
      let handled := server.handleFrame (clocks 0) frame
      let rest := handleFrames (fun index => clocks (index + 1)) handled.1 frames
      (rest.1, handled.2 ++ rest.2)

/-- A structure of the given size after a read into it: the received bytes,
and whatever the stack held behind them. -/
def overlay (stack : Nat → UInt8) (size : Nat) (received : List UInt8) : List UInt8 :=
  (List.range size).map fun offset => received.getD offset (stack offset)

/-- The loop of `handle_client`.  A read waits for all the bytes it asks for
and gets fewer only at the end of the stream; the loop ends when it gets none.
The fuel bounds the messages, each of which takes at least its tag from the
stream. -/
def handleLoop (stack : Nat → UInt8) :
    Nat → (Nat → Clock) → TcpServer → List UInt8 → TcpServer × List ServerCall
  | 0, _, server, _ => (server, [])
  | _ + 1, _, server, [] => (server, [])
  | fuel + 1, clocks, server, tag :: stream =>
      let later : Nat → Clock := fun index => clocks (index + 1)
      if tag = MessageType.newOrder then
        let received := stream.take OrderMessage.bodySize
        if received.length = 0 then (server, [])
        else
          let handled := server.handleNewOrder (clocks 0)
            (.ofBody (overlay stack OrderMessage.bodySize received))
          let rest := handleLoop stack fuel later handled.1
            (stream.drop OrderMessage.bodySize)
          (rest.1, handled.2 ++ rest.2)
      else if tag = MessageType.cancel then
        let received := stream.take CancelMessage.bodySize
        if received.length = 0 then (server, [])
        else
          let handled := server.handleCancel
            (.ofBody (overlay stack CancelMessage.bodySize received))
          let rest := handleLoop stack fuel later handled.1
            (stream.drop CancelMessage.bodySize)
          (rest.1, handled.2 ++ rest.2)
      else handleLoop stack fuel later server stream

/-- Read messages from one connection until it closes. -/
def handleClient (server : TcpServer) (stack : Nat → UInt8) (clocks : Nat → Clock)
    (stream : List UInt8) : TcpServer × List ServerCall :=
  handleLoop stack stream.length clocks server stream

theorem checkOrder_of_some {server : TcpServer} {risk : RiskChecker}
    (gate : server.risk = some risk) (msg : OrderMessage) :
    server.checkOrder msg =
      ({ server with
          risk := some (risk.check (getSymbol msg.symbol) msg.side msg.orderType msg.price
            msg.quantity).1 },
        risk.rejectReason (getSymbol msg.symbol) msg.side msg.orderType msg.price
          msg.quantity) := by
  simp [checkOrder, riskGate, gate, RiskChecker.check]

theorem killSwitch_checkOrder (server : TcpServer) (msg : OrderMessage) :
    (server.checkOrder msg).1.risk.map RiskChecker.killSwitch =
      server.risk.map RiskChecker.killSwitch := by
  rw [checkOrder]
  cases server.risk <;> rfl

theorem handleLoop_nil (stack : Nat → UInt8) (fuel : Nat) (clocks : Nat → Clock)
    (server : TcpServer) : handleLoop stack fuel clocks server [] = (server, []) := by
  cases fuel <;> rfl

/-- The loop ends at the end of the stream and not for want of fuel. -/
theorem handleLoop_enough (stack : Nat → UInt8) (fuel more : Nat) (clocks : Nat → Clock)
    (server : TcpServer) (stream : List UInt8) (enough : stream.length ≤ fuel)
    (enoughMore : stream.length ≤ more) :
    handleLoop stack fuel clocks server stream = handleLoop stack more clocks server stream := by
  induction fuel generalizing more clocks server stream with
  | zero =>
      obtain rfl : stream = [] := List.eq_nil_of_length_eq_zero (by omega)
      rw [handleLoop_nil, handleLoop_nil]
  | succ fuel ih =>
      cases stream with
      | nil => rw [handleLoop_nil, handleLoop_nil]
      | cons tag stream =>
          rw [List.length_cons] at enough enoughMore
          obtain ⟨more, rfl⟩ : ∃ smaller, more = smaller + 1 := ⟨more - 1, by omega⟩
          have dropped (size : Nat) (clocks : Nat → Clock) (server : TcpServer) :
              handleLoop stack fuel clocks server (stream.drop size) =
                handleLoop stack more clocks server (stream.drop size) := by
            apply ih
            · rw [List.length_drop]
              omega
            · rw [List.length_drop]
              omega
          rw [handleLoop, handleLoop]
          dsimp only
          rw [dropped, dropped, ih more _ server stream (by omega) (by omega)]

/-! ### Complete messages -/

theorem overlay_complete (stack : Nat → UInt8) {size : Nat} {received : List UInt8}
    (complete : received.length = size) : overlay stack size received = received := by
  subst complete
  apply List.ext_getElem
  · simp [overlay]
  · intro offset inRange inReceived
    simp [overlay, inReceived]

/-- A complete message at the head of the stream is handled as such, whatever
is on the stack. -/
theorem handleLoop_frame (stack : Nat → UInt8) (clocks : Nat → Clock) (server : TcpServer)
    (fuel : Nat) (frame : Frame) (stream : List UInt8) :
    handleLoop stack (fuel + 1) clocks server (frame.bytes ++ stream) =
      ((handleLoop stack fuel (fun index => clocks (index + 1))
          (server.handleFrame (clocks 0) frame).1 stream).1,
        (server.handleFrame (clocks 0) frame).2 ++
          (handleLoop stack fuel (fun index => clocks (index + 1))
            (server.handleFrame (clocks 0) frame).1 stream).2) := by
  cases frame with
  | newOrder body complete =>
      have nonempty : body.length ≠ 0 := by
        rw [complete]
        decide
      rw [Frame.bytes, List.cons_append, handleLoop, if_pos rfl]
      dsimp only
      rw [List.take_left' complete, List.drop_left' complete, if_neg nonempty,
        overlay_complete stack complete]
      rfl
  | cancel body complete =>
      have nonempty : body.length ≠ 0 := by
        rw [complete]
        decide
      rw [Frame.bytes, List.cons_append, handleLoop, if_neg (by decide), if_pos rfl]
      dsimp only
      rw [List.take_left' complete, List.drop_left' complete, if_neg nonempty,
        overlay_complete stack complete]
      rfl
  | other tag unknown =>
      rw [Frame.bytes, List.singleton_append, handleLoop, if_neg unknown.1, if_neg unknown.2]
      rfl

/-- The loop handles the complete messages of a stream in order and then goes
on with what follows them. -/
theorem handleLoop_frames (stack : Nat → UInt8) (clocks : Nat → Clock) (server : TcpServer)
    (frames : List Frame) (stream : List UInt8) (fuel : Nat)
    (enough : (frameBytes frames ++ stream).length ≤ fuel) :
    ∃ left : Nat, stream.length ≤ left ∧
      handleLoop stack fuel clocks server (frameBytes frames ++ stream) =
        let handled := handleFrames clocks server frames
        let rest := handleLoop stack left (fun index => clocks (index + frames.length))
          handled.1 stream
        (rest.1, handled.2 ++ rest.2) := by
  induction frames generalizing clocks server fuel with
  | nil => exact ⟨fuel, by simpa [frameBytes] using enough, by simp [frameBytes, handleFrames]⟩
  | cons frame frames ih =>
      have bytesEq : frameBytes (frame :: frames) ++ stream =
          frame.bytes ++ (frameBytes frames ++ stream) := by
        simp [frameBytes]
      have tagged : 0 < frame.bytes.length := by
        cases frame <;> simp [Frame.bytes]
      rw [bytesEq] at enough ⊢
      obtain ⟨fuel, rfl⟩ : ∃ smaller, fuel = smaller + 1 :=
        ⟨fuel - 1, by rw [List.length_append] at enough; omega⟩
      have smaller : (frameBytes frames ++ stream).length ≤ fuel := by
        rw [List.length_append] at enough
        omega
      obtain ⟨left, leftEnough, handled⟩ := ih (fun index => clocks (index + 1))
        (server.handleFrame (clocks 0) frame).1 fuel smaller
      refine ⟨left, leftEnough, ?_⟩
      rw [handleLoop_frame, handled]
      simp only [handleFrames, List.append_assoc, List.length_cons]
      have clocksEq : (fun index => clocks (index + frames.length + 1)) =
          fun index => clocks (index + (frames.length + 1)) := rfl
      rw [clocksEq]

theorem handleClient_frames (server : TcpServer) (stack : Nat → UInt8) (clocks : Nat → Clock)
    (frames : List Frame) :
    server.handleClient stack clocks (frameBytes frames) =
      handleFrames clocks server frames := by
  obtain ⟨left, -, handled⟩ := handleLoop_frames stack clocks server frames []
    (frameBytes frames).length (by simp)
  rw [List.append_nil] at handled
  rw [handleClient, handled]
  dsimp only
  rw [handleLoop_nil]
  simp

end TcpServer

end OrderBookExchange
