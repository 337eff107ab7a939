import OrderBookExchange.TcpServer
import OrderBookExchange.TransitionRun

/-!
# Connections taking turns

Every connection has its own thread.  Between the check of an order and its
submission another connection may run, so a connection is either reading or
holds an order that has passed the check and waits to be submitted.  The calls
themselves are atomic here.
-/

namespace OrderBookExchange

/-- The server and the order each connection is about to submit. -/
structure ClientSystem where
  server : TcpServer
  waiting : Nat → Option OrderMessage

/-- A connection reads a message up to its first call, or submits the order
it holds. -/
inductive ClientAction where
  | receive (client : Nat) (frame : Frame)
  | submit (client : Nat) (clock : Clock)

namespace ClientSystem

def new (limits : RiskLimits) : ClientSystem where
  server := .new limits
  waiting := fun _ => none

/-- The message of an idle connection: a cancel is carried out, and an order is
checked. -/
def receive (system : ClientSystem) (client : Nat) : Frame → ClientSystem × List ServerCall
  | .newOrder body _ =>
      let msg := OrderMessage.ofBody body
      let checked := system.server.checkOrder msg
      if checked.2 ≠ .none then
        ({ system with server := checked.1 },
          system.server.checkCalls msg ++ [.send (TcpServer.orderReport msg 0)])
      else
        ({ server := checked.1
           waiting := Function.update system.waiting client (some msg) },
          system.server.checkCalls msg)
  | .cancel body _ =>
      let handled := system.server.handleCancel (.ofBody body)
      ({ system with server := handled.1 }, handled.2)
  | .other _ _ => (system, [])

/-- One turn.  A connection that holds an order reads nothing, and one that
holds none has nothing to submit. -/
def step (system : ClientSystem) : ClientAction → ClientSystem × List ServerCall
  | .receive client frame =>
      if (system.waiting client).isSome then (system, []) else system.receive client frame
  | .submit client clock =>
      match system.waiting client with
      | none => (system, [])
      | some msg =>
          let submitted := system.server.submit clock msg
          ({ server := submitted.1
             waiting := Function.update system.waiting client none },
            TcpServer.submitCalls msg submitted.2)

/-- A connection that is not interrupted handles its message as the sequential
loop does. -/
theorem run_uninterrupted (system : ClientSystem) (client : Nat) (clock : Clock) (frame : Frame)
    (idle : system.waiting client = none) :
    let result := Transition.run step system [.receive client frame, .submit client clock]
    let handled := system.server.handleFrame clock frame
    result.1 = { system with server := handled.1 } ∧ result.2.flatten = handled.2 := by
  cases frame with
  | newOrder body complete =>
      by_cases rejected : (system.server.checkOrder (.ofBody body)).2 ≠ .none
      · simp [step, receive, idle, rejected, TcpServer.handleFrame, TcpServer.handleNewOrder]
      · have unset : Function.update (Function.update system.waiting client
            (some (OrderMessage.ofBody body))) client none = system.waiting := by
          rw [Function.update_idem, ← idle, Function.update_eq_self]
        simp [step, receive, idle, rejected, TcpServer.handleFrame, TcpServer.handleNewOrder,
          unset]
  | cancel body complete => simp [step, receive, idle, TcpServer.handleFrame]
  | other tag unknown => simp [step, receive, idle, TcpServer.handleFrame]

end ClientSystem

end OrderBookExchange
