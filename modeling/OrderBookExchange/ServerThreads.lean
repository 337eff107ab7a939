import OrderBookExchange.TcpServer
import OrderBookExchange.TransitionHistory

/-!
# The threads of the server

`start` accepts connections on one thread, every connection has a thread of its
own in `handle_client`, and `stop` is called on another one.  Here each of them
takes one step at a time, in any order, and the network may deliver any piece of
a client's bytes in between.  A thread stands where the source can be
interrupted: at a test of `running_`, at a read, and before and after every call
to the checker, the engine and the socket.

A read that asks for more bytes than there are waits, so its step changes nothing.
So does a `send` while the client does not take what was sent before.  The
operations on the vector of threads are taken as atomic.
-/

namespace OrderBookExchange

/-- Where the thread of a connection stands in `handle_client`. -/
inductive ClientPhase where
  | testing
  | readingTag
  | readingOrder
  | readingCancel
  | checking (msg : OrderMessage)
  | submitting (msg : OrderMessage)
  | cancelling (msg : CancelMessage)
  | reporting (report : ExecutionReport)
  | closed

namespace ClientPhase

def ofTag (tag : UInt8) : ClientPhase :=
  if tag = MessageType.newOrder then .readingOrder
  else if tag = MessageType.cancel then .readingCancel
  else .testing

def isClosed : ClientPhase → Bool
  | .closed => true
  | _ => false

end ClientPhase

/-- A connection: the bytes that have arrived and are not read yet, whether the
client has hung up, and the thread. -/
structure Connection where
  unread : List UInt8
  hungUp : Bool
  phase : ClientPhase

namespace Connection

/-- A connection whose thread is about to run. -/
def new : Connection where
  unread := []
  hungUp := false
  phase := .testing

def goTo (connection : Connection) (phase : ClientPhase) : Connection :=
  { connection with phase }

/-- `recv` with `MSG_WAITALL`: all the bytes asked for, or what there is once the
client has hung up. -/
def recv (connection : Connection) (size : Nat) : Option (List UInt8 × Connection) :=
  if connection.unread.length < size ∧ connection.hungUp = false then none
  else
    some (connection.unread.take size,
      { connection with unread := connection.unread.drop size })

/-- A read and the test of its result. -/
def read (connection : Connection) (size : Nat) (next : List UInt8 → ClientPhase) : Connection :=
  match connection.recv size with
  | none => connection
  | some (received, rest) => rest.goTo (if received.length = 0 then .closed else next received)

theorem read_of_short {connection : Connection} (size : Nat) (next : List UInt8 → ClientPhase)
    (short : connection.unread.length < size) (connected : connection.hungUp = false) :
    connection.read size next = connection := by
  rw [read, recv, if_pos ⟨short, connected⟩]

theorem read_of_fed {connection : Connection} (size : Nat) (next : List UInt8 → ClientPhase)
    (fed : ¬(connection.unread.length < size ∧ connection.hungUp = false)) :
    connection.read size next =
      { connection with
        unread := connection.unread.drop size
        phase :=
          if (connection.unread.take size).length = 0 then .closed
          else next (connection.unread.take size) } := by
  rw [read, recv, if_neg fed]
  rfl

/-- The next step of the thread of a connection.  Whether the socket is writable is up
to the client, and a report waits until it is. -/
def proceed (running : Bool) (stack : Nat → UInt8) (clock : Clock) (writable : Bool)
    (server : TcpServer) (connection : Connection) : TcpServer × Connection × List ServerCall :=
  match connection.phase with
  | .testing => (server, connection.goTo (if running then .readingTag else .closed), [])
  | .readingTag =>
      (server, connection.read 1 fun received => .ofTag (received.headD 0), [])
  | .readingOrder =>
      (server,
        connection.read OrderMessage.bodySize fun received =>
          .checking (.ofBody (TcpServer.overlay stack OrderMessage.bodySize received)), [])
  | .readingCancel =>
      (server,
        connection.read CancelMessage.bodySize fun received =>
          .cancelling (.ofBody (TcpServer.overlay stack CancelMessage.bodySize received)), [])
  | .checking msg =>
      let checked := server.checkOrder msg
      (checked.1,
        connection.goTo
          (if checked.2 ≠ .none then .reporting (TcpServer.orderReport msg 0)
          else .submitting msg),
        server.checkCalls msg)
  | .submitting msg =>
      let submitted := server.submit clock msg
      (submitted.1, connection.goTo (.reporting (TcpServer.orderReport msg submitted.2)),
        [.submitOrder (getSymbol msg.symbol) msg.side msg.orderType msg.price msg.quantity])
  | .cancelling msg =>
      let result := server.engine.cancelOrder (getSymbol msg.symbol) msg.orderId
      ({ server with engine := result.1 },
        connection.goTo (.reporting (TcpServer.cancelReport msg result.2)),
        [.cancelOrder (getSymbol msg.symbol) msg.orderId])
  | .reporting report =>
      if writable then (server, connection.goTo .testing, [.send report])
      else (server, connection, [])
  | .closed => (server, connection, [])

end Connection

/-- Where the accepting thread stands in `start`. -/
inductive StartPhase where
  | testing
  | accepting
  | spawning
  | left

/-- Where the stopping thread stands in `stop`.  The loop joins the threads that
are in the vector when it begins.  The vector is cleared after it, and the
destructor of a thread that was not joined terminates the process. -/
inductive StopPhase where
  | notCalled
  | closing
  | joining (joined last : Nat)
  | returned
  | terminated
  deriving DecidableEq

/-- The server and its threads. -/
structure ServerThreads where
  server : TcpServer
  running : Bool
  connections : List Connection
  starting : StartPhase
  stopping : StopPhase

/-- A step of one of the threads, or something a client does. -/
inductive ThreadAction where
  | start (accepted : Bool)
  | stop
  | proceed (index : Nat) (stack : Nat → UInt8) (clock : Clock) (writable : Bool)
  | arrive (index : Nat) (bytes : List UInt8)
  | hangUp (index : Nat)

/-- The steps of the server's own threads. -/
def ThreadAction.isThread : ThreadAction → Bool
  | .start _ => true
  | .stop => true
  | .proceed .. => true
  | _ => false

/-- What can be seen of a connection: its bytes coming in and the calls of its
thread. -/
inductive ClientEvent where
  | arrived (bytes : List UInt8)
  | called (call : ServerCall)

namespace ServerThreads

/-- The server right after it has begun to listen. -/
def listening (server : TcpServer) : ServerThreads where
  server := server
  running := true
  connections := []
  starting := .testing
  stopping := .notCalled

/-- The next step of `start`.  Whether a client is accepted is up to the network. -/
def stepStart (threads : ServerThreads) (accepted : Bool) : ServerThreads :=
  match threads.starting with
  | .testing => { threads with starting := if threads.running then .accepting else .left }
  | .accepting => { threads with starting := if accepted then .spawning else .testing }
  | .spawning =>
      { threads with
        connections := threads.connections ++ [.new]
        starting := .testing }
  | .left => threads

/-- The next step of `stop`. -/
def stepStop (threads : ServerThreads) : ServerThreads :=
  match threads.stopping with
  | .notCalled => { threads with running := false, stopping := .closing }
  | .closing => { threads with stopping := .joining 0 threads.connections.length }
  | .joining joined last =>
      if joined < last then
        match threads.connections[joined]? with
        | some connection =>
            if connection.phase.isClosed then
              { threads with stopping := .joining (joined + 1) last }
            else threads
        | none => threads
      else if threads.connections.length = last then { threads with stopping := .returned }
      else { threads with stopping := .terminated }
  | .returned => threads
  | .terminated => threads

/-- The next step of the thread of a connection. -/
def stepClient (threads : ServerThreads) (index : Nat) (stack : Nat → UInt8) (clock : Clock)
    (writable : Bool) : ServerThreads × List (Nat × ClientEvent) :=
  match threads.connections[index]? with
  | none => (threads, [])
  | some connection =>
      let result := connection.proceed threads.running stack clock writable threads.server
      ({ threads with
          server := result.1
          connections := threads.connections.set index result.2.1 },
        result.2.2.map fun call => (index, .called call))

/-- Bytes of a client arrive while its connection is open on both ends. -/
def stepArrive (threads : ServerThreads) (index : Nat) (bytes : List UInt8) :
    ServerThreads × List (Nat × ClientEvent) :=
  match threads.connections[index]? with
  | none => (threads, [])
  | some connection =>
      if connection.hungUp || connection.phase.isClosed then (threads, [])
      else
        ({ threads with
            connections := threads.connections.set index
              { connection with unread := connection.unread ++ bytes } },
          [(index, .arrived bytes)])

def stepHangUp (threads : ServerThreads) (index : Nat) : ServerThreads :=
  match threads.connections[index]? with
  | none => threads
  | some connection =>
      { threads with
        connections := threads.connections.set index { connection with hungUp := true } }

def act (threads : ServerThreads) : ThreadAction → ServerThreads × List (Nat × ClientEvent)
  | .start accepted => (threads.stepStart accepted, [])
  | .stop => (threads.stepStop, [])
  | .proceed index stack clock writable => threads.stepClient index stack clock writable
  | .arrive index bytes => threads.stepArrive index bytes
  | .hangUp index => (threads.stepHangUp index, [])

/-- One step of anybody; after the process has terminated there are none. -/
def step (threads : ServerThreads) (action : ThreadAction) :
    ServerThreads × List (Nat × ClientEvent) :=
  match threads.stopping with
  | .terminated => (threads, [])
  | _ => threads.act action

theorem step_cases (threads : ServerThreads) (action : ThreadAction) :
    threads.step action = (threads, []) ∨ threads.step action = threads.act action := by
  rw [step]
  split
  · exact Or.inl rfl
  · exact Or.inr rfl

/-- The events of one connection. -/
def eventsOf (index : Nat) (log : List (Nat × ClientEvent)) : List ClientEvent :=
  log.filterMap fun event => if event.1 = index then some event.2 else none

@[simp]
theorem eventsOf_append (index : Nat) (log later : List (Nat × ClientEvent)) :
    eventsOf index (log ++ later) = eventsOf index log ++ eventsOf index later :=
  List.filterMap_append

theorem eventsOf_map (index own : Nat) (events : List ClientEvent) :
    eventsOf index (events.map fun event => (own, event)) = if own = index then events else [] := by
  rw [eventsOf, List.filterMap_map]
  split
  · next same => simp [same]
  · next other => simp [other]

end ServerThreads

/-- The calls among the events of a connection. -/
def callsOf (events : List ClientEvent) : List ServerCall :=
  events.filterMap fun
    | .called call => some call
    | .arrived _ => none

/-- The bytes that have arrived. -/
def arrivedBytes (events : List ClientEvent) : List UInt8 :=
  events.flatMap fun
    | .called _ => []
    | .arrived bytes => bytes

section Events

variable (events later : List ClientEvent) (calls : List ServerCall)

@[simp]
theorem callsOf_append : callsOf (events ++ later) = callsOf events ++ callsOf later :=
  List.filterMap_append

@[simp]
theorem callsOf_called : callsOf (calls.map .called) = calls := by
  rw [callsOf, List.filterMap_map]
  exact List.filterMap_some

@[simp]
theorem arrivedBytes_append :
    arrivedBytes (events ++ later) = arrivedBytes events ++ arrivedBytes later :=
  List.flatMap_append

@[simp]
theorem arrivedBytes_called : arrivedBytes (calls.map .called) = [] := by
  simp [arrivedBytes, List.flatMap_map]

end Events

/-! ### One step, seen from one connection -/

/-- What a step of anybody may do to the connection at a place. -/
inductive Connection.Moves (threads : ServerThreads) (action : ThreadAction) (index : Nat)
    (connection : Connection) : Connection → List ClientEvent → Prop
  | stays : Moves threads action index connection connection []
  | arrives (bytes : List UInt8) (fromClient : action.isThread = false)
      (connected : connection.hungUp = false) (alive : connection.phase.isClosed = false) :
      Moves threads action index connection
        { connection with unread := connection.unread ++ bytes } [.arrived bytes]
  | hangsUp (fromClient : action.isThread = false) :
      Moves threads action index connection { connection with hungUp := true } []
  | proceeds (stack : Nat → UInt8) (clock : Clock) (writable : Bool)
      (taken : action = .proceed index stack clock writable) :
      Moves threads action index connection
        (connection.proceed threads.running stack clock writable threads.server).2.1
        ((connection.proceed threads.running stack clock writable threads.server).2.2.map .called)

namespace ServerThreads

open Connection (Moves)

variable {threads : ServerThreads} {connection : Connection} {index : Nat}

@[simp]
theorem connections_stepStop (threads : ServerThreads) :
    threads.stepStop.connections = threads.connections := by
  rw [stepStop]
  split
  · rfl
  · rfl
  · split
    · split
      · split <;> rfl
      · rfl
    · split <;> rfl
  · rfl
  · rfl

@[simp]
theorem server_stepStop (threads : ServerThreads) : threads.stepStop.server = threads.server := by
  rw [stepStop]
  split
  · rfl
  · rfl
  · split
    · split
      · split <;> rfl
      · rfl
    · split <;> rfl
  · rfl
  · rfl

theorem map_phase_set {connections : List Connection} {own : Nat} {old new : Connection}
    (found : connections[own]? = some old) (same : new.phase = old.phase) :
    (connections.set own new).map Connection.phase = connections.map Connection.phase := by
  induction connections generalizing own with
  | nil => rfl
  | cons connection connections induction =>
      cases own with
      | zero =>
          obtain rfl := Option.some.inj found
          rw [List.set_cons_zero, List.map_cons, List.map_cons, same]
      | succ own => rw [List.set_cons_succ, List.map_cons, List.map_cons, induction found]

/-- A step is one of a connection's thread, or it leaves the checker, the engine and
all those threads where they are; a new connection may come in. -/
theorem step_effect (threads : ServerThreads) (action : ThreadAction) :
    (∃ (index : Nat) (stack : Nat → UInt8) (clock : Clock) (writable : Bool)
        (connection : Connection),
        threads.connections[index]? = some connection ∧
          threads.step action =
            let result := connection.proceed threads.running stack clock writable threads.server
            ({ threads with
                server := result.1
                connections := threads.connections.set index result.2.1 },
              result.2.2.map fun call => (index, .called call))) ∨
      (threads.step action).1.server = threads.server ∧
        callsOf ((threads.step action).2.map Prod.snd) = [] ∧
        ∃ born, (threads.step action).1.connections.map Connection.phase =
          threads.connections.map Connection.phase ++ List.replicate born .testing := by
  -- a step that does not touch the connections
  have untouched {later : ServerThreads} (serverEq : later.server = threads.server)
      (connectionsEq : later.connections = threads.connections) :
      later.server = threads.server ∧
        callsOf (([] : List (Nat × ClientEvent)).map Prod.snd) = [] ∧
        ∃ born, later.connections.map Connection.phase =
          threads.connections.map Connection.phase ++ List.replicate born .testing :=
    ⟨serverEq, rfl, 0, by simp [connectionsEq]⟩
  rcases threads.step_cases action with unchanged | acts
  · rw [unchanged]
    exact Or.inr (untouched rfl rfl)
  rw [acts]
  cases action with
  | start accepted =>
      apply Or.inr
      change (threads.stepStart accepted).server = _ ∧ _ ∧ ∃ born,
        (threads.stepStart accepted).connections.map Connection.phase = _
      rw [stepStart]
      split
      · exact untouched rfl rfl
      · exact untouched rfl rfl
      · exact ⟨rfl, rfl, 1, List.map_append⟩
      · exact untouched rfl rfl
  | stop => exact Or.inr (untouched threads.server_stepStop threads.connections_stepStop)
  | proceed index stack clock writable =>
      cases found : threads.connections[index]? with
      | none =>
          have idle : threads.act (.proceed index stack clock writable) = (threads, []) := by
            change threads.stepClient index stack clock writable = _
            rw [stepClient, found]
          rw [idle]
          exact Or.inr (untouched rfl rfl)
      | some connection =>
          apply Or.inl
          refine ⟨index, stack, clock, writable, connection, found, ?_⟩
          change threads.stepClient index stack clock writable = _
          rw [stepClient, found]
  | arrive index bytes =>
      apply Or.inr
      change (threads.stepArrive index bytes).1.server = _ ∧
        callsOf ((threads.stepArrive index bytes).2.map Prod.snd) = [] ∧ ∃ born,
          (threads.stepArrive index bytes).1.connections.map Connection.phase = _
      rw [stepArrive]
      split
      · exact untouched rfl rfl
      · next connection found =>
          split
          · exact untouched rfl rfl
          · refine ⟨rfl, rfl, 0, ?_⟩
            rw [List.replicate_zero, List.append_nil]
            exact map_phase_set found rfl
  | hangUp index =>
      apply Or.inr
      change (threads.stepHangUp index).server = _ ∧ _ ∧ ∃ born,
        (threads.stepHangUp index).connections.map Connection.phase = _
      rw [stepHangUp]
      split
      · exact untouched rfl rfl
      · next connection found =>
          refine ⟨rfl, rfl, 0, ?_⟩
          rw [List.replicate_zero, List.append_nil]
          exact map_phase_set found rfl

theorem server_step (threads : ServerThreads) (action : ThreadAction) :
    (threads.step action).1.server = threads.server ∨
      ∃ (index : Nat) (stack : Nat → UInt8) (clock : Clock) (writable : Bool)
        (connection : Connection),
        threads.connections[index]? = some connection ∧ (threads.step action).1.server =
          (connection.proceed threads.running stack clock writable threads.server).1 := by
  rcases threads.step_effect action with
    ⟨index, stack, clock, writable, connection, found, acts⟩ | idle
  · exact Or.inr ⟨index, stack, clock, writable, connection, found, by rw [acts]⟩
  · exact Or.inl idle.1

/-- A connection after a step of anybody. -/
theorem connection_step (found : threads.connections[index]? = some connection)
    (action : ThreadAction) :
    ∃ later, (threads.step action).1.connections[index]? = some later ∧
      Moves threads action index connection later (eventsOf index (threads.step action).2) := by
  have inRange : index < threads.connections.length := by
    by_contra beyond
    rw [List.getElem?_eq_none (by omega)] at found
    simp at found
  -- what is put in the place of some connection
  have replaced (own : Nat) {old new : Connection} (foundOwn : threads.connections[own]? = some old)
      {events : List ClientEvent} (moves : Moves threads action own old new events) :
      ∃ later, (threads.connections.set own new)[index]? = some later ∧
        Moves threads action index connection later
          (eventsOf index (events.map fun event => (own, event))) := by
    rw [eventsOf_map]
    by_cases same : own = index
    · subst same
      obtain rfl := Option.some.inj (found.symm.trans foundOwn)
      exact ⟨new, List.getElem?_set_self inRange, by simpa using moves⟩
    · rw [List.getElem?_set_ne same, if_neg same]
      exact ⟨connection, found, .stays⟩
  rcases threads.step_cases action with stopped | acts
  · rw [stopped]
    exact ⟨connection, found, .stays⟩
  rw [acts]
  cases action with
  | start accepted =>
      refine ⟨connection, ?_, .stays⟩
      change (threads.stepStart accepted).connections[index]? = _
      rw [stepStart]
      split
      · exact found
      · exact found
      · exact (List.getElem?_append_left inRange).trans found
      · exact found
  | stop =>
      refine ⟨connection, ?_, .stays⟩
      change threads.stepStop.connections[index]? = _
      rw [connections_stepStop]
      exact found
  | proceed own stack clock writable =>
      change ∃ later,
        (threads.stepClient own stack clock writable).1.connections[index]? = some later ∧
          Moves threads _ index connection later
            (eventsOf index (threads.stepClient own stack clock writable).2)
      rw [stepClient]
      split
      · exact ⟨connection, found, .stays⟩
      · next old foundOwn =>
          have moved := replaced own foundOwn (.proceeds stack clock writable rfl)
          rwa [List.map_map] at moved
  | arrive own bytes =>
      change ∃ later, (threads.stepArrive own bytes).1.connections[index]? = some later ∧
        Moves threads _ index connection later (eventsOf index (threads.stepArrive own bytes).2)
      rw [stepArrive]
      split
      · exact ⟨connection, found, .stays⟩
      · next old foundOwn =>
          split
          · exact ⟨connection, found, .stays⟩
          · next openEnds =>
              simp only [Bool.or_eq_true, not_or, Bool.not_eq_true] at openEnds
              exact replaced own foundOwn (.arrives bytes rfl openEnds.1 openEnds.2)
  | hangUp own =>
      change ∃ later, (threads.stepHangUp own).connections[index]? = some later ∧
        Moves threads _ index connection later []
      rw [stepHangUp]
      split
      · exact ⟨connection, found, .stays⟩
      · next old foundOwn => exact replaced own foundOwn (.hangsUp rfl)

theorem connection_born (absent : threads.connections[index]? = none) (action : ThreadAction) :
    eventsOf index (threads.step action).2 = [] ∧
      ∀ connection, (threads.step action).1.connections[index]? = some connection →
        connection = .new := by
  have unset (own : Nat) (connection : Connection) :
      (threads.connections.set own connection)[index]? = none := by
    rw [List.getElem?_eq_none_iff, List.length_set]
    exact List.getElem?_eq_none_iff.mp absent
  -- a connection that is not there is not the one that acts
  have apart {own : Nat} {old : Connection} (found : threads.connections[own]? = some old) :
      own ≠ index := by
    rintro rfl
    simp [absent] at found
  rcases threads.step_cases action with stopped | acts
  · rw [stopped]
    exact ⟨rfl, by simp [absent]⟩
  rw [acts]
  cases action with
  | start accepted =>
      refine ⟨rfl, ?_⟩
      change ∀ connection, (threads.stepStart accepted).connections[index]? = some connection → _
      rw [stepStart]
      split
      · simp [absent]
      · simp [absent]
      · intro connection found
        rw [List.getElem?_append_right (List.getElem?_eq_none_iff.mp absent)] at found
        exact List.mem_singleton.mp (List.mem_of_getElem? found)
      · simp [absent]
  | stop =>
      refine ⟨rfl, ?_⟩
      change ∀ connection, threads.stepStop.connections[index]? = some connection → _
      simp [absent]
  | proceed own stack clock writable =>
      change eventsOf index (threads.stepClient own stack clock writable).2 = [] ∧
        ∀ connection, (threads.stepClient own stack clock writable).1.connections[index]? =
          some connection → _
      rw [stepClient]
      split
      · exact ⟨rfl, by simp [absent]⟩
      · next old found =>
          refine ⟨?_, by simp [unset]⟩
          have events := eventsOf_map index own
            ((old.proceed threads.running stack clock writable threads.server).2.2.map .called)
          rwa [if_neg (apart found), List.map_map] at events
  | arrive own bytes =>
      change eventsOf index (threads.stepArrive own bytes).2 = [] ∧
        ∀ connection, (threads.stepArrive own bytes).1.connections[index]? = some connection → _
      rw [stepArrive]
      split
      · exact ⟨rfl, by simp [absent]⟩
      · next old found =>
          split
          · exact ⟨rfl, by simp [absent]⟩
          · exact ⟨by simp [eventsOf, apart found], by simp [unset]⟩
  | hangUp own =>
      refine ⟨rfl, ?_⟩
      change ∀ connection, (threads.stepHangUp own).connections[index]? = some connection → _
      rw [stepHangUp]
      split
      · simp [absent]
      · simp [unset]

/-- What every move of a connection keeps of it and of its events so far holds in
every run, from a state that satisfies a condition all steps keep. -/
theorem run_connection (condition : ServerThreads → Prop)
    (conditionKept : ∀ threads action, condition threads → condition (threads.step action).1)
    (invariant : Connection → List ClientEvent → Prop) (fresh : invariant .new []) (index : Nat)
    (kept : ∀ threads action connection later log events, condition threads →
      invariant connection log → Moves threads action index connection later events →
        invariant later (log ++ events))
    (initial : condition threads)
    (first : ∀ connection, threads.connections[index]? = some connection →
      invariant connection [])
    (actions : List ThreadAction) :
    let result := Transition.run step threads actions
    (result.1.connections[index]? = none → eventsOf index result.2.flatten = []) ∧
      ∀ connection, result.1.connections[index]? = some connection →
        invariant connection (eventsOf index result.2.flatten) := by
  let holds (threads : ServerThreads) (log : List (Nat × ClientEvent)) : Prop :=
    condition threads ∧
      (threads.connections[index]? = none → eventsOf index log = []) ∧
      ∀ connection, threads.connections[index]? = some connection →
        invariant connection (eventsOf index log)
  have preserved (threads : ServerThreads) (log : List (Nat × ClientEvent))
      (action : ThreadAction) (before : holds threads log) :
      holds (threads.step action).1 (log ++ (threads.step action).2) := by
    obtain ⟨allowed, absent, present⟩ := before
    refine ⟨conditionKept threads action allowed, ?_⟩
    rw [eventsOf_append]
    cases found : threads.connections[index]? with
    | none =>
        obtain ⟨silent, born⟩ := connection_born found action
        rw [absent found, silent]
        refine ⟨fun _ => rfl, ?_⟩
        intro connection foundLater
        rw [born connection foundLater]
        exact fresh
    | some connection =>
        obtain ⟨later, foundLater, moves⟩ := connection_step found action
        rw [foundLater]
        refine ⟨by simp, ?_⟩
        rintro other same
        obtain rfl := Option.some.inj same
        exact kept threads action connection later _ _ allowed (present connection found) moves
  have initially : holds threads [] := ⟨initial, fun _ => rfl, first⟩
  exact (Transition.run_logged holds preserved initially actions).2

end ServerThreads

/-! ### A connection that is left alone -/

namespace Connection

/-- The thread of a connection while the server is running, its client takes the
reports and no other thread takes a step. -/
def alone (stack : Nat → UInt8) (state : TcpServer × Connection) (clock : Clock) :
    (TcpServer × Connection) × List ServerCall :=
  let result := state.2.proceed true stack clock true state.1
  ((result.1, result.2.1), result.2.2)

/-- From one state to another with the given calls. -/
def Leads (stack : Nat → UInt8) (first final : TcpServer × Connection)
    (calls : List ServerCall) : Prop :=
  ∃ clocks : List Clock, (Transition.run (alone stack) first clocks).1 = final ∧
    (Transition.run (alone stack) first clocks).2.flatten = calls

theorem Leads.refl (stack : Nat → UInt8) (state : TcpServer × Connection) :
    Leads stack state state [] :=
  ⟨[], rfl, rfl⟩

theorem Leads.step {stack : Nat → UInt8} {first next final : TcpServer × Connection}
    {made calls : List ServerCall} (clock : Clock) (taken : alone stack first clock = (next, made))
    (rest : Leads stack next final calls) : Leads stack first final (made ++ calls) := by
  obtain ⟨clocks, finalEq, callsEq⟩ := rest
  refine ⟨clock :: clocks, ?_, ?_⟩
  · rw [Transition.run_cons, taken]
    exact finalEq
  · rw [Transition.run_cons, taken, List.flatten_cons, callsEq]

variable {stack : Nat → UInt8} {server : TcpServer} {unread : List UInt8}
  {final : TcpServer × Connection} {calls : List ServerCall}

theorem read_hungUp (phase : ClientPhase) (size : Nat) (next : List UInt8 → ClientPhase) :
    read ⟨unread, true, phase⟩ size next =
      ⟨unread.drop size, true,
        if (unread.take size).length = 0 then .closed else next (unread.take size)⟩ := by
  simp [read, recv, goTo]

theorem leads_closed (stack : Nat → UInt8) (clock : Clock) (server : TcpServer) :
    Leads stack (server, ⟨[], true, .testing⟩) (server, ⟨[], true, .closed⟩) [] :=
  .step clock rfl (.step clock rfl (.refl stack _))

theorem leads_tag (clock : Clock) (tag : UInt8)
    (rest : Leads stack (server, ⟨unread, true, .ofTag tag⟩) final calls) :
    Leads stack (server, ⟨tag :: unread, true, .testing⟩) final calls := by
  have tagRead : alone stack (server, ⟨tag :: unread, true, .readingTag⟩) clock =
      ((server, ⟨unread, true, .ofTag tag⟩), []) := by
    simp [alone, proceed, read_hungUp]
  exact .step clock rfl (.step clock tagRead rest)

/-- An order is checked, submitted unless the check refuses it, and reported. -/
theorem leads_newOrder (clock : Clock) (msg : OrderMessage)
    (rest : Leads stack ((server.handleNewOrder clock msg).1, ⟨unread, true, .testing⟩) final
      calls) :
    Leads stack (server, ⟨unread, true, .checking msg⟩) final
      ((server.handleNewOrder clock msg).2 ++ calls) := by
  by_cases rejected : (server.checkOrder msg).2 ≠ .none
  · have checked : alone stack (server, ⟨unread, true, .checking msg⟩) clock =
        (((server.checkOrder msg).1, ⟨unread, true, .reporting (TcpServer.orderReport msg 0)⟩),
          server.checkCalls msg) := by
      simp [alone, proceed, goTo, rejected]
    rw [TcpServer.handleNewOrder, if_pos rejected] at rest ⊢
    rw [List.append_assoc]
    exact .step clock checked (.step clock rfl rest)
  · have checked : alone stack (server, ⟨unread, true, .checking msg⟩) clock =
        (((server.checkOrder msg).1, ⟨unread, true, .submitting msg⟩),
          server.checkCalls msg) := by
      simp [alone, proceed, goTo, rejected]
    rw [TcpServer.handleNewOrder, if_neg rejected] at rest ⊢
    rw [List.append_assoc]
    have submitted : Leads stack ((server.checkOrder msg).1, ⟨unread, true, .submitting msg⟩)
        final
        ([.submitOrder (getSymbol msg.symbol) msg.side msg.orderType msg.price msg.quantity] ++
          ([.send (TcpServer.orderReport msg ((server.checkOrder msg).1.submit clock msg).2)] ++
            calls)) :=
      .step clock rfl (.step clock rfl rest)
    exact .step clock checked submitted

theorem leads_cancel (clock : Clock) (msg : CancelMessage)
    (rest : Leads stack ((server.handleCancel msg).1, ⟨unread, true, .testing⟩) final calls) :
    Leads stack (server, ⟨unread, true, .cancelling msg⟩) final
      ((server.handleCancel msg).2 ++ calls) := by
  have cancelled : Leads stack (server, ⟨unread, true, .cancelling msg⟩) final
      ([.cancelOrder (getSymbol msg.symbol) msg.orderId] ++
        ([.send (TcpServer.cancelReport msg
          (server.engine.cancelOrder (getSymbol msg.symbol) msg.orderId).2)] ++ calls)) :=
    .step clock rfl (.step clock rfl rest)
  exact cancelled

theorem leads_body (clock : Clock) {phase : ClientPhase} {size : Nat}
    {next : List UInt8 → ClientPhase}
    (reads : alone stack (server, ⟨unread, true, phase⟩) clock =
      ((server, read ⟨unread, true, phase⟩ size next), []))
    (rest : Leads stack (server, ⟨unread.drop size, true,
      if (unread.take size).length = 0 then .closed else next (unread.take size)⟩) final calls) :
    Leads stack (server, ⟨unread, true, phase⟩) final calls := by
  rw [read_hungUp] at reads
  exact .step clock reads rest

/-- The steps of the thread amount to the loop of `handle_client`. -/
theorem leads_handleLoop (stack : Nat → UInt8) (fuel : Nat) (clocks : Nat → Clock)
    (server : TcpServer) (stream : List UInt8) (enough : stream.length ≤ fuel) :
    let handled := TcpServer.handleLoop stack fuel clocks server stream
    Leads stack (server, ⟨stream, true, .testing⟩) (handled.1, ⟨[], true, .closed⟩)
      handled.2 := by
  induction fuel generalizing clocks server stream with
  | zero =>
      obtain rfl : stream = [] := List.eq_nil_of_length_eq_zero (by omega)
      exact leads_closed stack (clocks 0) server
  | succ fuel induction =>
      cases stream with
      | nil => exact leads_closed stack (clocks 0) server
      | cons tag stream =>
          rw [List.length_cons] at enough
          have shorter (size : Nat) : (stream.drop size).length ≤ fuel := by
            rw [List.length_drop]
            omega
          -- a read that returned nothing left nothing
          have ended {size : Nat} (positive : 0 < size) (none : (stream.take size).length = 0) :
              stream.drop size = [] := by
            rw [List.length_take] at none
            rw [List.drop_eq_nil_iff]
            omega
          rw [TcpServer.handleLoop]
          dsimp only
          apply leads_tag (clocks 0)
          by_cases isOrder : tag = MessageType.newOrder
          · rw [ClientPhase.ofTag, if_pos isOrder, if_pos isOrder]
            refine leads_body (clocks 0) rfl ?_
            split
            · next none =>
                rw [ended (by decide) none]
                exact .refl stack _
            · exact leads_newOrder (clocks 0) _
                (induction (fun index => clocks (index + 1)) _ _ (shorter _))
          · rw [ClientPhase.ofTag, if_neg isOrder, if_neg isOrder]
            by_cases isCancel : tag = MessageType.cancel
            · rw [if_pos isCancel, if_pos isCancel]
              refine leads_body (clocks 0) rfl ?_
              split
              · next none =>
                  rw [ended (by decide) none]
                  exact .refl stack _
              · exact leads_cancel (clocks 0) _
                  (induction (fun index => clocks (index + 1)) _ _ (shorter _))
            · rw [if_neg isCancel, if_neg isCancel]
              exact induction (fun index => clocks (index + 1)) server stream (by omega)

/-- A connection that nobody interrupts, once all its bytes are there, is served as
`handle_client` serves it. -/
theorem leads_handleClient (stack : Nat → UInt8) (clocks : Nat → Clock) (server : TcpServer)
    (stream : List UInt8) :
    let handled := server.handleClient stack clocks stream
    Leads stack (server, ⟨stream, true, .testing⟩) (handled.1, ⟨[], true, .closed⟩) handled.2 :=
  leads_handleLoop stack stream.length clocks server stream le_rfl

end Connection

end OrderBookExchange
