import OrderBookExchange.ListCounts
import OrderBookExchange.ServerThreads
import OrderBookExchange.WireRoundTrip

/-!
# Stopping the server

`stop` clears `running_`, closes the listening socket and joins the threads of the
connections.  The threads look at the flag between messages only, and a thread
that waits in a read or in a `send` is not woken.  So a connection finishes at most
the message it is at, and `stop` can return only if no connection waits for bytes
that its client does not send, and none has a report for a client that does not
read.
-/

namespace OrderBookExchange

/-- The calls that change the engine. -/
def ServerCall.isEngineCall : ServerCall → Bool
  | .submitOrder .. => true
  | .cancelOrder .. => true
  | _ => false

namespace ClientPhase

/-- The reports a thread still sends once the flag is cleared. -/
def reportsLeft : ClientPhase → Nat
  | .testing => 0
  | .closed => 0
  | _ => 1

/-- The engine calls a thread still makes once the flag is cleared. -/
def engineCallsLeft : ClientPhase → Nat
  | .testing => 0
  | .reporting _ => 0
  | .closed => 0
  | _ => 1

/-- The steps a thread that never has to wait takes until it closes, once the flag
is cleared. -/
def stepsLeft : ClientPhase → Nat
  | .closed => 0
  | .testing => 1
  | .reporting _ => 2
  | .submitting _ => 3
  | .cancelling _ => 3
  | .checking _ => 4
  | .readingOrder => 5
  | .readingCancel => 5
  | .readingTag => 6

theorem reportsLeft_le (phase : ClientPhase) : phase.reportsLeft ≤ 1 := by
  cases phase <;> simp [reportsLeft]

theorem engineCallsLeft_le (phase : ClientPhase) : phase.engineCallsLeft ≤ 1 := by
  cases phase <;> simp [engineCallsLeft]

/-- Between messages or done. -/
def Quiet (phase : ClientPhase) : Prop :=
  phase = .testing ∨ phase = .closed

theorem quiet_of_isClosed {phase : ClientPhase} (closed : phase.isClosed = true) :
    phase.Quiet := by
  cases phase with
  | closed => exact Or.inr rfl
  | _ => exact absurd closed (by simp [isClosed])

end ClientPhase

/-- The size of the body that follows a tag. -/
def bodySize (tag : UInt8) : Nat :=
  if tag = MessageType.newOrder then OrderMessage.bodySize
  else if tag = MessageType.cancel then CancelMessage.bodySize
  else 0

namespace Connection

/-- The bytes a thread wants before it is through with the message it is reading. -/
def wanted (connection : Connection) : Nat :=
  match connection.phase with
  | .readingTag => 1 + (connection.unread.head?.elim 0 bodySize)
  | .readingOrder => OrderMessage.bodySize
  | .readingCancel => CancelMessage.bodySize
  | _ => 0

/-- Whether a thread that is not kept waiting for bytes sends a report before it
closes, once the flag is cleared. -/
def owesReport (connection : Connection) : Bool :=
  match connection.phase with
  | .testing => false
  | .readingTag =>
      connection.unread.head?.elim 0 bodySize != 0 && !connection.unread.tail.isEmpty
  | .readingOrder => !connection.unread.isEmpty
  | .readingCancel => !connection.unread.isEmpty
  | .checking _ => true
  | .submitting _ => true
  | .cancelling _ => true
  | .reporting _ => true
  | .closed => false

/-- The client is connected and has not sent all the bytes its thread wants. -/
def Starved (connection : Connection) : Prop :=
  connection.hungUp = false ∧ connection.unread.length < connection.wanted

instance (connection : Connection) : Decidable connection.Starved :=
  inferInstanceAs (Decidable (_ ∧ _))

variable {connection later : Connection} {events : List ClientEvent} {threads : ServerThreads}
  {action : ThreadAction} {index : Nat} {stack : Nat → UInt8} {clock : Clock} {server : TcpServer}

/-! ### After the flag is cleared -/

/-- A step uses up what it sends. -/
theorem reportsLeft_proceed (stack : Nat → UInt8) (clock : Clock) (writable : Bool)
    (server : TcpServer) (connection : Connection) :
    (sentReports (connection.proceed false stack clock writable server).2.2).length +
        (connection.proceed false stack clock writable server).2.1.phase.reportsLeft ≤
      connection.phase.reportsLeft := by
  obtain ⟨unread, hungUp, phase⟩ := connection
  cases phase with
  | testing => rfl
  | reporting report => cases writable <;> rfl
  | closed => rfl
  | checking msg =>
      have silent : sentReports (server.checkCalls msg) = [] := by
        rw [TcpServer.checkCalls]
        split <;> rfl
      rw [proceed, silent, List.length_nil, Nat.zero_add]
      exact ClientPhase.reportsLeft_le _
  | _ => exact (Nat.zero_add _).le.trans (ClientPhase.reportsLeft_le _)

theorem engineCallsLeft_proceed (stack : Nat → UInt8) (clock : Clock) (writable : Bool)
    (server : TcpServer) (connection : Connection) :
    (connection.proceed false stack clock writable server).2.2.countP ServerCall.isEngineCall +
        (connection.proceed false stack clock writable server).2.1.phase.engineCallsLeft ≤
      connection.phase.engineCallsLeft := by
  obtain ⟨unread, hungUp, phase⟩ := connection
  cases phase with
  | testing => rfl
  | reporting report => cases writable <;> rfl
  | closed => rfl
  | submitting msg => rfl
  | cancelling msg => rfl
  | checking msg =>
      have silent : (server.checkCalls msg).countP ServerCall.isEngineCall = 0 := by
        rw [TcpServer.checkCalls]
        split <;> rfl
      rw [proceed, silent, Nat.zero_add]
      exact ClientPhase.engineCallsLeft_le _
  | _ => exact (Nat.zero_add _).le.trans (ClientPhase.engineCallsLeft_le _)

/-- A thread between messages makes no further call. -/
theorem Moves.quiet (stopped : threads.running = false)
    (moves : Moves threads action index connection later events) (quiet : connection.phase.Quiet) :
    later.phase.Quiet ∧ callsOf events = [] := by
  cases moves with
  | stays => exact ⟨quiet, rfl⟩
  | arrives bytes => exact ⟨quiet, rfl⟩
  | hangsUp => exact ⟨quiet, rfl⟩
  | proceeds stack clock writable taken =>
      rw [stopped, callsOf_called]
      obtain ⟨unread, hungUp, phase⟩ := connection
      rcases quiet with rfl | rfl
      · exact ⟨Or.inr rfl, rfl⟩
      · exact ⟨Or.inr rfl, rfl⟩

/-- What has been sent and called since the flag was cleared, and what may still be. -/
structure Winding (reports engineCalls : Nat) (connection : Connection)
    (log : List ClientEvent) : Prop where
  reports : (sentReports (callsOf log)).length + connection.phase.reportsLeft ≤ reports
  engineCalls : (callsOf log).countP ServerCall.isEngineCall +
    connection.phase.engineCallsLeft ≤ engineCalls

theorem Winding.moves {reports engineCalls : Nat} {log : List ClientEvent}
    (winding : Winding reports engineCalls connection log) (stopped : threads.running = false)
    (moves : Moves threads action index connection later events) :
    Winding reports engineCalls later (log ++ events) := by
  obtain ⟨reportsBound, engineCallsBound⟩ := winding
  cases moves with
  | stays =>
      rw [List.append_nil]
      exact ⟨reportsBound, engineCallsBound⟩
  | arrives bytes =>
      have sameCalls : callsOf (log ++ [.arrived bytes]) = callsOf log := by
        simp [callsOf]
      exact ⟨sameCalls ▸ reportsBound, sameCalls ▸ engineCallsBound⟩
  | hangsUp =>
      rw [List.append_nil]
      exact ⟨reportsBound, engineCallsBound⟩
  | proceeds stack clock writable taken =>
      have reportStep := reportsLeft_proceed stack clock writable threads.server connection
      have engineStep := engineCallsLeft_proceed stack clock writable threads.server connection
      rw [stopped]
      constructor
      · rw [callsOf_append, callsOf_called, sentReports_append, List.length_append]
        omega
      · rw [callsOf_append, callsOf_called, List.countP_append]
        omega

/-! ### Waiting for a client -/

theorem Starved.proceed (starved : connection.Starved) (stack : Nat → UInt8) (clock : Clock)
    (writable : Bool) (server : TcpServer) (running : Bool) :
    (connection.proceed running stack clock writable server).2.1.Starved := by
  obtain ⟨connected, short⟩ := starved
  obtain ⟨unread, hungUp, phase⟩ := connection
  cases phase with
  | readingTag =>
      cases unread with
      | nil =>
          change ((⟨[], hungUp, .readingTag⟩ : Connection).read 1 _).Starved
          rw [read_of_short 1 _ (by simp) connected]
          exact ⟨connected, short⟩
      | cons tag unread =>
          have wanted : unread.length < bodySize tag := by
            simp only [Connection.wanted, List.head?_cons, Option.elim_some,
              List.length_cons] at short
            omega
          change ((⟨tag :: unread, hungUp, .readingTag⟩ : Connection).read 1 _).Starved
          rw [read_of_fed _ _ (by simp)]
          refine ⟨connected, ?_⟩
          change unread.length < Connection.wanted ⟨unread, hungUp, .ofTag tag⟩
          rw [bodySize] at wanted
          rw [ClientPhase.ofTag]
          split_ifs at wanted ⊢ with isOrder isCancel
          · exact wanted
          · exact wanted
          · omega
  | readingOrder =>
      change ((⟨unread, hungUp, .readingOrder⟩ : Connection).read OrderMessage.bodySize _).Starved
      rw [read_of_short OrderMessage.bodySize _ short connected]
      exact ⟨connected, short⟩
  | readingCancel =>
      change ((⟨unread, hungUp, .readingCancel⟩ : Connection).read CancelMessage.bodySize _).Starved
      rw [read_of_short CancelMessage.bodySize _ short connected]
      exact ⟨connected, short⟩
  | _ => exact absurd short (Nat.not_lt_zero _)

theorem not_starved_of_wanted (wantsNothing : connection.wanted = 0) : ¬connection.Starved := by
  rintro ⟨-, short⟩
  omega

theorem fed_of_not_starved (fed : ¬connection.Starved) {size : Nat}
    (wants : connection.wanted = size) :
    ¬(connection.unread.length < size ∧ connection.hungUp = false) := by
  rintro ⟨short, connected⟩
  exact fed ⟨connected, wants ▸ short⟩

/-- A later connection that is closer to its end, and no more kept waiting than before. -/
structure Closer (writable : Bool) (bound : Nat) (later : Connection) : Prop where
  fed : ¬later.Starved
  heard : writable = false → later.owesReport = false
  fewer : later.phase.stepsLeft < bound

section Closer

variable {writable : Bool} {bound : Nat}

theorem closer_testing (unread : List UInt8) (hungUp : Bool) (several : 1 < bound) :
    Closer writable bound ⟨unread, hungUp, .testing⟩ :=
  ⟨not_starved_of_wanted rfl, fun _ => rfl, several⟩

theorem closer_closed (unread : List UInt8) (hungUp : Bool) (some : 0 < bound) :
    Closer writable bound ⟨unread, hungUp, .closed⟩ :=
  ⟨not_starved_of_wanted rfl, fun _ => rfl, some⟩

/-- With something to report the client reads, so nobody is kept waiting. -/
theorem closer_of_owes (heard : writable = false → connection.owesReport = false)
    (owes : connection.owesReport = true) (wantsNothing : later.wanted = 0)
    (fewer : later.phase.stepsLeft < bound) : Closer writable bound later :=
  ⟨not_starved_of_wanted wantsNothing,
    fun deaf => absurd ((heard deaf).symm.trans owes) Bool.false_ne_true, fewer⟩

theorem closer_readBody (fed : ¬connection.Starved)
    (heard : writable = false → connection.owesReport = false) {size : Nat}
    {next : List UInt8 → ClientPhase} (wants : connection.wanted = size)
    (owes : connection.unread ≠ [] → connection.owesReport = true)
    (nextWants : ∀ unread hungUp received, Connection.wanted ⟨unread, hungUp, next received⟩ = 0)
    (nextSteps : ∀ received, (next received).stepsLeft < bound) :
    Closer writable bound (connection.read size next) := by
  rw [read_of_fed _ _ (fed_of_not_starved fed wants)]
  split
  · exact closer_closed _ _ (Nat.zero_lt_of_lt (nextSteps []))
  · next some =>
      have nonempty : connection.unread ≠ [] := by
        intro empty
        exact some (by simp [empty])
      exact closer_of_owes heard (owes nonempty) (nextWants _ _ _) (nextSteps _)

theorem closer_ofTag {tag : UInt8} {unread : List UInt8} {hungUp : Bool}
    (fed : ¬Starved ⟨tag :: unread, hungUp, .readingTag⟩)
    (heard : writable = false → owesReport ⟨tag :: unread, hungUp, .readingTag⟩ = false) :
    Closer writable 6 ⟨unread, hungUp, .ofTag tag⟩ := by
  have fedBody : ¬(unread.length < bodySize tag ∧ hungUp = false) := by
    rintro ⟨short, connected⟩
    refine fed_of_not_starved fed (rfl : _ = 1 + bodySize tag) ⟨?_, connected⟩
    rw [List.length_cons]
    omega
  have heardBody : writable = false → bodySize tag ≠ 0 → unread = [] := by
    intro deaf hasBody
    simpa [owesReport, hasBody] using heard deaf
  rw [bodySize] at fedBody heardBody
  rw [ClientPhase.ofTag]
  split_ifs at fedBody heardBody ⊢ with isOrder isCancel
  · exact ⟨fun starved => fedBody ⟨starved.2, starved.1⟩,
      fun deaf => by simp [owesReport, heardBody deaf (by decide)], (by decide : 5 < 6)⟩
  · exact ⟨fun starved => fedBody ⟨starved.2, starved.1⟩,
      fun deaf => by simp [owesReport, heardBody deaf (by decide)], (by decide : 5 < 6)⟩
  · exact closer_testing _ _ (by decide)

end Closer

/-- A thread that has the bytes it wants, and whose client reads if there is something
to report, comes closer to its end with every step, and can go on afterwards. -/
theorem closer_proceed (fed : ¬connection.Starved) (alive : connection.phase.isClosed = false)
    {writable : Bool} (heard : writable = false → connection.owesReport = false)
    (stack : Nat → UInt8) (clock : Clock) (server : TcpServer) :
    Closer writable connection.phase.stepsLeft
      (connection.proceed false stack clock writable server).2.1 := by
  obtain ⟨unread, hungUp, phase⟩ := connection
  cases phase with
  | testing => exact closer_closed _ _ (by decide : 0 < 1)
  | readingTag =>
      change Closer writable 6 ((⟨unread, hungUp, .readingTag⟩ : Connection).read 1 _)
      cases unread with
      | nil =>
          rw [read_of_fed _ _ (fed_of_not_starved fed (rfl : _ = 1))]
          exact closer_closed _ _ (by decide)
      | cons tag unread =>
          rw [read_of_fed _ _ (by simp)]
          exact closer_ofTag fed heard
  | readingOrder =>
      exact closer_readBody fed heard rfl (fun nonempty => by simpa [owesReport] using nonempty)
        (fun _ _ _ => rfl) (fun _ => (by decide : 4 < 5))
  | readingCancel =>
      exact closer_readBody fed heard rfl (fun nonempty => by simpa [owesReport] using nonempty)
        (fun _ _ _ => rfl) (fun _ => (by decide : 3 < 5))
  | checking msg =>
      change Closer writable 4 (goTo _ _)
      split
      · exact closer_of_owes heard rfl rfl (by decide : 2 < 4)
      · exact closer_of_owes heard rfl rfl (by decide : 3 < 4)
  | submitting msg => exact closer_of_owes heard rfl rfl (by decide : 2 < 3)
  | cancelling msg => exact closer_of_owes heard rfl rfl (by decide : 2 < 3)
  | reporting report =>
      cases writable with
      | true => exact closer_testing _ _ (by decide : 1 < 2)
      | false => exact absurd (heard rfl) (by simp [owesReport])
  | closed => exact absurd alive (by simp [ClientPhase.isClosed])

end Connection

namespace ServerThreads

variable {threads : ServerThreads}

theorem flags_step {action : ThreadAction} (other : action ≠ .stop) :
    (threads.step action).1.running = threads.running ∧
      (threads.step action).1.stopping = threads.stopping := by
  rcases threads.step_cases action with stopped | acts
  · rw [stopped]
    exact ⟨rfl, rfl⟩
  rw [acts]
  cases action with
  | start accepted =>
      change (threads.stepStart accepted).running = _ ∧ (threads.stepStart accepted).stopping = _
      rw [stepStart]
      split <;> exact ⟨rfl, rfl⟩
  | stop => exact absurd rfl other
  | proceed index stack clock writable =>
      change (threads.stepClient index stack clock writable).1.running = _ ∧
        (threads.stepClient index stack clock writable).1.stopping = _
      rw [stepClient]
      split <;> exact ⟨rfl, rfl⟩
  | arrive index bytes =>
      change (threads.stepArrive index bytes).1.running = _ ∧
        (threads.stepArrive index bytes).1.stopping = _
      rw [stepArrive]
      split
      · exact ⟨rfl, rfl⟩
      · split <;> exact ⟨rfl, rfl⟩
  | hangUp index =>
      change (threads.stepHangUp index).running = _ ∧ (threads.stepHangUp index).stopping = _
      rw [stepHangUp]
      split <;> exact ⟨rfl, rfl⟩

theorem length_step (action : ThreadAction) :
    threads.connections.length ≤ (threads.step action).1.connections.length := by
  by_contra shrunk
  rw [not_le] at shrunk
  obtain ⟨later, found, -⟩ := connection_step (List.getElem?_eq_getElem shrunk) action
  rw [List.getElem?_eq_none le_rfl] at found
  simp at found

/-- The connections in a range of places are between messages or done. -/
def QuietIn (threads : ServerThreads) (scope : Nat → Prop) : Prop :=
  ∀ index connection, threads.connections[index]? = some connection → scope index →
    connection.phase.Quiet

/-- Connections that are between messages stay so, and new ones are. -/
theorem QuietIn.step {scope : Nat → Prop} (quiet : threads.QuietIn scope)
    (stopped : threads.running = false) (action : ThreadAction) :
    (threads.step action).1.QuietIn scope := by
  intro index connection foundLater inScope
  cases found : threads.connections[index]? with
  | none =>
      rw [(connection_born found action).2 connection foundLater]
      exact Or.inl rfl
  | some earlier =>
      obtain ⟨later, foundAgain, moves⟩ := connection_step found action
      obtain rfl := Option.some.inj (foundAgain.symm.trans foundLater)
      exact (moves.quiet stopped (quiet index earlier found inScope)).1

/-- Where `stop` has come, and what is then true of the connections. -/
def Stopping (threads : ServerThreads) : Prop :=
  match threads.stopping with
  | .notCalled => threads.running = true
  | .closing => threads.running = false
  | .joining joined last =>
      threads.running = false ∧ joined ≤ last ∧ last ≤ threads.connections.length ∧
        threads.QuietIn fun index => index < joined ∨ last ≤ index
  | .returned => threads.running = false ∧ threads.QuietIn fun _ => True
  | .terminated => threads.running = false ∧ threads.QuietIn fun _ => True

theorem Stopping.stepStop (stopping : threads.Stopping) : threads.stepStop.Stopping := by
  obtain ⟨server, running, connections, starting, phase⟩ := threads
  cases phase with
  | notCalled => exact (rfl : false = false)
  | closing =>
      refine ⟨stopping, Nat.zero_le _, le_rfl, ?_⟩
      intro index connection found inScope
      have inRange : index < connections.length := (List.getElem?_eq_some_iff.mp found).1
      have beyond : index < 0 ∨ connections.length ≤ index := inScope
      omega
  | joining joined last =>
      obtain ⟨stopped, inLoop, inVector, quiet⟩ := stopping
      rw [ServerThreads.stepStop]
      dsimp only
      split
      · next more =>
          split
          · next connection found =>
              split
              · next closed =>
                  refine ⟨stopped, more, inVector, ?_⟩
                  intro index other foundOther inScope
                  by_cases this : index = joined
                  · subst this
                    obtain rfl := Option.some.inj (found.symm.trans foundOther)
                    exact ClientPhase.quiet_of_isClosed closed
                  · exact quiet index other foundOther (by omega)
              · exact ⟨stopped, inLoop, inVector, quiet⟩
          · exact ⟨stopped, inLoop, inVector, quiet⟩
      · have all : QuietIn ⟨server, running, connections, starting, .returned⟩ fun _ => True :=
          fun index connection found _ => quiet index connection found (by omega)
        split
        · exact ⟨stopped, all⟩
        · exact ⟨stopped, all⟩
  | returned => exact stopping
  | terminated => exact stopping

theorem Stopping.step (stopping : threads.Stopping) (action : ThreadAction) :
    (threads.step action).1.Stopping := by
  by_cases isStop : action = .stop
  · subst isStop
    rcases threads.step_cases .stop with unchanged | acts
    · rw [unchanged]
      exact stopping
    · rw [acts]
      exact stopping.stepStop
  · obtain ⟨runningEq, stoppingEq⟩ := threads.flags_step isStop
    have grown := threads.length_step action
    rw [Stopping] at stopping ⊢
    rw [stoppingEq, runningEq]
    split
    · next called => simpa only [called] using stopping
    · next called => simpa only [called] using stopping
    · next joined last called =>
        rw [called] at stopping
        obtain ⟨stopped, inLoop, inVector, quiet⟩ := stopping
        exact ⟨stopped, inLoop, inVector.trans grown, quiet.step stopped action⟩
    · next called =>
        rw [called] at stopping
        exact ⟨stopping.1, stopping.2.step stopping.1 action⟩
    · next called =>
        rw [called] at stopping
        exact ⟨stopping.1, stopping.2.step stopping.1 action⟩

theorem stopping_listening (server : TcpServer) : (listening server).Stopping :=
  (rfl : true = true)

theorem stopping_run (server : TcpServer) (actions : List ThreadAction) :
    (Transition.run step (listening server) actions).1.Stopping :=
  Transition.run_of_preserved Stopping (fun _ action stopping => stopping.step action)
    (stopping_listening server) actions

theorem Stopping.quiet (stopping : threads.Stopping) (returned : threads.stopping = .returned) :
    threads.QuietIn fun _ => True := by
  rw [Stopping, returned] at stopping
  exact stopping.2

theorem stopped_step (stopped : threads.running = false) (action : ThreadAction) :
    (threads.step action).1.running = false := by
  by_cases isStop : action = .stop
  · subst isStop
    rcases threads.step_cases .stop with unchanged | acts
    · rw [unchanged]
      exact stopped
    · rw [acts]
      change threads.stepStop.running = false
      rw [stepStop]
      split
      · rfl
      · exact stopped
      · split
        · split
          · split <;> exact stopped
          · exact stopped
        · split <;> exact stopped
      · exact stopped
      · exact stopped
  · rw [(threads.flags_step isStop).1]
    exact stopped

/-- Threads between messages leave the checker and the engine alone. -/
theorem server_step_of_quiet (quiet : threads.QuietIn fun _ => True) (action : ThreadAction) :
    (threads.step action).1.server = threads.server := by
  rcases threads.server_step action with
    unchanged | ⟨index, stack, clock, writable, connection, found, acts⟩
  · exact unchanged
  · rw [acts]
    obtain ⟨unread, hungUp, phase⟩ := connection
    rcases quiet index _ found trivial with rfl | rfl
    · rfl
    · rfl

/-- Once the flag is cleared, every connection sends at most one more report and
makes at most one more call to the engine, those accepted later make none, and
from the moment `stop` has returned there is no call and the engine and the
checker stay as they are, whatever the threads and the clients do. -/
theorem stop_quiesces (server : TcpServer) (before after : List ThreadAction)
    (stopped : (Transition.run step (listening server) before).1.running = false) :
    let atStop := (Transition.run step (listening server) before).1
    let result := Transition.run step atStop after
    (∀ index,
        let calls := callsOf (eventsOf index result.2.flatten)
        (sentReports calls).length ≤ 1 ∧ calls.countP ServerCall.isEngineCall ≤ 1 ∧
          (atStop.connections.length ≤ index → calls = [])) ∧
      (atStop.stopping = .returned →
        result.1.server = atStop.server ∧
          ∀ index, callsOf (eventsOf index result.2.flatten) = []) := by
  intro atStop result
  -- a connection with nothing left to do makes no call
  have silent (index : Nat)
      (quiet : ∀ connection, atStop.connections[index]? = some connection →
        connection.phase.Quiet) :
      callsOf (eventsOf index result.2.flatten) = [] := by
    obtain ⟨absent, present⟩ := run_connection (fun threads => threads.running = false)
      (fun threads action stopped => stopped_step stopped action)
      (fun connection log => connection.phase.Quiet ∧ callsOf log = []) ⟨Or.inl rfl, rfl⟩ index
      (fun threads action connection later log events stopped before moves => by
        obtain ⟨laterQuiet, none⟩ := moves.quiet stopped before.1
        rw [callsOf_append, before.2, none]
        exact ⟨laterQuiet, rfl⟩)
      stopped (fun connection found => ⟨quiet connection found, rfl⟩) after
    cases found : result.1.connections[index]? with
    | none => rw [absent found]; rfl
    | some connection => exact (present connection found).2
  refine ⟨?_, ?_⟩
  · intro index
    dsimp only
    obtain ⟨absent, present⟩ := run_connection (fun threads => threads.running = false)
      (fun threads action stopped => stopped_step stopped action)
      (Connection.Winding 1 1) ⟨Nat.zero_le _, Nat.zero_le _⟩ index
      (fun threads action connection later log events stopped winding moves =>
        winding.moves stopped moves)
      stopped
      (fun connection found =>
        ⟨(Nat.zero_add _).le.trans (ClientPhase.reportsLeft_le _),
          (Nat.zero_add _).le.trans (ClientPhase.engineCallsLeft_le _)⟩) after
    have accepted : atStop.connections.length ≤ index →
        callsOf (eventsOf index result.2.flatten) = [] := by
      intro beyond
      apply silent index
      intro connection found
      rw [List.getElem?_eq_none beyond] at found
      simp at found
    cases found : result.1.connections[index]? with
    | none =>
        rw [absent found]
        exact ⟨Nat.zero_le _, Nat.zero_le _, fun _ => rfl⟩
    | some connection =>
        have winding := present connection found
        exact ⟨le_of_add_le_left winding.reports, le_of_add_le_left winding.engineCalls, accepted⟩
  · intro returned
    have quiet : atStop.QuietIn fun _ => True :=
      (stopping_run server before).quiet returned
    refine ⟨?_, fun index => silent index fun connection found =>
      quiet index connection found trivial⟩
    let frozen (threads : ServerThreads) : Prop :=
      threads.running = false ∧ (threads.QuietIn fun _ => True) ∧
        threads.server = atStop.server
    have kept (threads : ServerThreads) (action : ThreadAction) (holds : frozen threads) :
        frozen (threads.step action).1 :=
      ⟨stopped_step holds.1 action, holds.2.1.step holds.1 action,
        (server_step_of_quiet holds.2.1 action).trans holds.2.2⟩
    exact (Transition.run_of_preserved frozen kept ⟨stopped, quiet, rfl⟩ after).2.2

/-- Steps of one connection's thread, with a client that reads. -/
def proceeds (index count : Nat) : List ThreadAction :=
  List.replicate count (.proceed index (fun _ => 0) (fun _ => 0) true)

/-- A client has connected. -/
def connected : List ThreadAction :=
  [.start true, .start true, .start true]

/-- A client has sent a cancel, and `stop` is called while its thread is about to read
it. -/
def lateCancel : List ThreadAction :=
  connected ++ .arrive 0 (2 :: List.replicate 16 0) :: proceeds 0 1 ++ [.stop]

/-- The cancel is still carried out and answered, with one report, and when `stop` has
returned nothing more happens. -/
theorem stop_quiesces_lateCancel :
    let atStop := (Transition.run step (listening (.new {})) lateCancel).1
    let joins := proceeds 0 5 ++ List.replicate 3 .stop
    let joined := Transition.run step atStop joins
    let after := Transition.run step joined.1 (.arrive 0 [2] :: proceeds 0 3)
    (sentReports (callsOf (eventsOf 0 joined.2.flatten))).length = 1 ∧
      joined.1.stopping = .returned ∧ after.1.server = joined.1.server ∧
      callsOf (eventsOf 0 after.2.flatten) = [] := by
  intro atStop joins joined after
  have returned : joined.1.stopping = .returned := by decide +kernel
  have joinedEq : (Transition.run step (listening (.new {})) (lateCancel ++ joins)).1 =
      joined.1 := by
    rw [Transition.run_append]
  have atMost := ((stop_quiesces (.new {}) lateCancel joins (by decide +kernel)).1 0).1
  have quiesced := (stop_quiesces (.new {}) (lateCancel ++ joins)
    (.arrive 0 [2] :: proceeds 0 3) (by decide +kernel)).2
  rw [joinedEq] at quiesced
  obtain ⟨frozen, silent⟩ := quiesced returned
  exact ⟨le_antisymm atMost (by decide +kernel), returned, frozen, silent 0⟩

/-! ### Returning from `stop` -/

variable {deaf : Nat → Bool}

/-- A connection that does not close by itself: its thread waits for bytes, or it has
a report for a client that does not read. -/
def Stuck (deaf : Nat → Bool) (index : Nat) (connection : Connection) : Prop :=
  connection.Starved ∨ deaf index = true ∧ connection.owesReport = true

/-- A connection has come in too late for the loop that joins the threads. -/
def Outrun (threads : ServerThreads) : Prop :=
  threads.stopping = .terminated ∨
    ∃ joined last, threads.stopping = .joining joined last ∧ last < threads.connections.length

theorem Outrun.stepStop (outrun : threads.Outrun) : threads.stepStop.Outrun := by
  rcases outrun with terminated | ⟨joined, last, inLoop, late⟩
  · rw [ServerThreads.stepStop, terminated]
    exact Or.inl terminated
  · have still : threads.Outrun := Or.inr ⟨joined, last, inLoop, late⟩
    rw [ServerThreads.stepStop, inLoop]
    dsimp only
    split
    · split
      · split
        · exact Or.inr ⟨joined + 1, last, rfl, late⟩
        · exact still
      · exact still
    · rw [if_neg late.ne']
      exact Or.inl rfl

theorem Outrun.step (outrun : threads.Outrun) (action : ThreadAction) :
    (threads.step action).1.Outrun := by
  by_cases isStop : action = .stop
  · subst isStop
    rcases threads.step_cases .stop with unchanged | acts
    · rw [unchanged]
      exact outrun
    · rw [acts]
      exact outrun.stepStop
  · rw [Outrun, (threads.flags_step isStop).2]
    rcases outrun with terminated | ⟨joined, last, inLoop, late⟩
    · exact Or.inl terminated
    · exact Or.inr ⟨joined, last, inLoop, late.trans_le (threads.length_step action)⟩

/-- No connection is stuck. -/
def NoneStuck (deaf : Nat → Bool) (threads : ServerThreads) : Prop :=
  ∀ index connection, threads.connections[index]? = some connection →
    ¬Stuck deaf index connection

/-- A step of a thread that is not stuck brings it closer to its end. -/
theorem NoneStuck.proceed (free : threads.NoneStuck deaf) (stopped : threads.running = false)
    {index : Nat} {connection : Connection}
    (found : threads.connections[index]? = some connection)
    (alive : connection.phase.isClosed = false) :
    let later := (connection.proceed threads.running (fun _ => 0) (fun _ => 0) (!deaf index)
      threads.server).2.1
    later.phase.stepsLeft < connection.phase.stepsLeft ∧
      ∀ server, NoneStuck deaf
        { threads with
          server := server
          connections := threads.connections.set index later } := by
  rw [stopped]
  intro later
  obtain ⟨fed, heard⟩ := not_or.mp (free index connection found)
  obtain ⟨laterFed, laterHeard, closer⟩ := Connection.closer_proceed fed alive
    (fun unheard => Bool.eq_false_of_not_eq_true fun owes =>
      heard ⟨by simpa using unheard, owes⟩ : (!deaf index) = false → _)
    (fun _ => 0) (fun _ => 0) threads.server
  refine ⟨closer, ?_⟩
  intro server other otherConnection foundOther
  by_cases same : index = other
  · subst same
    have inRange : index < threads.connections.length := (List.getElem?_eq_some_iff.mp found).1
    obtain rfl : later = otherConnection :=
      Option.some.inj ((List.getElem?_set_self inRange).symm.trans foundOther)
    rintro (starved | ⟨isDeaf, owes⟩)
    · exact laterFed starved
    · exact Bool.false_ne_true ((laterHeard (by simpa using isDeaf)).symm.trans owes)
  · exact free other otherConnection ((List.getElem?_set_ne same).symm.trans foundOther)

end ServerThreads

end OrderBookExchange
