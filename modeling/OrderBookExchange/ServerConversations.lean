import OrderBookExchange.ServerThreads
import OrderBookExchange.TruncatedInput
import OrderBookExchange.WireRoundTrip

/-!
# Replies on every connection

The network cuts a client's bytes into pieces as it likes and the threads of the
connections take turns in any way.  Still every connection is a conversation of
its own: its messages are taken up one at a time and in order, each with the calls
of that message alone, and the next one is not begun before the last one is
answered.  A client may hang up inside a message.  What it has sent of that one is
then filled up with bytes from the stack, and it is handled behind all others.
-/

namespace OrderBookExchange

/-! ### Where messages begin and end -/

/-- A message is determined by the bytes it begins. -/
theorem Frame.eq_of_bytes_append {frame other : Frame} {rest otherRest : List UInt8}
    (same : frame.bytes ++ rest = other.bytes ++ otherRest) : frame = other ∧ rest = otherRest := by
  cases frame with
  | newOrder body complete =>
      cases other with
      | newOrder otherBody otherComplete =>
          have bodies := List.append_inj (List.cons.inj same).2 (complete.trans otherComplete.symm)
          obtain ⟨rfl, rfl⟩ := bodies
          exact ⟨rfl, rfl⟩
      | cancel otherBody otherComplete => exact absurd (List.cons.inj same).1 (by decide)
      | other tag unknown => exact absurd (List.cons.inj same).1.symm unknown.1
  | cancel body complete =>
      cases other with
      | newOrder otherBody otherComplete => exact absurd (List.cons.inj same).1 (by decide)
      | cancel otherBody otherComplete =>
          have bodies := List.append_inj (List.cons.inj same).2 (complete.trans otherComplete.symm)
          obtain ⟨rfl, rfl⟩ := bodies
          exact ⟨rfl, rfl⟩
      | other tag unknown => exact absurd (List.cons.inj same).1.symm unknown.2
  | other tag unknown =>
      cases other with
      | newOrder otherBody otherComplete => exact absurd (List.cons.inj same).1 unknown.1
      | cancel otherBody otherComplete => exact absurd (List.cons.inj same).1 unknown.2
      | other otherTag otherUnknown =>
          obtain ⟨rfl, rfl⟩ := List.cons.inj same
          exact ⟨rfl, rfl⟩

theorem frameBytes_append (frames later : List Frame) :
    frameBytes (frames ++ later) = frameBytes frames ++ frameBytes later :=
  List.flatMap_append

theorem frameBytes_singleton (frame : Frame) : frameBytes [frame] = frame.bytes :=
  List.flatMap_singleton ..

/-- Bytes that begin a message and do not complete it, or none at all. -/
inductive Unfinished : List UInt8 → Prop
  | nothing : Unfinished []
  | inside {tag : UInt8} {size : Nat} (kind : HasBody tag size) {part : List UInt8}
      (short : part.length < size) : Unfinished (tag :: part)

theorem Unfinished.ne_append {tail : List UInt8} (unfinished : Unfinished tail) (frame : Frame)
    (rest : List UInt8) : tail ≠ frame.bytes ++ rest := by
  intro same
  cases unfinished with
  | nothing => cases frame <;> simp [Frame.bytes] at same
  | @inside tag size kind part short =>
      cases frame with
      | newOrder body complete =>
          obtain ⟨rfl, partEq⟩ := List.cons.inj same
          have length : part.length = body.length + rest.length :=
            (congrArg List.length partEq).trans List.length_append
          cases kind
          omega
      | cancel body complete =>
          obtain ⟨rfl, partEq⟩ := List.cons.inj same
          have length : part.length = body.length + rest.length :=
            (congrArg List.length partEq).trans List.length_append
          cases kind
          omega
      | other tag unknown =>
          obtain ⟨rfl, -⟩ := List.cons.inj same
          cases kind
          · exact unknown.1 rfl
          · exact unknown.2 rfl

/-- Messages at the beginning of a stream are its first ones. -/
theorem frames_of_frameBytes_append {done frames : List Frame} {rest tail : List UInt8}
    (unfinished : Unfinished tail) (same : frameBytes done ++ rest = frameBytes frames ++ tail) :
    ∃ later, frames = done ++ later ∧ rest = frameBytes later ++ tail := by
  induction done generalizing frames with
  | nil => exact ⟨frames, rfl, same⟩
  | cons frame done induction =>
      have bytesEq : frameBytes (frame :: done) ++ rest =
          frame.bytes ++ (frameBytes done ++ rest) := by
        simp [frameBytes]
      rw [bytesEq] at same
      cases frames with
      | nil => exact absurd same.symm (unfinished.ne_append frame _)
      | cons first frames =>
          have headsEq : frame.bytes ++ (frameBytes done ++ rest) =
              first.bytes ++ (frameBytes frames ++ tail) := by
            rw [same]
            simp [frameBytes]
          obtain ⟨rfl, restEq⟩ := Frame.eq_of_bytes_append headsEq
          obtain ⟨later, rfl, tailEq⟩ := induction restEq
          exact ⟨later, rfl, tailEq⟩

theorem frames_of_unfinished {done frames : List Frame} {rest tail : List UInt8}
    (restUnfinished : Unfinished rest) (unfinished : Unfinished tail)
    (same : frameBytes done ++ rest = frameBytes frames ++ tail) : frames = done ∧ rest = tail := by
  obtain ⟨later, rfl, restEq⟩ := frames_of_frameBytes_append unfinished same
  cases later with
  | nil => exact ⟨List.append_nil done, restEq⟩
  | cons frame later =>
      refine absurd ?_ (restUnfinished.ne_append frame (frameBytes later ++ tail))
      rw [restEq]
      simp [frameBytes]

/-- The call to the checker, if there is one. -/
def gateCalls (gated : Bool) (msg : OrderMessage) : List ServerCall :=
  if gated then [.check (getSymbol msg.symbol) msg.side msg.orderType msg.price msg.quantity]
  else []

/-- The calls that one message leads to, from the first to the report. -/
inductive Handled (gated : Bool) : Frame → List ServerCall → Prop
  | refused {body : List UInt8} {complete : body.length = OrderMessage.bodySize}
      (checked : gated = true) :
      Handled gated (.newOrder body complete)
        (gateCalls gated (.ofBody body) ++ [.send (TcpServer.orderReport (.ofBody body) 0)])
  | submitted {body : List UInt8} {complete : body.length = OrderMessage.bodySize}
      (orderId : Nat) :
      Handled gated (.newOrder body complete)
        (gateCalls gated (.ofBody body) ++ TcpServer.submitCalls (.ofBody body) orderId)
  | cancelled {body : List UInt8} {complete : body.length = CancelMessage.bodySize}
      (found : Bool) :
      Handled gated (.cancel body complete)
        [.cancelOrder (getSymbol (CancelMessage.ofBody body).symbol)
            (CancelMessage.ofBody body).orderId,
          .send (TcpServer.cancelReport (.ofBody body) found)]
  | skipped {tag : UInt8} {unknown : tag ≠ MessageType.newOrder ∧ tag ≠ MessageType.cancel} :
      Handled gated (.other tag unknown) []

/-- A thread at work on a message that it has read, and the calls it has made for it. -/
inductive Working (gated : Bool) : ClientPhase → Frame → List ServerCall → Prop
  | checking {body : List UInt8} {complete : body.length = OrderMessage.bodySize} :
      Working gated (.checking (.ofBody body)) (.newOrder body complete) []
  | submitting {body : List UInt8} {complete : body.length = OrderMessage.bodySize} :
      Working gated (.submitting (.ofBody body)) (.newOrder body complete)
        (gateCalls gated (.ofBody body))
  | cancelling {body : List UInt8} {complete : body.length = CancelMessage.bodySize} :
      Working gated (.cancelling (.ofBody body)) (.cancel body complete) []
  | reporting {frame : Frame} {made : List ServerCall} {report : ExecutionReport}
      (handled : Handled gated frame (made ++ [.send report])) :
      Working gated (.reporting report) frame made

/-- What a thread has made so far is the beginning of what its message leads to. -/
theorem Working.exists_more {gated : Bool} {phase : ClientPhase} {frame : Frame}
    {made : List ServerCall} (working : Working gated phase frame made) :
    ∃ more, more ≠ [] ∧ Handled gated frame (made ++ more) := by
  cases working with
  | @checking body complete =>
      refine ⟨_, ?_, .submitted 0⟩
      simp [TcpServer.submitCalls]
  | submitting => exact ⟨_, by simp [TcpServer.submitCalls], .submitted 0⟩
  | cancelling => exact ⟨_, by simp, .cancelled false⟩
  | reporting handled => exact ⟨_, by simp, handled⟩

theorem Working.proceed {gated : Bool} {phase : ClientPhase} {frame : Frame}
    {made : List ServerCall} (working : Working gated phase frame made) (unread : List UInt8)
    (hungUp running : Bool)
    (stack : Nat → UInt8) (clock : Clock) (writable : Bool) {server : TcpServer}
    (gate : server.risk.isSome = gated) :
    ∃ (later : ClientPhase) (calls : List ServerCall),
      (Connection.proceed running stack clock writable server ⟨unread, hungUp, phase⟩).2 =
          (⟨unread, hungUp, later⟩, calls) ∧
        (Working gated later frame (made ++ calls) ∨
          later = .testing ∧ Handled gated frame (made ++ calls)) := by
  cases working with
  | @checking body complete =>
      have gateEq : server.checkCalls (.ofBody body) = gateCalls gated (.ofBody body) := by
        rw [TcpServer.checkCalls, gate, gateCalls]
      by_cases refused : (server.checkOrder (.ofBody body)).2 ≠ .none
      · have checked : gated = true := gate ▸ TcpServer.isSome_of_rejected refused
        simp only [Connection.proceed, if_pos refused, gateEq]
        exact ⟨_, _, rfl, Or.inl (.reporting (.refused checked))⟩
      · simp only [Connection.proceed, if_neg refused, gateEq]
        exact ⟨_, _, rfl, Or.inl .submitting⟩
  | @submitting body complete =>
      refine ⟨_, _, rfl, Or.inl (.reporting ?_)⟩
      rw [List.append_assoc]
      exact .submitted _
  | cancelling => exact ⟨_, _, rfl, Or.inl (.reporting (.cancelled _))⟩
  | @reporting _ _ report answered =>
      cases writable with
      | true => exact ⟨_, _, rfl, Or.inr ⟨rfl, answered⟩⟩
      | false =>
          refine ⟨_, _, rfl, Or.inl ?_⟩
          rw [List.append_nil]
          exact .reporting answered

/-! ### The state of a conversation -/

/-- The messages of a connection up to now: those that have been handled, with
their calls, and the one its thread is at.  The last one may be filled up with bytes
that the client has not sent. -/
inductive Talking (gated : Bool) : Connection → List UInt8 → List ServerCall → Prop
  | between {done : List Frame} {answers : List (List ServerCall)} {unread : List UInt8}
      {hungUp : Bool} {phase : ClientPhase} (handled : List.Forall₂ (Handled gated) done answers)
      (idle : phase = .testing ∨ phase = .readingTag) :
      Talking gated ⟨unread, hungUp, phase⟩ (frameBytes done ++ unread) answers.flatten
  | reading {done : List Frame} {answers : List (List ServerCall)} {unread : List UInt8}
      {hungUp : Bool} {tag : UInt8} {size : Nat}
      (handled : List.Forall₂ (Handled gated) done answers) (kind : HasBody tag size) :
      Talking gated ⟨unread, hungUp, .ofTag tag⟩ (frameBytes done ++ tag :: unread)
        answers.flatten
  | working {done : List Frame} {answers : List (List ServerCall)} {unread : List UInt8}
      {hungUp : Bool} {phase : ClientPhase} {frame : Frame} {made : List ServerCall}
      (handled : List.Forall₂ (Handled gated) done answers)
      (atWork : Working gated phase frame made) :
      Talking gated ⟨unread, hungUp, phase⟩ (frameBytes (done ++ [frame]) ++ unread)
        (answers.flatten ++ made)
  | finished {done : List Frame} {answers : List (List ServerCall)} {unread tail : List UInt8}
      {hungUp : Bool} (handled : List.Forall₂ (Handled gated) done answers) :
      Talking gated ⟨unread, hungUp, .closed⟩ (frameBytes done ++ tail) answers.flatten
  | cutWorking {done : List Frame} {answers : List (List ServerCall)} {tag : UInt8}
      {part : List UInt8} {phase : ClientPhase} {frame : Frame} {made : List ServerCall}
      (handled : List.Forall₂ (Handled gated) done answers) (unfinished : Unfinished (tag :: part))
      (filledUp : tag :: part <+: frame.bytes) (atWork : Working gated phase frame made) :
      Talking gated ⟨[], true, phase⟩ (frameBytes done ++ tag :: part) (answers.flatten ++ made)
  | cutHandled {done : List Frame} {answers : List (List ServerCall)} {tag : UInt8}
      {part : List UInt8} {phase : ClientPhase} {frame : Frame} {made : List ServerCall}
      (handled : List.Forall₂ (Handled gated) done answers) (unfinished : Unfinished (tag :: part))
      (filledUp : tag :: part <+: frame.bytes) (answered : Handled gated frame made)
      (idle : phase = .testing ∨ phase = .readingTag ∨ phase = .closed) :
      Talking gated ⟨[], true, phase⟩ (frameBytes done ++ tag :: part) (answers.flatten ++ made)

namespace Talking

open Connection (Moves)

variable {gated : Bool} {connection later : Connection} {arrived : List UInt8}
  {calls : List ServerCall}

theorem readTag {done : List Frame} {answers : List (List ServerCall)} {unread : List UInt8}
    {hungUp : Bool} (handled : List.Forall₂ (Handled gated) done answers) :
    Talking gated
      ((⟨unread, hungUp, .readingTag⟩ : Connection).read 1 fun received =>
        .ofTag (received.headD 0))
      (frameBytes done ++ unread) answers.flatten := by
  cases unread with
  | nil =>
      cases hungUp with
      | false =>
          rw [Connection.read_of_short 1 _ (by simp) rfl]
          exact .between handled (Or.inr rfl)
      | true =>
          rw [Connection.read_of_fed 1 _ (by simp)]
          exact .finished handled
  | cons tag unread =>
      rw [Connection.read_of_fed 1 _ (by simp)]
      change Talking gated ⟨unread, hungUp, .ofTag tag⟩ _ _
      by_cases isOrder : tag = MessageType.newOrder
      · subst isOrder
        exact .reading handled .newOrder
      by_cases isCancel : tag = MessageType.cancel
      · subst isCancel
        exact .reading handled .cancel
      · have skipped : List.Forall₂ (Handled gated) (done ++ [.other tag ⟨isOrder, isCancel⟩])
            (answers ++ [[]]) :=
          List.rel_append handled (.cons .skipped .nil)
        have bytesEq : frameBytes done ++ tag :: unread =
            frameBytes (done ++ [.other tag ⟨isOrder, isCancel⟩]) ++ unread := by
          rw [frameBytes_append, frameBytes_singleton, Frame.bytes, List.append_assoc,
            List.singleton_append]
        have flattenEq : answers.flatten = (answers ++ [[]]).flatten := by simp
        rw [ClientPhase.ofTag, if_neg isOrder, if_neg isCancel, bytesEq, flattenEq]
        exact .between skipped (Or.inl rfl)

theorem overlay_prefix (stack : Nat → UInt8) {size : Nat} {received : List UInt8}
    (fits : received.length ≤ size) : received <+: TcpServer.overlay stack size received := by
  rw [List.prefix_iff_eq_take]
  apply List.ext_getElem
  · simp [TcpServer.overlay, fits]
  · intro offset inReceived inOverlay
    simp [TcpServer.overlay, inReceived]

/-- A read of a body returns all of it, unless the client has hung up before.  Then
it is filled up. -/
theorem readBody {done : List Frame} {answers : List (List ServerCall)} {unread : List UInt8}
    {hungUp : Bool} {tag : UInt8} {size : Nat}
    (handled : List.Forall₂ (Handled gated) done answers) (kind : HasBody tag size)
    (stack : Nat → UInt8) (next : List UInt8 → ClientPhase)
    (atWork : ∀ received : List UInt8, ∃ frame : Frame,
      frame.bytes = tag :: TcpServer.overlay stack size received ∧
        Working gated (next received) frame []) :
    Talking gated ((⟨unread, hungUp, .ofTag tag⟩ : Connection).read size next)
      (frameBytes done ++ tag :: unread) answers.flatten := by
  by_cases blocked : unread.length < size ∧ hungUp = false
  · rw [Connection.read_of_short size _ blocked.1 blocked.2]
    exact .reading handled kind
  rw [Connection.read_of_fed size _ blocked]
  dsimp only
  split
  · exact .finished handled
  · obtain ⟨frame, bytesEq, working⟩ := atWork (unread.take size)
    rw [← List.append_nil answers.flatten]
    by_cases complete : size ≤ unread.length
    · have arrivedEq : frameBytes done ++ tag :: unread =
          frameBytes (done ++ [frame]) ++ unread.drop size := by
        rw [frameBytes_append, frameBytes_singleton, bytesEq,
          TcpServer.overlay_complete stack (List.length_take_of_le complete), List.append_assoc,
          List.cons_append, List.take_append_drop]
      rw [arrivedEq]
      exact .working handled working
    · have short : unread.length < size := by omega
      obtain rfl : hungUp = true := by
        by_contra connected
        exact blocked ⟨short, by simpa using connected⟩
      rw [List.drop_of_length_le short.le]
      refine .cutWorking handled (.inside kind short) ?_ working
      rw [bytesEq, List.take_of_length_le short.le, List.prefix_cons_inj]
      exact overlay_prefix stack short.le

theorem proceed (talking : Talking gated connection arrived calls) (running : Bool)
    (stack : Nat → UInt8) (clock : Clock) (writable : Bool) {server : TcpServer}
    (gate : server.risk.isSome = gated) :
    Talking gated (connection.proceed running stack clock writable server).2.1 arrived
      (calls ++ (connection.proceed running stack clock writable server).2.2) := by
  cases talking with
  | @between done answers unread hungUp phase handled idle =>
      rcases idle with rfl | rfl
      · change Talking gated ⟨unread, hungUp, if running then .readingTag else .closed⟩ _
          (answers.flatten ++ [])
        rw [List.append_nil]
        split
        · exact .between handled (Or.inr rfl)
        · exact .finished handled
      · change Talking gated _ _ (answers.flatten ++ [])
        rw [List.append_nil]
        exact readTag handled
  | @reading done answers unread hungUp tag size handled kind =>
      cases kind with
      | newOrder =>
          change Talking gated _ _ (answers.flatten ++ [])
          rw [List.append_nil]
          refine readBody handled .newOrder stack _ ?_
          intro received
          exact ⟨.newOrder _ (by simp [TcpServer.overlay]), rfl, .checking⟩
      | cancel =>
          change Talking gated _ _ (answers.flatten ++ [])
          rw [List.append_nil]
          refine readBody handled .cancel stack _ ?_
          intro received
          exact ⟨.cancel _ (by simp [TcpServer.overlay]), rfl, .cancelling⟩
  | @working done answers unread hungUp phase frame made handled atWork =>
      obtain ⟨later, calls, proceeds, next⟩ :=
        atWork.proceed unread hungUp running stack clock writable gate
      rw [proceeds, List.append_assoc]
      rcases next with atWork | ⟨rfl, answered⟩
      · exact .working handled atWork
      · have handledNow : List.Forall₂ (Handled gated) (done ++ [frame])
            (answers ++ [made ++ calls]) :=
          List.rel_append handled (.cons answered .nil)
        have flattenEq : answers.flatten ++ (made ++ calls) =
            (answers ++ [made ++ calls]).flatten := by simp
        rw [flattenEq]
        exact .between handledNow (Or.inl rfl)
  | @finished done answers unread tail hungUp handled =>
      change Talking gated ⟨unread, hungUp, .closed⟩ _ (answers.flatten ++ [])
      rw [List.append_nil]
      exact .finished handled
  | @cutWorking done answers tag part phase frame made handled unfinished filledUp atWork =>
      obtain ⟨later, calls, proceeds, next⟩ :=
        atWork.proceed [] true running stack clock writable gate
      rw [proceeds, List.append_assoc]
      rcases next with atWork | ⟨rfl, answered⟩
      · exact .cutWorking handled unfinished filledUp atWork
      · exact .cutHandled handled unfinished filledUp answered (Or.inl rfl)
  | @cutHandled done answers tag part phase frame made handled unfinished filledUp answered idle =>
      have goesOn {later : ClientPhase}
          (idleNow : later = .testing ∨ later = .readingTag ∨ later = .closed) :
          Talking gated ⟨[], true, later⟩ (frameBytes done ++ tag :: part)
            (answers.flatten ++ made ++ []) := by
        rw [List.append_nil]
        exact .cutHandled handled unfinished filledUp answered idleNow
      rcases idle with rfl | rfl | rfl
      · cases running with
        | true => exact goesOn (Or.inr (Or.inl rfl))
        | false => exact goesOn (Or.inr (Or.inr rfl))
      · exact goesOn (Or.inr (Or.inr rfl))
      · exact goesOn (Or.inr (Or.inr rfl))

theorem arrives (talking : Talking gated connection arrived calls)
    (connected : connection.hungUp = false) (alive : connection.phase.isClosed = false)
    (bytes : List UInt8) :
    Talking gated { connection with unread := connection.unread ++ bytes } (arrived ++ bytes)
      calls := by
  cases talking with
  | between handled idle =>
      rw [List.append_assoc]
      exact .between handled idle
  | reading handled kind =>
      rw [List.append_assoc, List.cons_append]
      exact .reading handled kind
  | working handled atWork =>
      rw [List.append_assoc]
      exact .working handled atWork
  | finished handled => simp [ClientPhase.isClosed] at alive
  | cutWorking => simp at connected
  | cutHandled => simp at connected

theorem hangsUp (talking : Talking gated connection arrived calls) :
    Talking gated { connection with hungUp := true } arrived calls := by
  cases talking with
  | between handled idle => exact .between handled idle
  | reading handled kind => exact .reading handled kind
  | working handled atWork => exact .working handled atWork
  | finished handled => exact .finished handled
  | cutWorking handled unfinished filledUp atWork =>
      exact .cutWorking handled unfinished filledUp atWork
  | cutHandled handled unfinished filledUp answered idle =>
      exact .cutHandled handled unfinished filledUp answered idle

theorem moves {threads : ServerThreads} {action : ThreadAction} {index : Nat}
    {log events : List ClientEvent}
    (talking : Talking gated connection (arrivedBytes log) (callsOf log))
    (gate : threads.server.risk.isSome = gated)
    (moves : Moves threads action index connection later events) :
    Talking gated later (arrivedBytes (log ++ events)) (callsOf (log ++ events)) := by
  rw [arrivedBytes_append, callsOf_append]
  cases moves with
  | stays => simpa [arrivedBytes, callsOf] using talking
  | arrives bytes fromClient connected alive =>
      simpa [arrivedBytes, callsOf] using talking.arrives connected alive bytes
  | hangsUp fromClient => simpa [arrivedBytes, callsOf] using talking.hangsUp
  | proceeds stack clock writable taken =>
      rw [arrivedBytes_called, callsOf_called, List.append_nil]
      exact talking.proceed threads.running stack clock writable gate

end Talking

/-- Calls made for the messages of a stream: the first messages are handled
completely, and some calls have been made for the next one.  That one may be the
message at the end of the stream, filled up, if the client has hung up inside it. -/
structure InOrder (gated hungUp : Bool) (frames : List Frame) (tail : List UInt8)
    (answers : List (List ServerCall)) (made : List ServerCall) : Prop where
  handled : List.Forall₂ (Handled gated) (frames.take answers.length) answers
  begun : made = [] ∨
    (∃ frame more, frames[answers.length]? = some frame ∧ more ≠ [] ∧
      Handled gated frame (made ++ more)) ∨
    hungUp = true ∧ answers.length = frames.length ∧ tail ≠ [] ∧
      ∃ frame more, tail <+: frame.bytes ∧ Handled gated frame (made ++ more)

namespace Talking

variable {gated : Bool} {connection : Connection} {arrived : List UInt8} {calls : List ServerCall}

theorem inOrder (talking : Talking gated connection arrived calls) {frames : List Frame}
    {tail : List UInt8} (unfinished : Unfinished tail)
    (arrivedEq : arrived = frameBytes frames ++ tail) :
    ∃ (answers : List (List ServerCall)) (made : List ServerCall),
      calls = answers.flatten ++ made ∧ InOrder gated connection.hungUp frames tail answers made ∧
        (connection.phase = .readingTag → connection.unread = [] →
          answers.length = frames.length ∧ (tail = [] → made = [])) := by
  -- the messages handled so far are the first ones
  have first {done later : List Frame} {answers : List (List ServerCall)}
      (handled : List.Forall₂ (Handled gated) done answers) :
      List.Forall₂ (Handled gated) ((done ++ later).take answers.length) answers := by
    rw [← handled.length_eq, List.take_left']
    · exact handled
    · rfl
  cases talking with
  | @between done answers unread hungUp phase handled idle =>
      obtain ⟨later, rfl, unreadEq⟩ := frames_of_frameBytes_append unfinished arrivedEq
      refine ⟨answers, [], (List.append_nil _).symm, ⟨first handled, Or.inl rfl⟩, ?_⟩
      rintro - (rfl : unread = [])
      refine ⟨?_, fun _ => rfl⟩
      cases later with
      | nil => rw [List.append_nil, handled.length_eq]
      | cons frame later => cases frame <;> simp [frameBytes, Frame.bytes] at unreadEq
  | @reading done answers unread hungUp tag size handled kind =>
      obtain ⟨later, rfl, -⟩ := frames_of_frameBytes_append unfinished arrivedEq
      refine ⟨answers, [], (List.append_nil _).symm, ⟨first handled, Or.inl rfl⟩, ?_⟩
      intro atTag
      cases kind <;> cases atTag
  | @working done answers unread hungUp phase frame made handled atWork =>
      obtain ⟨later, rfl, -⟩ := frames_of_frameBytes_append unfinished arrivedEq
      obtain ⟨more, nonempty, answered⟩ := atWork.exists_more
      rw [List.append_assoc]
      refine ⟨answers, made, rfl,
        ⟨first handled, Or.inr (Or.inl ⟨frame, more, ?_, nonempty, answered⟩)⟩, ?_⟩
      · rw [← handled.length_eq, List.getElem?_append_right le_rfl]
        simp
      · rintro (rfl : phase = .readingTag)
        cases atWork
  | @finished done answers unread tail hungUp handled =>
      obtain ⟨later, rfl, -⟩ := frames_of_frameBytes_append unfinished arrivedEq
      refine ⟨answers, [], (List.append_nil _).symm, ⟨first handled, Or.inl rfl⟩, ?_⟩
      intro atTag
      cases atTag
  | @cutWorking done answers tag part phase frame made handled cut filledUp atWork =>
      obtain ⟨rfl, rfl⟩ := frames_of_unfinished cut unfinished arrivedEq
      obtain ⟨more, -, answered⟩ := atWork.exists_more
      have all : answers.length = frames.length := handled.length_eq.symm
      refine ⟨answers, made, rfl, ⟨?_, Or.inr (Or.inr ⟨rfl, all, by simp, frame, more, filledUp,
        answered⟩)⟩, ?_⟩
      · rw [all, List.take_length]
        exact handled
      · rintro (rfl : phase = .readingTag)
        cases atWork
  | @cutHandled done answers tag part phase frame made handled cut filledUp answered idle =>
      obtain ⟨rfl, rfl⟩ := frames_of_unfinished cut unfinished arrivedEq
      have all : answers.length = frames.length := handled.length_eq.symm
      refine ⟨answers, made, rfl, ⟨?_, Or.inr (Or.inr ⟨rfl, all, by simp, frame, [], filledUp,
        by rwa [List.append_nil]⟩)⟩, ?_⟩
      · rw [all, List.take_length]
        exact handled
      · exact fun _ _ => ⟨all, by simp⟩

end Talking

namespace ServerThreads

/-- A server keeps its checker, or goes on without one. -/
theorem isSome_risk_step (threads : ServerThreads) (action : ThreadAction) :
    (threads.step action).1.server.risk.isSome = threads.server.risk.isSome := by
  rcases threads.server_step action with
    unchanged | ⟨index, stack, clock, writable, connection, -, acts⟩
  · rw [unchanged]
  · rw [acts, Connection.proceed]
    split
    · rfl
    · rfl
    · rfl
    · rfl
    · next msg _ =>
        dsimp only
        rw [← Option.isSome_map, TcpServer.killSwitch_checkOrder, Option.isSome_map]
    · next msg _ => exact Option.isSome_map
    · rfl
    · split <;> rfl
    · rfl

end ServerThreads

end OrderBookExchange
