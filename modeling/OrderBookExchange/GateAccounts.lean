import OrderBookExchange.EngineTally
import OrderBookExchange.ListCounts
import OrderBookExchange.RestingOrders
import OrderBookExchange.ServerThreads
import OrderBookExchange.WireRoundTrip

/-!
# The counters of the gate and the engine

The checker counts what passes and what it rejects, the engine counts what reaches
it, and the clients see reports.  Between the check of an order and its submission,
and between a call and its report, other threads run.  In every interleaving the
three tell the same story, up to the orders and reports that are under way.

A call to the checker is one step here.
-/

namespace OrderBookExchange

/-- The reasons under which rejections are counted. -/
def rejectReasons : List RejectReason :=
  [.killSwitchActive, .invalidQuantity, .invalidPrice, .maxOrderQuantityExceeded,
    .maxOrderNotionalExceeded, .maxPositionExceeded, .maxNotionalExposureExceeded]

namespace RiskStats

/-- Every check is a pass or a rejection, and every rejection has its reason. -/
structure Balanced (stats : RiskStats) : Prop where
  checks : stats.totalChecks = stats.totalPasses + stats.totalRejections
  reasons : stats.totalRejections = (rejectReasons.map stats.byReason).sum

variable {stats : RiskStats}

theorem Balanced.recordPass (balanced : stats.Balanced) : stats.recordPass.Balanced := by
  obtain ⟨checks, reasons⟩ := balanced
  constructor
  · change stats.totalChecks + 1 = stats.totalPasses + 1 + stats.totalRejections
    omega
  · exact reasons

theorem Balanced.recordReject (balanced : stats.Balanced) {reason : RejectReason}
    (rejected : reason ≠ .none) : (stats.recordReject reason).Balanced := by
  obtain ⟨checks, reasons⟩ := balanced
  constructor
  · change stats.totalChecks + 1 = stats.totalPasses + (stats.totalRejections + 1)
    omega
  · change stats.totalRejections + 1 =
      (rejectReasons.map (Function.update stats.byReason reason (stats.byReason reason + 1))).sum
    rw [reasons]
    cases reason with
    | none => exact absurd rfl rejected
    | _ =>
        simp only [rejectReasons, List.map_cons, List.map_nil, List.sum_cons, List.sum_nil,
          Function.update_apply, reduceCtorEq, if_true, if_false]
        omega

end RiskStats

namespace ClientPhase

/-- Whether the thread holds an order that has passed the check. -/
def waits : ClientPhase → Nat
  | .submitting _ => 1
  | _ => 0

/-- Whether the thread is about to send a report with the given status. -/
def pending (status : OrderStatus) : ClientPhase → Nat
  | .reporting report => if report.status = status then 1 else 0
  | _ => 0

/-- Nothing of an order is under way. -/
structure Idle (phase : ClientPhase) : Prop where
  waits : phase.waits = 0
  pending : ∀ status, phase.pending status = 0

theorem idle_ofTag (tag : UInt8) : (ofTag tag).Idle := by
  rw [ofTag]
  split
  · exact ⟨rfl, fun _ => rfl⟩
  · split <;> exact ⟨rfl, fun _ => rfl⟩

end ClientPhase

theorem Connection.idle_read {connection : Connection} (idle : connection.phase.Idle) (size : Nat)
    {next : List UInt8 → ClientPhase} (nextIdle : ∀ received, (next received).Idle) :
    (connection.read size next).phase.Idle := by
  by_cases short : connection.unread.length < size ∧ connection.hungUp = false
  · rw [read_of_short size next short.1 short.2]
    exact idle
  · rw [read_of_fed size next short]
    dsimp only
    split
    · exact ⟨rfl, fun _ => rfl⟩
    · exact nextIdle _

/-- The reports with a status that have been sent. -/
def sentWith (status : OrderStatus) (calls : List ServerCall) : Nat :=
  (sentReports calls).countP fun report => report.status = status

theorem sentWith_append (status : OrderStatus) (calls later : List ServerCall) :
    sentWith status (calls ++ later) = sentWith status calls + sentWith status later := by
  rw [sentWith, sentReports_append, List.countP_append]
  rfl

namespace ServerThreads

/-- The orders between their check and their submission. -/
def waitingOrders (threads : ServerThreads) : Nat :=
  (threads.connections.map fun connection => connection.phase.waits).sum

/-- The reports between the call they report on and the socket. -/
def pendingReports (threads : ServerThreads) (status : OrderStatus) : Nat :=
  (threads.connections.map fun connection => connection.phase.pending status).sum

/-- The calls of all connections. -/
def allCalls (log : List (Nat × ClientEvent)) : List ServerCall :=
  callsOf (log.map Prod.snd)

end ServerThreads

/-! ### What one step adds -/

namespace TcpServer

variable {server : TcpServer} {checker : RiskChecker}

theorem stats_foldl_tradeCallback (checker : RiskChecker) (trades : List Trade) :
    (trades.foldl tradeCallback checker).stats = checker.stats := by
  induction trades generalizing checker with
  | nil => rfl
  | cons trade trades induction => exact induction (tradeCallback checker trade)

theorem not_rejects_of_passed {msg : OrderMessage} (gate : server.risk = some checker)
    (passed : (server.checkOrder msg).2 = .none) :
    rejects msg.orderType msg.price msg.quantity = false := by
  rw [checkOrder_of_some gate] at passed
  have passes := RiskChecker.passes_of_none passed
  have nonzero : (msg.quantity == 0) = false := by simpa using passes.nonzero
  rw [rejects, nonzero, Bool.false_or]
  by_cases limit : msg.orderType = .limit
  · rw [passes.priceValid limit, Bool.and_false]
  · have other : (msg.orderType == .limit) = false := by simpa using limit
    rw [other, Bool.false_and]

end TcpServer

namespace MatchingEngine

variable {engine : MatchingEngine}

theorem submitOrder_id_pos (numbered : engine.Numbered) (clock : Clock) (symbol : Symbol)
    (side : Side) {type : OrderType} {price : Price} {quantity : Quantity}
    (accepted : rejects type price quantity = false) :
    0 < (engine.submitOrder clock symbol side type price quantity).2.1 := by
  rw [submitOrder_result engine clock symbol side (by simp [accepted]), OrderBook.acceptOrder_eq]
  exact Nat.pos_of_ne_zero (numbered.counters symbol)

end MatchingEngine

namespace ServerThreads

/-- The counters agree, up to what is under way. -/
structure Accounted (threads : ServerThreads) (log : List (Nat × ClientEvent))
    (checker : RiskChecker) : Prop where
  gate : threads.server.risk = some checker
  balanced : checker.stats.Balanced
  passes : checker.stats.totalPasses =
    threads.server.engine.stats.totalOrders + threads.waitingOrders
  rejects : threads.server.engine.stats.totalRejects = 0
  accepted : threads.server.engine.stats.totalOrders =
    sentWith .accepted (allCalls log) + threads.pendingReports .accepted
  cancelled : threads.server.engine.stats.totalCancels =
    sentWith .cancelled (allCalls log) + threads.pendingReports .cancelled
  numbered : threads.server.engine.Numbered
  held : ∀ connection ∈ threads.connections, ∀ msg, connection.phase = .submitting msg →
    OrderBookExchange.rejects msg.orderType msg.price msg.quantity = false

variable {threads : ServerThreads} {log : List (Nat × ClientEvent)} {checker : RiskChecker}

theorem allCalls_append (log later : List (Nat × ClientEvent)) :
    allCalls (log ++ later) = allCalls log ++ allCalls later := by
  rw [allCalls, List.map_append, callsOf_append]
  rfl

theorem allCalls_called (index : Nat) (calls : List ServerCall) :
    allCalls (calls.map fun call => (index, .called call)) = calls := by
  rw [allCalls, List.map_map]
  exact callsOf_called calls

/-- A thread's step, from what it adds to each counter. -/
theorem Accounted.update (accounted : Accounted threads log checker) {index : Nat}
    {connection later : Connection} (found : threads.connections[index]? = some connection)
    {server : TcpServer} {calls : List ServerCall} {laterChecker : RiskChecker}
    (gate : server.risk = some laterChecker) (balanced : laterChecker.stats.Balanced)
    (passes : laterChecker.stats.totalPasses + threads.server.engine.stats.totalOrders +
        connection.phase.waits =
      checker.stats.totalPasses + server.engine.stats.totalOrders + later.phase.waits)
    (rejects : server.engine.stats.totalRejects = threads.server.engine.stats.totalRejects)
    (accepted : server.engine.stats.totalOrders + connection.phase.pending .accepted =
      threads.server.engine.stats.totalOrders + sentWith .accepted calls +
        later.phase.pending .accepted)
    (cancelled : server.engine.stats.totalCancels + connection.phase.pending .cancelled =
      threads.server.engine.stats.totalCancels + sentWith .cancelled calls +
        later.phase.pending .cancelled)
    (numbered : server.engine.Numbered)
    (held : ∀ msg, later.phase = .submitting msg →
      OrderBookExchange.rejects msg.orderType msg.price msg.quantity = false) :
    Accounted { threads with server, connections := threads.connections.set index later }
      (log ++ calls.map fun call => (index, .called call)) laterChecker := by
  have waitingSum := ListCounts.sum_map_set
    (fun connection : Connection => connection.phase.waits) found later
  have pendingSum (status : OrderStatus) := ListCounts.sum_map_set
    (fun connection : Connection => connection.phase.pending status) found later
  refine ⟨gate, balanced, ?_, ?_, ?_, ?_, numbered, ?_⟩
  · have before := accounted.passes
    rw [waitingOrders] at before ⊢
    dsimp only at waitingSum ⊢
    omega
  · dsimp only
    rw [rejects]
    exact accounted.rejects
  · have before := accounted.accepted
    have sums := pendingSum .accepted
    rw [allCalls_append, allCalls_called, sentWith_append]
    rw [pendingReports] at before ⊢
    dsimp only at sums ⊢
    omega
  · have before := accounted.cancelled
    have sums := pendingSum .cancelled
    rw [allCalls_append, allCalls_called, sentWith_append]
    rw [pendingReports] at before ⊢
    dsimp only at sums ⊢
    omega
  · intro other member
    rcases List.mem_or_eq_of_mem_set member with old | rfl
    · exact accounted.held other old
    · exact held

theorem Accounted.idle (accounted : Accounted threads log checker) {index : Nat}
    {connection later : Connection} (found : threads.connections[index]? = some connection)
    (idle : connection.phase.Idle) (laterIdle : later.phase.Idle) :
    Accounted
      { threads with
        server := threads.server
        connections := threads.connections.set index later }
      (log ++ List.map (fun call => (index, .called call)) []) checker := by
  apply accounted.update found accounted.gate accounted.balanced
  · rw [idle.waits, laterIdle.waits]
  · rfl
  · rw [idle.pending, laterIdle.pending]
    rfl
  · rw [idle.pending, laterIdle.pending]
    rfl
  · exact accounted.numbered
  · intro msg isSubmitting
    have waits := laterIdle.waits
    rw [isSubmitting] at waits
    simp [ClientPhase.waits] at waits

theorem sentWith_checkCalls (status : OrderStatus) (server : TcpServer) (msg : OrderMessage) :
    sentWith status (server.checkCalls msg) = 0 := by
  rw [TcpServer.checkCalls]
  split <;> rfl

theorem Accounted.checking (accounted : Accounted threads log checker) {index : Nat}
    {connection : Connection} {msg : OrderMessage}
    (found : threads.connections[index]? = some connection)
    (atCheck : connection.phase = .checking msg) :
    let checked := threads.server.checkOrder msg
    ∃ laterChecker, Accounted
      { threads with
        server := checked.1
        connections := threads.connections.set index
          (connection.goTo
            (if checked.2 ≠ .none then .reporting (TcpServer.orderReport msg 0)
            else .submitting msg)) }
      (log ++ (threads.server.checkCalls msg).map fun call => (index, .called call))
      laterChecker := by
  intro checked
  have checkedEq : checked = _ := TcpServer.checkOrder_of_some accounted.gate msg
  have balanced := accounted.balanced
  refine ⟨(checker.check (getSymbol msg.symbol) msg.side msg.orderType msg.price
    msg.quantity).1, ?_⟩
  by_cases refused : checked.2 ≠ .none
  · have stats : (checker.check (getSymbol msg.symbol) msg.side msg.orderType msg.price
        msg.quantity).1.stats = checker.stats.recordReject checked.2 := by
      rw [checkedEq] at refused ⊢
      exact if_neg refused
    rw [if_pos refused]
    apply accounted.update found
    · rw [checkedEq]
    · rw [stats]
      exact balanced.recordReject refused
    · rw [stats, atCheck, checkedEq]
      rfl
    · rw [checkedEq]
    · rw [atCheck, checkedEq, sentWith_checkCalls]
      rfl
    · rw [atCheck, checkedEq, sentWith_checkCalls]
      rfl
    · rw [checkedEq]
      exact accounted.numbered
    · intro other isSubmitting
      simp [Connection.goTo] at isSubmitting
  · rw [if_neg refused]
    rw [not_not] at refused
    have stats : (checker.check (getSymbol msg.symbol) msg.side msg.orderType msg.price
        msg.quantity).1.stats = checker.stats.recordPass := by
      rw [checkedEq] at refused
      exact if_pos refused
    apply accounted.update found
    · rw [checkedEq]
    · rw [stats]
      exact balanced.recordPass
    · rw [stats, atCheck, checkedEq]
      change checker.stats.totalPasses + 1 + threads.server.engine.stats.totalOrders + 0 =
        checker.stats.totalPasses + threads.server.engine.stats.totalOrders + 1
      omega
    · rw [checkedEq]
    · rw [atCheck, checkedEq, sentWith_checkCalls]
      rfl
    · rw [atCheck, checkedEq, sentWith_checkCalls]
      rfl
    · rw [checkedEq]
      exact accounted.numbered
    · intro other isSubmitting
      obtain rfl := ClientPhase.submitting.inj isSubmitting
      exact TcpServer.not_rejects_of_passed accounted.gate refused

theorem Accounted.submitting (accounted : Accounted threads log checker) {index : Nat}
    {connection : Connection} {msg : OrderMessage} (clock : Clock)
    (found : threads.connections[index]? = some connection)
    (atSubmit : connection.phase = .submitting msg) :
    let submitted := threads.server.submit clock msg
    ∃ laterChecker, Accounted
      { threads with
        server := submitted.1
        connections := threads.connections.set index
          (connection.goTo (.reporting (TcpServer.orderReport msg submitted.2))) }
      (log ++ List.map (fun call => (index, .called call))
        [.submitOrder (getSymbol msg.symbol) msg.side msg.orderType msg.price msg.quantity])
      laterChecker := by
  intro submitted
  have valid := accounted.held connection (List.mem_of_getElem? found) msg atSubmit
  obtain ⟨orders, rejections, cancels⟩ := threads.server.engine.counts_submitOrder clock
    (getSymbol msg.symbol) msg.side valid
  have identified := MatchingEngine.submitOrder_id_pos accounted.numbered clock
    (getSymbol msg.symbol) msg.side valid
  have acceptedStatus : (TcpServer.orderReport msg submitted.2).status = .accepted :=
    if_pos identified
  let trades := (threads.server.engine.submitOrder clock (getSymbol msg.symbol) msg.side
    msg.orderType msg.price msg.quantity).2.2
  have stats : (trades.foldl tradeCallback checker).stats = checker.stats :=
    TcpServer.stats_foldl_tradeCallback checker trades
  refine ⟨trades.foldl tradeCallback checker, ?_⟩
  apply accounted.update found
  · change threads.server.risk.map _ = _
    rw [accounted.gate]
    rfl
  · rw [stats]
    exact accounted.balanced
  · rw [stats, atSubmit]
    change _ + 1 = _ + (threads.server.engine.submitOrder _ _ _ _ _ _).1.stats.totalOrders + 0
    omega
  · exact rejections
  · rw [atSubmit]
    change (threads.server.engine.submitOrder _ _ _ _ _ _).1.stats.totalOrders + 0 =
      _ + 0 + if (TcpServer.orderReport msg submitted.2).status = .accepted then 1 else 0
    rw [acceptedStatus, orders]
    simp
  · rw [atSubmit]
    change (threads.server.engine.submitOrder _ _ _ _ _ _).1.stats.totalCancels + 0 =
      _ + 0 + if (TcpServer.orderReport msg submitted.2).status = .cancelled then 1 else 0
    rw [acceptedStatus, cancels]
    simp
  · exact accounted.numbered.submitOrder _ _ _ _ _ _
  · intro other isSubmitting
    simp [Connection.goTo] at isSubmitting

theorem Accounted.cancelling (accounted : Accounted threads log checker) {index : Nat}
    {connection : Connection} {msg : CancelMessage}
    (found : threads.connections[index]? = some connection)
    (atCancel : connection.phase = .cancelling msg) :
    let result := threads.server.engine.cancelOrder (getSymbol msg.symbol) msg.orderId
    Accounted
      { threads with
        server := ⟨result.1, threads.server.risk⟩
        connections := threads.connections.set index
          (connection.goTo (.reporting (TcpServer.cancelReport msg result.2))) }
      (log ++ List.map (fun call => (index, .called call))
        [.cancelOrder (getSymbol msg.symbol) msg.orderId])
      checker := by
  intro result
  obtain ⟨orders, rejections, cancels⟩ := threads.server.engine.counts_cancelOrder
    (getSymbol msg.symbol) msg.orderId
  apply accounted.update found
  · exact accounted.gate
  · exact accounted.balanced
  · rw [atCancel]
    change _ + 0 = _ + result.1.stats.totalOrders + 0
    rw [orders]
  · exact rejections
  · rw [atCancel]
    change result.1.stats.totalOrders + 0 =
      _ + 0 + if (TcpServer.cancelReport msg result.2).status = .accepted then 1 else 0
    rw [orders, TcpServer.cancelReport]
    cases result.2 <;> rfl
  · rw [atCancel]
    change result.1.stats.totalCancels + 0 =
      _ + 0 + if (TcpServer.cancelReport msg result.2).status = .cancelled then 1 else 0
    rw [cancels, TcpServer.cancelReport]
    change _ + (if result.2 = true then 1 else 0) + 0 = _
    cases result.2 <;> rfl
  · exact accounted.numbered.cancelOrder _ _
  · intro other isSubmitting
    simp [Connection.goTo] at isSubmitting

theorem Accounted.reporting (accounted : Accounted threads log checker) {index : Nat}
    {connection : Connection} {report : ExecutionReport}
    (found : threads.connections[index]? = some connection)
    (atReport : connection.phase = .reporting report) :
    Accounted
      { threads with connections := threads.connections.set index (connection.goTo .testing) }
      (log ++ List.map (fun call => (index, .called call)) [.send report]) checker := by
  have sent (status : OrderStatus) :
      sentWith status [.send report] = ClientPhase.pending status (.reporting report) := by
    change List.countP _ [report] = if report.status = status then 1 else 0
    by_cases same : report.status = status
    · simp [same]
    · simp [same]
  apply accounted.update found accounted.gate accounted.balanced
  · rw [atReport]
    rfl
  · rfl
  · rw [atReport, sent]
    rfl
  · rw [atReport, sent]
    rfl
  · exact accounted.numbered
  · intro other isSubmitting
    simp [Connection.goTo] at isSubmitting

/-- The step of a connection's thread keeps the accounts. -/
theorem Accounted.proceed (accounted : Accounted threads log checker) {index : Nat}
    {connection : Connection} (found : threads.connections[index]? = some connection)
    (stack : Nat → UInt8) (clock : Clock) (writable : Bool) :
    let result := connection.proceed threads.running stack clock writable threads.server
    ∃ laterChecker, Accounted
      { threads with
        server := result.1
        connections := threads.connections.set index result.2.1 }
      (log ++ result.2.2.map fun call => (index, .called call)) laterChecker := by
  intro result
  have idle {phase : ClientPhase} (waits : phase.waits = 0)
      (pending : ∀ status, phase.pending status = 0) : phase.Idle := ⟨waits, pending⟩
  obtain ⟨unread, hungUp, phase⟩ := connection
  cases phase with
  | testing =>
      have laterIdle : ClientPhase.Idle (if threads.running then .readingTag else .closed) := by
        split <;> exact ⟨rfl, fun _ => rfl⟩
      exact ⟨checker, accounted.idle found (idle rfl fun _ => rfl) laterIdle⟩
  | readingTag =>
      exact ⟨checker, accounted.idle found (idle rfl fun _ => rfl)
        (Connection.idle_read (idle rfl fun _ => rfl) _ fun _ => ClientPhase.idle_ofTag _)⟩
  | readingOrder =>
      exact ⟨checker, accounted.idle found (idle rfl fun _ => rfl)
        (Connection.idle_read (idle rfl fun _ => rfl) _ fun _ => idle rfl fun _ => rfl)⟩
  | readingCancel =>
      exact ⟨checker, accounted.idle found (idle rfl fun _ => rfl)
        (Connection.idle_read (idle rfl fun _ => rfl) _ fun _ => idle rfl fun _ => rfl)⟩
  | checking msg => exact accounted.checking found rfl
  | submitting msg => exact accounted.submitting clock found rfl
  | cancelling msg => exact ⟨checker, accounted.cancelling found rfl⟩
  | reporting report =>
      cases writable with
      | true => exact ⟨checker, accounted.reporting found rfl⟩
      | false =>
          -- the report is still to be sent, and everything stays as it is
          have unchanged : threads.connections.set index ⟨unread, hungUp, .reporting report⟩ =
              threads.connections := by
            obtain ⟨inRange, foundEq⟩ := List.getElem?_eq_some_iff.mp found
            rw [← foundEq, List.set_getElem_self]
          refine ⟨checker, ?_⟩
          change Accounted { threads with
            connections := threads.connections.set index ⟨unread, hungUp, .reporting report⟩ }
              (log ++ []) checker
          rw [unchanged, List.append_nil]
          exact accounted
  | closed =>
      exact ⟨checker, accounted.idle found (idle rfl fun _ => rfl) (idle rfl fun _ => rfl)⟩

theorem Accounted.step (accounted : Accounted threads log checker) (action : ThreadAction) :
    ∃ laterChecker,
      Accounted (threads.step action).1 (log ++ (threads.step action).2) laterChecker := by
  rcases threads.step_effect action with
    ⟨index, stack, clock, writable, connection, found, acts⟩ | ⟨serverEq, noCalls, born, phasesEq⟩
  · rw [acts]
    exact accounted.proceed found stack clock writable
  · have weights (weight : ClientPhase → Nat) (fresh : weight .testing = 0) :
        ((threads.step action).1.connections.map fun connection => weight connection.phase).sum =
          (threads.connections.map fun connection => weight connection.phase).sum := by
      have mapped := congrArg (fun phases => (phases.map weight).sum) phasesEq
      simpa [List.map_map, Function.comp_def, fresh] using mapped
    have sent : allCalls (log ++ (threads.step action).2) = allCalls log := by
      rw [allCalls_append]
      exact (congrArg _ noCalls).trans (List.append_nil _)
    refine ⟨checker, ?_, accounted.balanced, ?_, ?_, ?_, ?_, ?_, ?_⟩
    · rw [serverEq]
      exact accounted.gate
    · rw [serverEq, waitingOrders, weights ClientPhase.waits rfl]
      exact accounted.passes
    · rw [serverEq]
      exact accounted.rejects
    · rw [serverEq, sent, pendingReports, weights (ClientPhase.pending .accepted) rfl]
      exact accounted.accepted
    · rw [serverEq, sent, pendingReports, weights (ClientPhase.pending .cancelled) rfl]
      exact accounted.cancelled
    · rw [serverEq]
      exact accounted.numbered
    · intro connection member msg atSubmit
      have phaseMember : connection.phase ∈
          threads.connections.map Connection.phase ++ List.replicate born .testing :=
        phasesEq ▸ List.mem_map_of_mem member
      rcases List.mem_append.mp phaseMember with old | new
      · obtain ⟨earlier, earlierMember, samePhase⟩ := List.mem_map.mp old
        exact accounted.held earlier earlierMember msg (samePhase.trans atSubmit)
      · rw [List.eq_of_mem_replicate new] at atSubmit
        simp at atSubmit

/-- In every interleaving of any number of connections the checker's counters add
up, by reason too; the engine rejects nothing that has passed the check; every
order that has passed is counted by the engine or is on its way to it; and the
orders and the cancels that the engine has counted are those reported to the
clients, or about to be. -/
theorem gate_accounts (limits : RiskLimits) (actions : List ThreadAction) :
    let result := Transition.run step (listening (.new limits)) actions
    let engine := result.1.server.engine
    let calls := allCalls result.2.flatten
    ∃ checker, result.1.server.risk = some checker ∧
      checker.stats.totalChecks = checker.stats.totalPasses + checker.stats.totalRejections ∧
      checker.stats.totalRejections = (rejectReasons.map checker.stats.byReason).sum ∧
      checker.stats.totalPasses = engine.stats.totalOrders + result.1.waitingOrders ∧
      engine.stats.totalRejects = 0 ∧
      engine.stats.totalOrders = sentWith .accepted calls + result.1.pendingReports .accepted ∧
      engine.stats.totalCancels =
        sentWith .cancelled calls + result.1.pendingReports .cancelled := by
  intro result engine calls
  have initially : Accounted (listening (.new limits)) [] (.new limits) :=
    ⟨rfl, ⟨rfl, rfl⟩, rfl, rfl, rfl, rfl, MatchingEngine.numbered_new, by simp [listening]⟩
  have kept (threads : ServerThreads) (log : List (Nat × ClientEvent)) (action : ThreadAction)
      (holds : ∃ checker, Accounted threads log checker) :
      ∃ checker, Accounted (threads.step action).1 (log ++ (threads.step action).2) checker := by
    obtain ⟨checker, accounted⟩ := holds
    exact accounted.step action
  obtain ⟨checker, accounted⟩ := Transition.run_logged
    (fun threads log => ∃ checker, Accounted threads log checker) kept ⟨_, initially⟩ actions
  rw [List.nil_append] at accounted
  exact ⟨checker, accounted.gate, accounted.balanced.checks, accounted.balanced.reasons,
    accounted.passes, accounted.rejects, accounted.accepted, accounted.cancelled⟩

end ServerThreads

end OrderBookExchange
