import OrderBookExchange.ClientInterleaving

/-!
# The kill switch

An operator may engage and disengage the kill switch between any two turns of
the connections.  The switch is read by the check alone.  An order that has
passed the check is submitted even if the switch is engaged before its
connection's next turn, so engaging it stops the flow of orders exactly if no
connection holds such an order.
-/

namespace OrderBookExchange

/-- A turn of a connection, or a call of the operator. -/
inductive SystemAction where
  | client (action : ClientAction)
  | engageKillSwitch
  | disengageKillSwitch

def ServerCall.isSubmit : ServerCall → Bool
  | .submitOrder .. => true
  | _ => false

namespace ClientSystem

/-- The system with its operator. -/
def operate (system : ClientSystem) : SystemAction → ClientSystem × List ServerCall
  | .client action => system.step action
  | .engageKillSwitch =>
      ({ system with
          server :=
            { system.server with risk := system.server.risk.map RiskChecker.engageKillSwitch } },
        [])
  | .disengageKillSwitch =>
      ({ system with
          server :=
            { system.server with
              risk := system.server.risk.map RiskChecker.disengageKillSwitch } },
        [])

/-- A system without a checker has no switch to engage. -/
def isKilled (system : ClientSystem) : Bool :=
  system.server.risk.any RiskChecker.isKilled

/-- No connection is between the check of an order and its submission. -/
def Idle (system : ClientSystem) : Prop :=
  ∀ client, system.waiting client = none

def submitsWhileKilled (system : ClientSystem) (action : SystemAction) : Bool :=
  system.isKilled && (system.operate action).2.any ServerCall.isSubmit

/-- The switch is engaged only while no connection holds an order. -/
def EngagesIdle (system : ClientSystem) (action : SystemAction) : Prop :=
  action = .engageKillSwitch → system.Idle

variable {system : ClientSystem}

/-! ### One turn -/

theorem killSwitch_foldl_tradeCallback (risk : RiskChecker) (trades : List Trade) :
    (trades.foldl tradeCallback risk).killSwitch = risk.killSwitch := by
  induction trades generalizing risk with
  | nil => rfl
  | cons trade trades ih => exact ih (tradeCallback risk trade)

/-- An engaged switch rejects every order, so no connection comes to hold one. -/
theorem waiting_receive_of_isKilled (killed : system.isKilled = true) (client : Nat)
    (frame : Frame) : (system.receive client frame).1.waiting = system.waiting := by
  cases frame with
  | newOrder body complete =>
      cases gate : system.server.risk with
      | none => simp [isKilled, gate] at killed
      | some risk =>
          have engaged : risk.killSwitch = true := by
            simpa [isKilled, gate, RiskChecker.isKilled] using killed
          rw [receive, TcpServer.checkOrder_of_some gate]
          simp [RiskChecker.rejectReason, engaged]
  | cancel body complete => rfl
  | other tag unknown => rfl

theorem killSwitch_step (action : ClientAction) :
    (system.step action).1.server.risk.map RiskChecker.killSwitch =
      system.server.risk.map RiskChecker.killSwitch := by
  cases action with
  | receive client frame =>
      rw [step]
      split
      · rfl
      · cases frame with
        | newOrder body complete =>
            rw [receive]
            split <;> exact system.server.killSwitch_checkOrder _
        | cancel body complete => rfl
        | other tag unknown => rfl
  | submit client clock =>
      rw [step]
      split
      · rfl
      · cases gate : system.server.risk with
        | none => simp [TcpServer.submit, gate]
        | some risk => simp [TcpServer.submit, gate, killSwitch_foldl_tradeCallback]

theorem isSome_risk_step (action : ClientAction) :
    (system.step action).1.server.risk.isSome = system.server.risk.isSome := by
  rw [← Option.isSome_map, killSwitch_step, Option.isSome_map]

theorem isKilled_eq_true :
    system.isKilled = true ↔ system.server.risk.map RiskChecker.killSwitch = some true := by
  rw [isKilled]
  cases system.server.risk with
  | none => simp
  | some risk => simp [RiskChecker.isKilled]

theorem isKilled_step (action : ClientAction) :
    (system.step action).1.isKilled = system.isKilled := by
  rw [Bool.eq_iff_iff, isKilled_eq_true, isKilled_eq_true, killSwitch_step]

theorem Idle.submit (idle : system.Idle) (client : Nat) (clock : Clock) :
    system.step (.submit client clock) = (system, []) := by
  rw [step, idle client]

theorem receive_no_submit (client : Nat) (frame : Frame) :
    (system.receive client frame).2.any ServerCall.isSubmit = false := by
  cases frame with
  | newOrder body complete =>
      have checked (msg : OrderMessage) :
          (system.server.checkCalls msg).any ServerCall.isSubmit = false := by
        rw [TcpServer.checkCalls]
        split <;> rfl
      rw [receive]
      split
      · rw [List.any_append, checked]
        rfl
      · exact checked _
  | cancel body complete => rfl
  | other tag unknown => rfl

/-! ### Runs -/

/-- There is a checker, and while the switch is engaged nobody holds an order. -/
structure Halting (system : ClientSystem) : Prop where
  gated : system.server.risk.isSome = true
  idle : system.isKilled = true → system.Idle

theorem halting_new (limits : RiskLimits) : Halting (new limits) :=
  ⟨rfl, fun _ _ => rfl⟩

theorem Halting.operate (halting : Halting system) {action : SystemAction}
    (engages : system.EngagesIdle action) : Halting (system.operate action).1 := by
  cases action with
  | client action =>
      refine ⟨(isSome_risk_step action).trans halting.gated, ?_⟩
      intro killed
      rw [ClientSystem.operate, isKilled_step] at killed
      have idle := halting.idle killed
      cases action with
      | receive client frame =>
          rw [ClientSystem.operate, step]
          split
          · exact idle
          · intro other
            rw [waiting_receive_of_isKilled killed]
            exact idle other
      | submit client clock =>
          rw [ClientSystem.operate, idle.submit client clock]
          exact idle
  | engageKillSwitch =>
      refine ⟨by simpa [ClientSystem.operate] using halting.gated, ?_⟩
      intro _
      exact engages rfl
  | disengageKillSwitch =>
      refine ⟨by simpa [ClientSystem.operate] using halting.gated, ?_⟩
      intro killed
      cases gate : system.server.risk <;>
        simp [ClientSystem.operate, isKilled, gate, RiskChecker.isKilled,
          RiskChecker.disengageKillSwitch] at killed

theorem Halting.no_submit (halting : Halting system) (action : SystemAction) :
    system.submitsWhileKilled action = false := by
  rw [submitsWhileKilled, Bool.and_eq_false_imp]
  intro killed
  cases action with
  | client action =>
      cases action with
      | receive client frame =>
          rw [ClientSystem.operate, step]
          split
          · rfl
          · exact receive_no_submit client frame
      | submit client clock => rw [ClientSystem.operate, (halting.idle killed).submit]; rfl
  | engageKillSwitch => rfl
  | disengageKillSwitch => rfl

/-- A connection that holds an order submits it, engaged or not. -/
theorem submits_of_waiting {client : Nat} {msg : OrderMessage}
    (held : system.waiting client = some msg) (clock : Clock) :
    (system.step (.submit client clock)).2.any ServerCall.isSubmit = true := by
  rw [step, held]
  rfl

theorem isKilled_engage (gated : system.server.risk.isSome = true) :
    (system.operate .engageKillSwitch).1.isKilled = true := by
  obtain ⟨risk, gate⟩ := Option.isSome_iff_exists.mp gated
  rw [operate, isKilled, gate]
  rfl

/-- No order is submitted while the switch is engaged in any run that engages
it only while no connection holds a checked order.  After such a run, engaging
the switch is safe for every continuation if and only if no connection holds
one then. -/
theorem kill_switch_barrier_iff (limits : RiskLimits) {actions : List SystemAction}
    (engages : Transition.Along operate EngagesIdle (new limits) actions) :
    Transition.Along operate (fun system action => system.submitsWhileKilled action = false)
        (new limits) actions ∧
      ((∀ later, .engageKillSwitch ∉ later →
          Transition.Along operate
            (fun system action => system.submitsWhileKilled action = false) (new limits)
            (actions ++ .engageKillSwitch :: later)) ↔
        (Transition.run operate (new limits) actions).1.Idle) := by
  have safe {more : List SystemAction}
      (engages : Transition.Along operate EngagesIdle (new limits) more) :
      Transition.Along operate (fun system action => system.submitsWhileKilled action = false)
        (new limits) more :=
    Transition.along_of_invariant Halting (fun _ _ halting engages => halting.operate engages)
      (fun _ action halting _ => halting.no_submit action) (halting_new limits) engages
  have reached : Halting (Transition.run operate (new limits) actions).1 :=
    Transition.run_invariant Halting (fun _ _ halting engages => halting.operate engages)
      (halting_new limits) engages
  refine ⟨safe engages, ?_, ?_⟩
  · intro always client
    -- otherwise the connection submits right after the switch is engaged
    by_contra holds
    obtain ⟨msg, held⟩ := Option.ne_none_iff_exists'.mp holds
    have along := always [.client (.submit client fun _ => 0)] (by simp)
    have none : submitsWhileKilled
        ((Transition.run operate (new limits) actions).1.operate .engageKillSwitch).1
        (.client (.submit client fun _ => 0)) = false :=
      (Transition.along_append.mp along).2.2.1
    have stillHeld : ((Transition.run operate (new limits) actions).1.operate
        .engageKillSwitch).1.waiting client = some msg := held
    rw [submitsWhileKilled, isKilled_engage reached.gated, Bool.true_and, operate,
      submits_of_waiting stillHeld] at none
    exact Bool.noConfusion none
  · intro idle later unengaged
    apply safe
    refine Transition.along_append.mpr ⟨engages, fun _ => idle, ?_⟩
    have others : ∀ action ∈ later, action ≠ .engageKillSwitch :=
      fun action member isEngage => unengaged (isEngage ▸ member)
    exact Transition.along_of_invariant (fun _ => True) (fun _ _ _ _ => trivial)
      (fun _ _ _ other isEngage => absurd isEngage other) trivial
      (Transition.along_of_forall others _)

/-- A limit order to buy one share of `"A"` at a price of 100. -/
def oneShare : Frame :=
  .newOrder [65, 0, 0, 0, 0, 0, 0, 0, 0, 0, 0, 0, 0, 0, 0, 0, 89, 64, 1, 0, 0, 0] rfl

/-- The order passes the check, the switch is engaged, and the order is
submitted. -/
theorem submitted_after_engage :
    ¬Transition.Along operate (fun system action => system.submitsWhileKilled action = false)
      (new {}) [.client (.receive 0 oneShare), .engageKillSwitch,
        .client (.submit 0 fun _ => 0)] := by
  rintro ⟨-, -, none, -⟩
  exact absurd none (by decide +kernel)

/-- Engaged after the submission, the switch stops the next order. -/
theorem kill_switch_barrier_after_submit :
    let actions : List SystemAction :=
      [.client (.receive 0 oneShare), .client (.submit 0 fun _ => 0), .engageKillSwitch,
        .client (.receive 0 oneShare), .client (.submit 0 fun _ => 0)]
    Transition.Along operate (fun system action => system.submitsWhileKilled action = false)
      (new {}) actions := by
  refine (kill_switch_barrier_iff {} ?_).1
  refine ⟨nofun, nofun, ?_, nofun, nofun, trivial⟩
  intro _ client
  have handled := (run_uninterrupted (new {}) 0 (fun _ => 0) oneShare rfl).1
  exact congrFun (congrArg waiting handled) client

end ClientSystem

end OrderBookExchange
