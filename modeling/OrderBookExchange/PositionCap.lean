import OrderBookExchange.RiskChecker
import OrderBookExchange.TransitionRun

/-!
# The position cap over checks and fills

Between the check that accepts an order and its fills lies an arbitrary delay.
The checker projects a single order on top of the filled position, so several
accepted orders may together carry the position past the cap.  The cap holds
in every run in which each accepted order also leaves room for the accepted
orders of its side that are still unfilled.
-/

namespace OrderBookExchange

/-- An order the checker accepted, with what is left to fill. -/
structure AcceptedOrder where
  symbol : Symbol
  side : Side
  remaining : Nat

/-- The calls made on a checker.  A fill names an accepted order by its
position in the order of acceptance. -/
inductive RiskOp where
  | check (symbol : Symbol) (side : Side) (type : OrderType) (price : Price)
      (quantity : Quantity)
  | fill (index : Nat) (price : Price) (quantity : Quantity)

/-- Take a fill from the accepted order at an index, if it has that much left. -/
def fillAccepted : Nat → Nat → List AcceptedOrder →
    Option (AcceptedOrder × List AcceptedOrder)
  | _, _, [] => none
  | 0, quantity, order :: rest =>
      if quantity ≤ order.remaining then
        some (order, { order with remaining := order.remaining - quantity } :: rest)
      else none
  | index + 1, quantity, order :: rest =>
      (fillAccepted index quantity rest).map fun result => (result.1, order :: result.2)

/-- Unfilled quantity accepted for a symbol on a side. -/
def openQuantity (symbol : Symbol) (buy : Bool) (orders : List AcceptedOrder) : Nat :=
  ((orders.filter fun order => order.symbol = symbol ∧ order.side.isBuy = buy).map
    AcceptedOrder.remaining).sum

/-- A checker and the orders it has accepted. -/
structure RiskRun where
  checker : RiskChecker
  accepted : List AcceptedOrder

namespace RiskRun

def new (limits : RiskLimits) : RiskRun where
  checker := .new limits
  accepted := []

/-- One call.  `on_fill` is only called for an accepted order, with its symbol
and side and with no more than it has left. -/
def step (state : RiskRun) : RiskOp → RiskRun × RejectReason
  | .check symbol side type price quantity =>
      let result := state.checker.check symbol side type price quantity
      let accepted :=
        if result.2 = .none then state.accepted ++ [⟨symbol, side, quantity.toNat⟩]
        else state.accepted
      (⟨result.1, accepted⟩, result.2)
  | .fill index price quantity =>
      match fillAccepted index quantity.toNat state.accepted with
      | none => (state, .none)
      | some (order, accepted) =>
          (⟨state.checker.onFill order.symbol order.side price quantity, accepted⟩, .none)

/-- Where the position of a symbol ends up, in the direction of a side, once
every accepted order of that side is filled. -/
def exposed (state : RiskRun) (symbol : Symbol) (buy : Bool) : Int :=
  (if buy then state.checker.position symbol else -state.checker.position symbol) +
    openQuantity symbol buy state.accepted

/-- An order that passes the limits also fits under the cap together with the
accepted orders of its side that are still unfilled. -/
def LeavesRoom (state : RiskRun) : RiskOp → Prop
  | .check symbol side type price quantity =>
      state.checker.Passes symbol side type price quantity →
        state.exposed symbol side.isBuy + quantity.toNat ≤ state.checker.limits.maxPositionAbs
  | .fill _ _ _ => True

end RiskRun

theorem openQuantity_append (symbol : Symbol) (buy : Bool) (first second : List AcceptedOrder) :
    openQuantity symbol buy (first ++ second) =
      openQuantity symbol buy first + openQuantity symbol buy second := by
  simp [openQuantity]

theorem openQuantity_cons (symbol : Symbol) (buy : Bool) (order : AcceptedOrder)
    (rest : List AcceptedOrder) :
    openQuantity symbol buy (order :: rest) =
      (if order.symbol = symbol ∧ order.side.isBuy = buy then order.remaining else 0) +
        openQuantity symbol buy rest := by
  by_cases counted : order.symbol = symbol ∧ order.side.isBuy = buy
  · simp [openQuantity, counted]
  · simp [openQuantity, counted]

/-- A fill moves its quantity out of the open quantity of its order's symbol
and side. -/
theorem openQuantity_fillAccepted {index quantity : Nat} {orders rest : List AcceptedOrder}
    {order : AcceptedOrder} (filled : fillAccepted index quantity orders = some (order, rest))
    (symbol : Symbol) (buy : Bool) :
    openQuantity symbol buy rest +
        (if order.symbol = symbol ∧ order.side.isBuy = buy then quantity else 0) =
      openQuantity symbol buy orders := by
  induction orders generalizing index order rest with
  | nil => simp [fillAccepted] at filled
  | cons head tail ih =>
      cases index with
      | zero =>
          rw [fillAccepted] at filled
          split at filled
          · next enough =>
              rw [Option.some.injEq, Prod.mk.injEq] at filled
              obtain ⟨rfl, rfl⟩ := filled
              rw [openQuantity_cons, openQuantity_cons]
              dsimp only
              split <;> omega
          · simp at filled
      | succ index =>
          rw [fillAccepted, Option.map_eq_some_iff] at filled
          obtain ⟨⟨found, later⟩, inTail, resultEq⟩ := filled
          rw [Prod.mk.injEq] at resultEq
          obtain ⟨rfl, rfl⟩ := resultEq
          have tailBalance := ih inTail
          rw [openQuantity_cons, openQuantity_cons]
          dsimp only
          omega

namespace RiskRun

/-- Filling everything that is open on one side stays within the cap. -/
structure WithinCap (limits : RiskLimits) (state : RiskRun) : Prop where
  limitsEq : state.checker.limits = limits
  fits : ∀ symbol buy, state.exposed symbol buy ≤ limits.maxPositionAbs

theorem withinCap_new {limits : RiskLimits} (capNonneg : 0 ≤ limits.maxPositionAbs) :
    WithinCap limits (new limits) where
  limitsEq := rfl
  fits := by
    intro symbol buy
    simpa [exposed, new, RiskChecker.new, RiskChecker.position, openQuantity] using capNonneg

section Step

variable (state : RiskRun) (symbol : Symbol) (side : Side) (type : OrderType) (price : Price)
  (quantity : Quantity)

theorem step_check_of_accepted
    (accepted : state.checker.rejectReason symbol side type price quantity = .none) :
    (state.step (.check symbol side type price quantity)).1 =
      ⟨(state.checker.check symbol side type price quantity).1,
        state.accepted ++ [⟨symbol, side, quantity.toNat⟩]⟩ := by
  simp [step, RiskChecker.check, accepted]

theorem step_check_of_rejected
    (rejected : state.checker.rejectReason symbol side type price quantity ≠ .none) :
    (state.step (.check symbol side type price quantity)).1 =
      ⟨(state.checker.check symbol side type price quantity).1, state.accepted⟩ := by
  simp [step, RiskChecker.check, rejected]

theorem exposed_step_check
    (accepted : state.checker.rejectReason symbol side type price quantity = .none)
    (other : Symbol) (buy : Bool) :
    (state.step (.check symbol side type price quantity)).1.exposed other buy =
      state.exposed other buy +
        if symbol = other ∧ side.isBuy = buy then (quantity.toNat : Int) else 0 := by
  rw [step_check_of_accepted state symbol side type price quantity accepted, exposed, exposed,
    RiskChecker.position_check, openQuantity_append, openQuantity_cons]
  have none : openQuantity other buy [] = 0 := rfl
  rw [none]
  split <;> push_cast <;> ring

/-- A fill turns open quantity into position, and it moves the opposite side
away from the cap. -/
theorem exposed_step_fill (index : Nat) (other : Symbol) (buy : Bool) :
    (state.step (.fill index price quantity)).1.exposed other buy ≤
      state.exposed other buy := by
  cases filled : fillAccepted index quantity.toNat state.accepted with
  | none =>
      have stepEq : (state.step (.fill index price quantity)).1 = state := by
        simp [step, filled]
      rw [stepEq]
  | some result =>
      obtain ⟨order, accepted⟩ := result
      have stepEq : (state.step (.fill index price quantity)).1 =
          ⟨state.checker.onFill order.symbol order.side price quantity, accepted⟩ := by
        simp [step, filled]
      have balance := openQuantity_fillAccepted filled other buy
      rw [stepEq, exposed, exposed, RiskChecker.position_onFill, signedQuantity]
      by_cases same : other = order.symbol
      · subst same
        cases buy <;> cases buys : order.side.isBuy <;> simp [buys] at balance ⊢ <;> omega
      · have different : order.symbol ≠ other := fun eq => same eq.symm
        simp [same, different] at balance ⊢
        omega

end Step

theorem limits_step (state : RiskRun) (op : RiskOp) :
    (state.step op).1.checker.limits = state.checker.limits := by
  cases op with
  | check symbol side type price quantity => rfl
  | fill index price quantity =>
      rw [step]
      split <;> rfl

theorem WithinCap.step {limits : RiskLimits} {state : RiskRun} (within : WithinCap limits state)
    {op : RiskOp} (leaves : state.LeavesRoom op) : WithinCap limits (state.step op).1 := by
  refine ⟨(limits_step state op).trans within.limitsEq, ?_⟩
  intro other buy
  have before := within.fits other buy
  cases op with
  | fill index price quantity =>
      exact (exposed_step_fill state price quantity index other buy).trans before
  | check symbol side type price quantity =>
      by_cases accepted : state.checker.rejectReason symbol side type price quantity = .none
      · have bound := leaves (RiskChecker.passes_of_none accepted)
        rw [within.limitsEq] at bound
        rw [exposed_step_check state symbol side type price quantity accepted]
        split
        · next sameSide =>
            obtain ⟨rfl, rfl⟩ := sameSide
            exact bound
        · omega
      · rw [step_check_of_rejected state symbol side type price quantity accepted]
        exact before

/-- The position cap holds in every state of a run whose accepted orders leave
room for the unfilled ones before them. -/
theorem run_position_cap {limits : RiskLimits} (capNonneg : 0 ≤ limits.maxPositionAbs)
    {ops : List RiskOp} (leaves : Transition.Along step LeavesRoom (new limits) ops)
    (symbol : Symbol) :
    |(Transition.run step (new limits) ops).1.checker.position symbol| ≤
      limits.maxPositionAbs := by
  have within : WithinCap limits (Transition.run step (new limits) ops).1 :=
    Transition.run_invariant (WithinCap limits)
      (fun _ _ within leavesRoom => within.step leavesRoom) (withinCap_new capNonneg) leaves
  have above := within.fits symbol true
  have below := within.fits symbol false
  simp only [exposed, if_true, Bool.false_eq_true, if_false] at above below
  rw [abs_le]
  constructor <;> omega

/-- Six orders of a million shares, all accepted before the first of them is
filled. -/
def sixBuys : List RiskOp :=
  List.replicate 6 (.check [65] .buy .limit (.finite 1) 1000000) ++
    (List.range 6).map fun index => .fill index (.finite 1) 1000000

/-- Under the default limits the six accepted orders fill to a position of six
million shares, a million over the cap. -/
theorem sixBuys_exceed_cap :
    ¬ |(Transition.run step (new {}) sixBuys).1.checker.position [65]| ≤
      ({} : RiskLimits).maxPositionAbs := by
  decide +kernel

/-- A buy and a sell that wait together, a fill of each, and a buy that the
filled position leaves room for. -/
def waitingOrders : List RiskOp :=
  [.check [65] .buy .limit (.finite 2) 1000000, .check [65] .sell .limit (.finite 3) 400000,
    .fill 0 (.finite 2) 1000000, .fill 1 (.finite 3) 300000,
    .check [65] .buy .market 0 900000, .fill 2 (.finite 3) 900000]

theorem run_position_cap_waiting_orders :
    (Transition.run step (new {}) waitingOrders).1.checker.position [65] = 1600000 ∧
      |(Transition.run step (new {}) waitingOrders).1.checker.position [65]| ≤
        ({} : RiskLimits).maxPositionAbs := by
  refine ⟨by decide +kernel, run_position_cap (by decide) ?_ [65]⟩
  refine ⟨fun _ => ?_, fun _ => ?_, trivial, trivial, fun _ => ?_, trivial, trivial⟩ <;>
    decide +kernel

end RiskRun

end OrderBookExchange
