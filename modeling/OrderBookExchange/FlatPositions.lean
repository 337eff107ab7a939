import OrderBookExchange.Binary64
import OrderBookExchange.RiskChecker

/-!
# The exposure of flat positions

A fill moves the position of its symbol by a signed quantity and adds its whole
notional to the exposure, on either side.  So the exposure is the notional
traded so far and not the notional that is open: positions that return to zero
leave it where it is.  A checker with flat positions answers like a new one
exactly when the traded notional makes no difference to any order.

An exposure can also get lost: next to a large cap a small one disappears in
rounding.  So the checker is taken here with the arithmetic as a parameter, and
the results are about rounded sums and products.
-/

namespace OrderBookExchange

open Arithmetic

namespace Double

variable {exposure cap top : Double}

/-- An exposure changes no comparison with a cap, among the values up to `top`,
exactly if the cap excludes none of them, with and without the exposure, or if the
exposure gets lost at the cap: added to the cap it does not lead above it, and
added to the next double above it does. -/
theorem exposure_harmless_iff (capStored : cap.Stored) (topStored : top.Stored)
    (topNum : top ≠ .nan) :
    (∀ value : Double, value.Stored → top.lt value = false →
        cap.lt (binary64.add exposure value) = cap.lt value) ↔
      (cap.lt top = false ∧ cap.lt (binary64.add exposure top) = false) ∨
        (cap.lt (binary64.add exposure cap) = false ∧
          cap.lt (binary64.add exposure cap.nextUp) = true) := by
  -- a value below another one is a number, and not the largest
  have number {low high : Double} (less : low.lt high = true) : low ≠ .nan ∧ low ≠ .posInf := by
    cases low <;> simp_all [lt]
  constructor
  · intro harmless
    by_cases capped : cap.lt top = false
    · exact Or.inl ⟨capped, (harmless top topStored (lt_self_eq_false top)).trans capped⟩
    · rw [Bool.not_eq_false] at capped
      obtain ⟨nextStored, above, least⟩ :=
        nextUp_spec capStored (number capped).1 (number capped).2
      refine Or.inr ⟨?_, ?_⟩
      · exact (harmless cap capStored (lt_asymm_eq_false capped)).trans (lt_self_eq_false cap)
      · exact (harmless cap.nextUp nextStored (least top topStored capped)).trans above
  · rintro (⟨capped, sumCapped⟩ | ⟨atCap, atNext⟩) value stored below
    · rw [lt_eq_false_of_below topNum capped below,
        binary64_add_lt_eq_false topNum sumCapped below]
    · obtain ⟨capNum, capBounded⟩ := number atNext
      obtain ⟨-, -, least⟩ := nextUp_spec capStored capNum capBounded
      by_cases above : cap.lt value = true
      · have valueNum : value ≠ .nan := by
          rintro rfl
          cases cap <;> simp [lt] at above
        rw [above]
        by_contra lost
        have lostNext := binary64_add_lt_eq_false valueNum (Bool.eq_false_of_not_eq_true lost)
          (least value stored above)
        exact Bool.false_ne_true (lostNext.symm.trans atNext)
      · rw [Bool.not_eq_true] at above
        rw [above, binary64_add_lt_eq_false capNum atCap above]

end Double

/-- A fill as it is reported to the checker. -/
structure Fill where
  symbol : Symbol
  side : Side
  price : Price
  quantity : Quantity

/-! ### The checker in an arithmetic -/

section Rounding

variable (arithmetic : Arithmetic)

/-- `price * static_cast<double>(quantity)`. -/
def notionalIn (price : Price) (quantity : Quantity) : Double :=
  arithmetic.mul price (.ofNat quantity.toNat)

/-- A total of notionals with those of the given fills added to it. -/
def bookedNotional (total : Double) (fills : List Fill) : Double :=
  fills.foldl
    (fun total fill => arithmetic.add total (notionalIn arithmetic fill.price fill.quantity)) total

namespace RiskChecker

/-- The first check an order fails, `none` when it passes them all. -/
def rejectReasonIn (checker : RiskChecker) (symbol : Symbol) (side : Side) (type : OrderType)
    (price : Price) (quantity : Quantity) : RejectReason :=
  if checker.killSwitch then .killSwitchActive
  else if quantity = 0 then .invalidQuantity
  else if checker.limits.maxOrderQuantity < quantity then .maxOrderQuantityExceeded
  else if type = .limit ∧ price.le 0 then .invalidPrice
  else if type ≠ .market ∧
      checker.limits.maxOrderNotional.lt (notionalIn arithmetic price quantity) then
    .maxOrderNotionalExceeded
  else if checker.limits.maxPositionAbs <
      |checker.position symbol + signedQuantity side quantity| then
    .maxPositionExceeded
  else if type ≠ .market ∧
      checker.limits.maxNotionalExposure.lt
        (arithmetic.add checker.currentNotionalExposure
          (notionalIn arithmetic price quantity)) then
    .maxNotionalExposureExceeded
  else .none

def checkIn (checker : RiskChecker) (symbol : Symbol) (side : Side) (type : OrderType)
    (price : Price) (quantity : Quantity) : RiskChecker × RejectReason :=
  let reason := checker.rejectReasonIn arithmetic symbol side type price quantity
  let stats :=
    if reason = .none then checker.stats.recordPass else checker.stats.recordReject reason
  ({ checker with stats }, reason)

def onFillIn (checker : RiskChecker) (symbol : Symbol) (side : Side) (price : Price)
    (quantity : Quantity) : RiskChecker :=
  { checker with
    positions := Function.update checker.positions symbol
      (checker.positions symbol + signedQuantity side quantity)
    currentNotionalExposure :=
      arithmetic.add checker.currentNotionalExposure (notionalIn arithmetic price quantity) }

/-- The checker after a sequence of fills. -/
def onFillsIn (checker : RiskChecker) (fills : List Fill) : RiskChecker :=
  fills.foldl
    (fun checker fill =>
      checker.onFillIn arithmetic fill.symbol fill.side fill.price fill.quantity)
    checker

/-- Without rounding it is the checker of the other modules. -/
theorem in_exact (checker : RiskChecker) (symbol : Symbol) (side : Side) (type : OrderType)
    (price : Price) (quantity : Quantity) :
    checker.checkIn .exact symbol side type price quantity =
        checker.check symbol side type price quantity ∧
      checker.onFillIn .exact symbol side price quantity =
        checker.onFill symbol side price quantity :=
  ⟨rfl, rfl⟩

theorem onFillsIn_fields (checker : RiskChecker) (fills : List Fill) :
    (checker.onFillsIn arithmetic fills).limits = checker.limits ∧
      (checker.onFillsIn arithmetic fills).killSwitch = checker.killSwitch ∧
      (checker.onFillsIn arithmetic fills).currentNotionalExposure =
        bookedNotional arithmetic checker.currentNotionalExposure fills := by
  induction fills generalizing checker with
  | nil => exact ⟨rfl, rfl, rfl⟩
  | cons fill rest ih =>
      exact ih (checker.onFillIn arithmetic fill.symbol fill.side fill.price fill.quantity)

end RiskChecker

end Rounding

namespace RiskLimits

/-- The two notional limits are doubles. -/
structure Stored (limits : RiskLimits) : Prop where
  maxOrderNotional : limits.maxOrderNotional.Stored
  maxNotionalExposure : limits.maxNotionalExposure.Stored

/-- The largest notional that the limits allow a single order. -/
def notionalCeiling (limits : RiskLimits) : Double :=
  if limits.maxOrderNotional = .nan then .posInf else limits.maxOrderNotional

theorem notionalCeiling_ne_nan (limits : RiskLimits) : limits.notionalCeiling ≠ .nan := by
  unfold notionalCeiling
  split
  · simp
  · assumption

theorem Stored.notionalCeiling {limits : RiskLimits} (stored : limits.Stored) :
    limits.notionalCeiling.Stored := by
  unfold RiskLimits.notionalCeiling
  split
  · exact Double.stored_rounded .posInf
  · exact stored.maxOrderNotional

theorem notionalCeiling_lt (limits : RiskLimits) (notional : Double) :
    limits.notionalCeiling.lt notional = limits.maxOrderNotional.lt notional := by
  unfold notionalCeiling
  split
  · next unlimited =>
      rw [unlimited]
      cases notional <;> rfl
  · rfl

/-- An exposure that makes no difference: no order gets as far as the exposure
cap, or the largest order fits under the cap with and without the exposure, or the
exposure gets lost in rounding at the cap. -/
def Indifferent (limits : RiskLimits) (exposure : Double) : Prop :=
  limits.maxOrderQuantity = 0 ∨ limits.maxPositionAbs < 1 ∨
    (limits.maxNotionalExposure.lt limits.notionalCeiling = false ∧
      limits.maxNotionalExposure.lt (binary64.add exposure limits.notionalCeiling) = false) ∨
    (limits.maxNotionalExposure.lt (binary64.add exposure limits.maxNotionalExposure) = false ∧
      limits.maxNotionalExposure.lt
        (binary64.add exposure limits.maxNotionalExposure.nextUp) = true)

instance (limits : RiskLimits) (exposure : Double) : Decidable (limits.Indifferent exposure) :=
  inferInstanceAs (Decidable (_ ∨ _))

end RiskLimits

theorem notionalIn_one {price : Price} (stored : price.Stored) :
    notionalIn binary64 price 1 = price := by
  have product : price.mul (.ofNat 1) = price := by
    unfold Double.ofNat
    cases price <;> simp [Double.mul, Double.infinityWithSign]
  change (price.mul (.ofNat 1)).rounded = price
  rw [product, stored.rounded_eq]

theorem zero_add_binary64 {value : Double} (stored : value.Stored) :
    binary64.add 0 value = value := by
  change ((0 : Double).add value).rounded = value
  rw [Double.zero_add_eq, stored.rounded_eq]

theorem one_le_abs_signedQuantity (side : Side) {quantity : Quantity} (nonzero : quantity ≠ 0) :
    1 ≤ |signedQuantity side quantity| := by
  have natNonzero : quantity.toNat ≠ 0 := fun zero => nonzero (UInt32.toNat_inj.mp zero)
  unfold signedQuantity
  split
  · rw [Nat.abs_cast]
    omega
  · rw [abs_neg, Nat.abs_cast]
    omega

namespace RiskChecker

section Flat

variable {checker : RiskChecker} (alive : checker.killSwitch = false)
  (flat : ∀ symbol, checker.position symbol = 0)
include alive flat

/-- On flat positions the verdict is the one of a new checker, up to the last
check. -/
theorem rejectReason_eq_new {symbol : Symbol} {side : Side} {type : OrderType} {price : Price}
    {quantity : Quantity}
    (sameCap : quantity ≠ 0 → quantity ≤ checker.limits.maxOrderQuantity → type ≠ .market →
      checker.limits.maxOrderNotional.lt (notionalIn binary64 price quantity) = false →
      |signedQuantity side quantity| ≤ checker.limits.maxPositionAbs →
      checker.limits.maxNotionalExposure.lt (binary64.add checker.currentNotionalExposure
          (notionalIn binary64 price quantity)) =
        checker.limits.maxNotionalExposure.lt (notionalIn binary64 price quantity)) :
    checker.rejectReasonIn binary64 symbol side type price quantity =
      (new checker.limits).rejectReasonIn binary64 symbol side type price quantity := by
  have fresh : (new checker.limits).position symbol = 0 := rfl
  have notionalStored : (notionalIn binary64 price quantity).Stored := Double.stored_rounded _
  unfold rejectReasonIn
  rw [alive, flat, fresh]
  simp only [new, zero_add_binary64 notionalStored, zero_add]
  by_cases zero : quantity = 0
  · rw [if_pos zero, if_pos zero]
  by_cases large : checker.limits.maxOrderQuantity < quantity
  · simp only [if_pos large]
  by_cases notional : type ≠ .market ∧
      checker.limits.maxOrderNotional.lt (notionalIn binary64 price quantity) = true
  · simp only [if_pos notional]
  by_cases position : checker.limits.maxPositionAbs < |signedQuantity side quantity|
  · simp only [if_pos position]
  by_cases market : type = .market
  · simp only [market, ne_eq, not_true_eq_false, false_and, if_false]
  · rw [sameCap zero (UInt32.not_lt.mp large) market (by simpa [market] using notional)
      (not_lt.mp position)]

theorem rejectReason_probe {price : Price} (stored : price.Stored)
    (quantityCap : checker.limits.maxOrderQuantity ≠ 0)
    (positionCap : 1 ≤ checker.limits.maxPositionAbs)
    (notionalCap : checker.limits.maxOrderNotional.lt price = false) :
    checker.rejectReasonIn binary64 [] .buy .ioc price 1 =
      if checker.limits.maxNotionalExposure.lt
          (binary64.add checker.currentNotionalExposure price) then
        .maxNotionalExposureExceeded
      else .none := by
  have oneAllowed : ¬checker.limits.maxOrderQuantity < 1 := by
    intro less
    exact quantityCap (UInt32.lt_one_iff.mp less)
  have positionAllowed : ¬checker.limits.maxPositionAbs < |0 + signedQuantity .buy 1| := by
    change ¬checker.limits.maxPositionAbs < 1
    omega
  unfold rejectReasonIn
  rw [alive, flat, notionalIn_one stored, notionalCap, if_neg positionAllowed, if_neg oneAllowed]
  simp

/-- With flat positions the verdicts are those of a new checker exactly when the
exposure makes no difference. -/
theorem rejectReason_eq_new_iff (stored : checker.limits.Stored) :
    (∀ symbol side type (price : Price) quantity, price.Stored →
        checker.rejectReasonIn binary64 symbol side type price quantity =
          (new checker.limits).rejectReasonIn binary64 symbol side type price quantity) ↔
      checker.limits.Indifferent checker.currentNotionalExposure := by
  unfold RiskLimits.Indifferent
  rw [← Double.exposure_harmless_iff stored.maxNotionalExposure stored.notionalCeiling
    checker.limits.notionalCeiling_ne_nan]
  constructor
  · intro same
    by_cases quantityCap : checker.limits.maxOrderQuantity = 0
    · exact Or.inl quantityCap
    by_cases positionCap : checker.limits.maxPositionAbs < 1
    · exact Or.inr (Or.inl positionCap)
    refine Or.inr (Or.inr ?_)
    -- an IOC order for one share has any double as its notional
    intro notional notionalStored below
    rw [RiskLimits.notionalCeiling_lt] at below
    have verdicts := same [] .buy .ioc notional 1 notionalStored
    have freshAlive : (new checker.limits).killSwitch = false := rfl
    rw [rejectReason_probe alive flat notionalStored quantityCap (not_lt.mp positionCap) below,
      rejectReason_probe freshAlive (fun _ => rfl) notionalStored quantityCap
        (not_lt.mp positionCap) below] at verdicts
    change _ = if checker.limits.maxNotionalExposure.lt (binary64.add 0 notional) = true
      then _ else _ at verdicts
    rw [zero_add_binary64 notionalStored] at verdicts
    split_ifs at verdicts <;> simp_all
  · intro indifferent symbol side type price quantity _
    apply rejectReason_eq_new alive flat
    intro nonzero allowed _ belowNotional belowPosition
    rcases indifferent with noQuantity | noPosition | harmless
    · rw [noQuantity] at allowed
      exact absurd (UInt32.le_zero_iff.mp allowed) nonzero
    · have positive := one_le_abs_signedQuantity side nonzero
      omega
    · exact harmless _ (Double.stored_rounded _)
        ((checker.limits.notionalCeiling_lt _).trans belowNotional)

end Flat

/-- After fills that return every position to zero a checker behaves like a new
one, for every order at a price that is a double, exactly when the notional booked
so far makes no difference.  All sums and products are rounded. -/
theorem flat_verdicts_iff (checker : RiskChecker) (fills : List Fill)
    (stored : checker.limits.Stored) (alive : checker.killSwitch = false)
    (flat : ∀ symbol, (checker.onFillsIn binary64 fills).position symbol = 0) :
    (∀ symbol side type (price : Price) quantity, price.Stored →
        ((checker.onFillsIn binary64 fills).checkIn binary64 symbol side type price quantity).2 =
          ((new checker.limits).checkIn binary64 symbol side type price quantity).2) ↔
      checker.limits.Indifferent
        (bookedNotional binary64 checker.currentNotionalExposure fills) := by
  obtain ⟨limitsEq, killSwitchEq, exposureEq⟩ := checker.onFillsIn_fields binary64 fills
  have verdicts := rejectReason_eq_new_iff (killSwitchEq.trans alive) flat
    (limitsEq.symm ▸ stored)
  rw [limitsEq, exposureEq] at verdicts
  exact verdicts

/-- A million shares of `"A"` bought and sold again at one price. -/
def roundTrip (price : Price) : List Fill :=
  [⟨[65], .buy, price, 1000000⟩, ⟨[65], .sell, price, 1000000⟩]

theorem position_roundTrip (price : Price) (symbol : Symbol) :
    ((new {}).onFillsIn binary64 (roundTrip price)).position symbol = 0 := by
  by_cases same : symbol = [65]
  · subst same
    simp [onFillsIn, roundTrip, onFillIn, position, new, signedQuantity, Side.isBuy]
  · simp [onFillsIn, roundTrip, onFillIn, position, new, same]

theorem stored_defaultLimits : ({} : RiskLimits).Stored := by
  have orderNotional : (Double.finite 10000000).rounded = .finite 10000000 := by decide +kernel
  have exposure : (Double.finite 50000000).rounded = .finite 50000000 := by decide +kernel
  constructor
  · exact orderNotional ▸ Double.stored_rounded (.finite 10000000)
  · exact exposure ▸ Double.stored_rounded (.finite 50000000)

/-- Under the default limits a round trip at one dollar leaves room for every
order. -/
theorem flat_verdicts_one_dollar :
    bookedNotional binary64 0 (roundTrip (.finite 1)) = .finite 2000000 ∧
      ∀ symbol side type (price : Price) quantity, price.Stored →
        (((new {}).onFillsIn binary64 (roundTrip (.finite 1))).checkIn binary64 symbol side type
            price quantity).2 =
          ((new {}).checkIn binary64 symbol side type price quantity).2 :=
  ⟨by decide +kernel,
    (flat_verdicts_iff (new {}) (roundTrip (.finite 1)) stored_defaultLimits rfl
      (position_roundTrip _)).mpr (by decide +kernel)⟩

/-- A round trip at 30 dollars, and an order for one share is refused. -/
theorem flat_checker_refuses :
    (∀ symbol, ((new {}).onFillsIn binary64 (roundTrip (.finite 30))).position symbol = 0) ∧
      (((new {}).onFillsIn binary64 (roundTrip (.finite 30))).checkIn binary64 [65] .buy .limit
          (.finite 30) 1).2 = .maxNotionalExposureExceeded ∧
      ((new {}).checkIn binary64 [65] .buy .limit (.finite 30) 1).2 = .none :=
  ⟨position_roundTrip _, by decide +kernel, by decide +kernel⟩

end RiskChecker

end OrderBookExchange
