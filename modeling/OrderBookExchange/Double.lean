import Mathlib.Data.Rat.Lemmas
import Mathlib.Data.Prod.Lex
import Mathlib.Order.Basic
import Mathlib.Tactic

/-!
# Double-precision values

IEEE-754 doubles as a program compares and combines them.  A NaN is unordered
with everything, the two infinities bound the finite values, and the results
of finite arithmetic are exact rationals rather than rounded ones.  The two
zeros are one value here, because no comparison separates them.
-/

namespace OrderBookExchange

/-- A double: not-a-number, an infinity, or a finite value. -/
inductive Double where
  | nan
  | negInf
  | finite (value : ℚ)
  | posInf
  deriving DecidableEq, Repr

namespace Double

instance : OfNat Double 0 where
  ofNat := .finite 0

instance : Inhabited Double where
  default := 0

/-- The comparison `left < right`, false whenever a NaN takes part. -/
def lt : Double → Double → Bool
  | .negInf, .finite _ | .negInf, .posInf | .finite _, .posInf => true
  | .finite left, .finite right => decide (left < right)
  | _, _ => false

/-- The comparison `left <= right`, false whenever a NaN takes part. -/
def le : Double → Double → Bool
  | .negInf, .negInf | .negInf, .finite _ | .negInf, .posInf => true
  | .finite _, .posInf | .posInf, .posInf => true
  | .finite left, .finite right => decide (left ≤ right)
  | _, _ => false

/-- The comparison `left == right`, false whenever a NaN takes part. -/
def eq : Double → Double → Bool
  | .nan, _ => false
  | left, right => decide (left = right)

/-- The largest finite double, `(2 ^ 53 - 1) * 2 ^ 971`. -/
def maxFinite : ℚ := (2 ^ 53 - 1) * 2 ^ 971

/-- Whether a value is finite and inside the range a double can hold. -/
def isFinite : Double → Bool
  | .finite value => decide (-maxFinite ≤ value ∧ value ≤ maxFinite)
  | _ => false

/-- A finite price as a number. -/
def value : Double → ℚ
  | .finite value => value
  | _ => 0

theorem eq_finite {price : Double} (finite : price.isFinite = true) :
    price = .finite price.value := by
  cases price with
  | finite value => rfl
  | nan | negInf | posInf => exact absurd finite Bool.false_ne_true

def neg : Double → Double
  | .nan => .nan
  | .negInf => .posInf
  | .finite value => .finite (-value)
  | .posInf => .negInf

/-- Addition; infinities of opposite signs cancel to a NaN. -/
def add : Double → Double → Double
  | .finite left, .finite right => .finite (left + right)
  | .nan, _ | _, .nan | .posInf, .negInf | .negInf, .posInf => .nan
  | .posInf, _ | _, .posInf => .posInf
  | .negInf, _ | _, .negInf => .negInf

def sub (left right : Double) : Double :=
  left.add right.neg

/-- An infinity carrying the sign of a nonzero rational; zero times an
infinity is a NaN. -/
def infinityWithSign (sign : ℚ) : Double :=
  if 0 < sign then .posInf else if sign < 0 then .negInf else .nan

def mul : Double → Double → Double
  | .finite left, .finite right => .finite (left * right)
  | .nan, _ | _, .nan => .nan
  | .posInf, .posInf | .negInf, .negInf => .posInf
  | .posInf, .negInf | .negInf, .posInf => .negInf
  | .posInf, .finite value | .finite value, .posInf => infinityWithSign value
  | .negInf, .finite value | .finite value, .negInf => infinityWithSign (-value)

/-- Division by the constant `2.0`. -/
def half : Double → Double
  | .finite value => .finite (value / 2)
  | value => value

/-- Conversion of an unsigned integer. -/
def ofNat (number : Nat) : Double :=
  .finite number

/-- The value of an IEEE-754 double from its 64 bits. -/
def ofBits (bits : Nat) : Double :=
  let negative := bits / 2 ^ 63 % 2 == 1
  let exponent : Nat := bits / 2 ^ 52 % 2 ^ 11
  let fraction : Nat := bits % 2 ^ 52
  if exponent = 2 ^ 11 - 1 then
    if fraction ≠ 0 then .nan else if negative then .negInf else .posInf
  else
    let magnitude : ℚ :=
      if exponent = 0 then fraction / 2 ^ 1074
      else (2 ^ 52 + fraction) * 2 ^ exponent / 2 ^ 1075
    .finite (if negative then -magnitude else magnitude)

/-! ### Comparisons as an order

The NaN-free values are totally ordered.  Listing a NaN below them extends
that order to every value, which is the order the sorted views use. -/

/-- Position of a value in the extended order. -/
def rank : Double → ℤ ×ₗ ℚ
  | .nan => toLex (-2, 0)
  | .negInf => toLex (-1, 0)
  | .finite value => toLex (0, value)
  | .posInf => toLex (1, 0)

theorem rank_injective : Function.Injective rank := by
  intro left right equal
  cases left <;> cases right <;> simp_all [rank]

instance : LinearOrder Double :=
  LinearOrder.lift' rank rank_injective

theorem lt_iff_rank {left right : Double} : left < right ↔ rank left < rank right :=
  Iff.rfl

theorem lt_eq_true_iff {left right : Double} (leftNum : left ≠ .nan)
    (rightNum : right ≠ .nan) : left.lt right = true ↔ left < right := by
  rw [lt_iff_rank]
  cases left <;> cases right <;> simp_all [lt, rank, Prod.Lex.lt_iff]

theorem le_eq_true_iff {left right : Double} (leftNum : left ≠ .nan)
    (rightNum : right ≠ .nan) : left.le right = true ↔ left ≤ right := by
  rw [← not_lt, lt_iff_rank]
  cases left <;> cases right <;> simp_all [le, rank, Prod.Lex.lt_iff]

theorem lt_eq_false_iff {left right : Double} (leftNum : left ≠ .nan)
    (rightNum : right ≠ .nan) : left.lt right = false ↔ right ≤ left := by
  rw [← not_lt, ← lt_eq_true_iff leftNum rightNum]
  simp

theorem le_eq_false_of_lt {left right : Double} (less : left.lt right = true) :
    right.le left = false := by
  cases left <;> cases right <;> simp_all [lt, le]

@[simp]
theorem finite_lt_finite {left right : ℚ} :
    (Double.finite left < .finite right) ↔ left < right := by
  simp [lt_iff_rank, rank, Prod.Lex.lt_iff]

@[simp]
theorem finite_le_finite {left right : ℚ} :
    (Double.finite left ≤ .finite right) ↔ left ≤ right := by
  rw [← not_lt, finite_lt_finite, not_lt]

@[simp]
theorem zero_def : (0 : Double) = .finite 0 :=
  rfl

theorem ne_nan_of_isFinite {value : Double} (finite : value.isFinite = true) :
    value ≠ .nan := by
  cases value <;> simp_all [isFinite]

theorem zero_add_eq (value : Double) : (0 : Double).add value = value := by
  cases value <;> simp [add]

theorem lt_self_eq_false (value : Double) : value.lt value = false := by
  cases value <;> simp [lt]

theorem lt_asymm_eq_false {left right : Double} (less : left.lt right = true) :
    right.lt left = false := by
  cases left <;> cases right <;> simp_all [lt]
  exact less.le

theorem le_nan_eq_false (value : Double) : value.le .nan = false := by
  cases value <;> rfl

theorem le_trans_eq_true {left middle right : Double} (lower : left.le middle = true)
    (upper : middle.le right = true) : left.le right = true := by
  have leftNum : left ≠ .nan := by
    rintro rfl
    exact Bool.false_ne_true lower
  have middleNum : middle ≠ .nan := by
    rintro rfl
    exact Bool.false_ne_true upper
  have rightNum : right ≠ .nan := by
    rintro rfl
    exact Bool.false_ne_true ((le_nan_eq_false middle).symm.trans upper)
  rw [le_eq_true_iff leftNum middleNum] at lower
  rw [le_eq_true_iff middleNum rightNum] at upper
  exact (le_eq_true_iff leftNum rightNum).mpr (lower.trans upper)

/-- What a cap does not exclude up to some value it excludes nowhere below. -/
theorem lt_eq_false_of_below {cap top value : Double} (topNum : top ≠ .nan)
    (capped : cap.lt top = false) (below : top.lt value = false) : cap.lt value = false := by
  cases cap <;> cases top <;> cases value <;> simp_all [lt]
  exact below.trans capped

end Double

end OrderBookExchange
