import OrderBookExchange.Double
import OrderBookExchange.GridRounding

/-!
# Binary64

The finite doubles that are not negative are a grid, indexed by their bit patterns,
and infinity stands at the place of the next power of two.  So the rounding of the
format is the one of the grid, and the next double above one has the next index.

An operation on doubles is the exact operation followed by rounding.
-/

namespace OrderBookExchange

namespace Binary64

/-- The bit pattern of infinity. -/
def infinite : ℕ := 2047 * 2 ^ 52

/-- A double as a multiple of the smallest one, from its bit pattern. -/
def scaled (bits : ℕ) : ℕ :=
  if bits < 2 ^ 52 then bits else (2 ^ 52 + bits % 2 ^ 52) * 2 ^ (bits / 2 ^ 52 - 1)

def magnitude (bits : ℕ) : ℚ :=
  scaled bits / 2 ^ 1074

/-- The double with an index on the grid. -/
def ofIndex (index : ℤ) : Double :=
  if infinite ≤ index then .posInf
  else if index ≤ -infinite then .negInf
  else .finite (Grid.point magnitude index)

/-- The index of the double nearest to a number. -/
def indexOf (number : ℚ) : ℤ :=
  Grid.index magnitude infinite 63 number

theorem scaled_lt_succ (bits : ℕ) : scaled bits < scaled (bits + 1) := by
  unfold scaled
  by_cases subnormal : bits + 1 < 2 ^ 52
  · rw [if_pos (by omega), if_pos subnormal]
    omega
  by_cases smallest : bits < 2 ^ 52
  · obtain rfl : bits = 2 ^ 52 - 1 := by omega
    norm_num
  rw [if_neg smallest, if_neg subnormal]
  have normal : 1 ≤ bits / 2 ^ 52 := by omega
  by_cases carry : bits % 2 ^ 52 + 1 = 2 ^ 52
  · -- the next exponent begins
    have nextExponent : (bits + 1) / 2 ^ 52 - 1 = (bits / 2 ^ 52 - 1) + 1 := by omega
    have nextFraction : (bits + 1) % 2 ^ 52 = 0 := by omega
    have doubled (exponent : ℕ) : 2 ^ 52 * 2 ^ (exponent + 1) = 2 * 2 ^ 52 * 2 ^ exponent := by
      ring
    rw [nextExponent, nextFraction, Nat.add_zero, doubled]
    exact Nat.mul_lt_mul_of_pos_right (by omega) (by positivity)
  · have sameExponent : (bits + 1) / 2 ^ 52 = bits / 2 ^ 52 := by omega
    rw [sameExponent]
    exact Nat.mul_lt_mul_of_pos_right (by omega) (by positivity)

theorem magnitude_strictMono : StrictMono magnitude := by
  apply strictMono_nat_of_lt_succ
  intro bits
  apply div_lt_div_of_pos_right _ (by positivity)
  exact_mod_cast scaled_lt_succ bits

theorem magnitude_zero : magnitude 0 = 0 := by
  simp [magnitude, scaled]

theorem infinite_le : infinite ≤ 2 ^ 63 := by
  decide

theorem point_strictMono : StrictMono (Grid.point magnitude) :=
  Grid.point_strictMono magnitude_strictMono magnitude_zero

theorem indexOf_bounds (number : ℚ) :
    -(infinite : ℤ) ≤ indexOf number ∧ indexOf number ≤ infinite :=
  Grid.index_bounds magnitude_strictMono magnitude_zero infinite_le number

theorem ofIndex_ne_nan (index : ℤ) : ofIndex index ≠ .nan := by
  unfold ofIndex
  split
  · simp
  · split <;> simp

theorem ofIndex_mono {low high : ℤ} (ordered : low ≤ high) : ofIndex low ≤ ofIndex high := by
  have points := point_strictMono.monotone ordered
  rw [← not_lt, Double.lt_iff_rank]
  unfold ofIndex
  split_ifs
  all_goals first
    | omega
    | simp [Double.rank, Prod.Lex.lt_iff, points]

theorem ofIndex_strictMono {low high : ℤ} (less : low < high) (lower : -(infinite : ℤ) ≤ low)
    (upper : high ≤ infinite) : ofIndex low < ofIndex high := by
  have points := point_strictMono less
  unfold ofIndex
  split_ifs
  all_goals first
    | omega
    | simp [Double.lt_iff_rank, Double.rank, Prod.Lex.lt_iff, points]

/-! ### Bit patterns -/

theorem ofIndex_neg (index : ℤ) : ofIndex (-index) = (ofIndex index).neg := by
  have positive : (0 : ℤ) < infinite := by decide
  have mirrored := Grid.point_neg magnitude_zero index
  unfold ofIndex
  split_ifs
  all_goals first
    | omega
    | simp [Double.neg, mirrored]

/-- The magnitude in terms of the fields of the format. -/
theorem magnitude_fields (bits : ℕ) :
    (if bits / 2 ^ 52 = 0 then ((bits % 2 ^ 52 : ℕ) : ℚ) / 2 ^ 1074
      else (2 ^ 52 + ((bits % 2 ^ 52 : ℕ) : ℚ)) * 2 ^ (bits / 2 ^ 52) / 2 ^ 1075) =
    magnitude bits := by
  unfold magnitude scaled
  by_cases subnormal : bits < 2 ^ 52
  · rw [if_pos (Nat.div_eq_of_lt subnormal), if_pos subnormal, Nat.mod_eq_of_lt subnormal]
  · rw [if_neg (by omega), if_neg subnormal]
    obtain ⟨exponent, exponentEq⟩ : ∃ exponent, bits / 2 ^ 52 = exponent + 1 :=
      ⟨bits / 2 ^ 52 - 1, by omega⟩
    rw [exponentEq, Nat.add_sub_cancel, pow_succ (2 : ℚ) exponent, pow_succ (2 : ℚ) 1074,
      ← mul_assoc, mul_div_mul_right _ _ (by norm_num)]
    push_cast
    rfl

/-- An index, or no number behind the one of infinity. -/
theorem ofIndex_fields {bits : ℕ} (short : bits < 2 ^ 63) :
    (if bits / 2 ^ 52 = 2 ^ 11 - 1 then if bits % 2 ^ 52 ≠ 0 then Double.nan else .posInf
      else .finite (magnitude bits)) =
    if infinite < bits then .nan else ofIndex bits := by
  have infiniteEq : infinite = 2047 * 2 ^ 52 := rfl
  unfold ofIndex Grid.point
  by_cases special : bits / 2 ^ 52 = 2 ^ 11 - 1
  · rw [if_pos special]
    by_cases isNan : bits % 2 ^ 52 ≠ 0
    · rw [if_pos isNan, if_pos (by omega)]
    · rw [if_neg isNan, if_neg (by omega), if_pos (by omega)]
  · rw [if_neg special, if_neg (by omega), if_neg (by omega), if_neg (by omega),
      if_pos (by omega), Int.toNat_natCast]

/-- The lower 63 bits are the index of a double, and the highest one is its sign. -/
theorem ofBits_eq {bits : ℕ} (fits : bits < 2 ^ 64) :
    Double.ofBits bits =
      if infinite < bits % 2 ^ 63 then .nan
      else if bits < 2 ^ 63 then ofIndex (bits % 2 ^ 63 : ℕ)
      else (ofIndex (bits % 2 ^ 63 : ℕ)).neg := by
  have exponentEq : bits / 2 ^ 52 % 2 ^ 11 = bits % 2 ^ 63 / 2 ^ 52 := by omega
  have fractionEq : bits % 2 ^ 52 = bits % 2 ^ 63 % 2 ^ 52 := by omega
  have fields := ofIndex_fields (Nat.mod_lt bits (by positivity : 0 < 2 ^ 63))
  unfold Double.ofBits
  dsimp only
  rw [exponentEq, fractionEq, magnitude_fields]
  rcases Nat.lt_or_ge bits (2 ^ 63) with positive | negative
  · have sign : bits / 2 ^ 63 % 2 = 0 := by omega
    rw [sign, if_pos positive]
    exact fields
  · have sign : bits / 2 ^ 63 % 2 = 1 := by omega
    have mirrored := congrArg Double.neg fields
    rw [sign, if_neg (Nat.not_lt.mpr negative)]
    rw [apply_ite Double.neg, apply_ite Double.neg, apply_ite Double.neg] at mirrored
    exact mirrored

end Binary64

namespace Double

open Binary64

/-- The double nearest to the exact result of an operation. -/
def rounded : Double → Double
  | .finite number => ofIndex (indexOf number)
  | special => special

/-- A value that 64 bits encode. -/
def Stored (double : Double) : Prop :=
  ∃ bits : UInt64, ofBits bits.toNat = double

/-- The next double above one. -/
def nextUp : Double → Double
  | .nan => .nan
  | .negInf => ofIndex (-infinite + 1)
  | .finite number => ofIndex (indexOf number + 1)
  | .posInf => .posInf

theorem stored_iff {double : Double} :
    double.Stored ↔
      double = .nan ∨ ∃ index : ℤ, -infinite ≤ index ∧ index ≤ infinite ∧ double = ofIndex index := by
  have small : infinite < 2 ^ 63 := by decide
  constructor
  · rintro ⟨bits, rfl⟩
    rw [ofBits_eq bits.toNat_lt]
    split_ifs with isNan positive
    · exact Or.inl rfl
    · exact Or.inr ⟨_, by omega, by omega, rfl⟩
    · rw [← ofIndex_neg]
      exact Or.inr ⟨_, by omega, by omega, rfl⟩
  · rintro (rfl | ⟨index, lower, upper, rfl⟩)
    · exact ⟨.ofNat (infinite + 1), by decide +kernel⟩
    · by_cases sign : 0 ≤ index
      · have bitsEq : (UInt64.ofNat index.toNat).toNat = index.toNat := by
          rw [UInt64.toNat_ofNat', Nat.mod_eq_of_lt (by omega)]
        refine ⟨.ofNat index.toNat, ?_⟩
        rw [bitsEq, ofBits_eq (by omega), Nat.mod_eq_of_lt (by omega), if_neg (by omega),
          if_pos (by omega), Int.toNat_of_nonneg sign]
      · have bitsEq : (UInt64.ofNat (2 ^ 63 + (-index).toNat)).toNat =
            2 ^ 63 + (-index).toNat := by
          rw [UInt64.toNat_ofNat', Nat.mod_eq_of_lt (by omega)]
        refine ⟨.ofNat (2 ^ 63 + (-index).toNat), ?_⟩
        rw [bitsEq, ofBits_eq (by omega), Nat.add_mod_left, Nat.mod_eq_of_lt (by omega),
          if_neg (by omega), if_neg (by omega), ← ofIndex_neg, Int.toNat_of_nonneg (by omega),
          neg_neg]

theorem stored_ofIndex {index : ℤ} (lower : -infinite ≤ index) (upper : index ≤ infinite) :
    (ofIndex index).Stored :=
  stored_iff.mpr (Or.inr ⟨index, lower, upper, rfl⟩)

theorem stored_rounded (double : Double) : double.rounded.Stored := by
  cases double with
  | nan => exact stored_iff.mpr (Or.inl rfl)
  | negInf => exact stored_iff.mpr (Or.inr ⟨-infinite, le_rfl, by decide, rfl⟩)
  | finite number => exact stored_ofIndex (indexOf_bounds number).1 (indexOf_bounds number).2
  | posInf => exact stored_iff.mpr (Or.inr ⟨infinite, by decide, le_rfl, rfl⟩)

/-- What is stored is not rounded. -/
theorem Stored.rounded_eq {double : Double} (stored : double.Stored) : double.rounded = double := by
  rcases stored_iff.mp stored with rfl | ⟨index, lower, upper, rfl⟩
  · rfl
  · have fixed : indexOf (Grid.point magnitude index) = index :=
      Grid.index_point magnitude_strictMono magnitude_zero infinite_le lower upper
    unfold ofIndex
    split_ifs with isInfinite isNegative
    · rfl
    · rfl
    · rw [rounded, fixed, ofIndex, if_neg isInfinite, if_neg isNegative]

theorem rounded_ne_nan {double : Double} (number : double ≠ .nan) : double.rounded ≠ .nan := by
  cases double with
  | nan => exact absurd rfl number
  | negInf => exact number
  | finite number => exact ofIndex_ne_nan _
  | posInf => exact number

theorem rounded_lt_eq_false {low high : Double} (ordered : high.lt low = false) (lowNum : low ≠ .nan)
    (highNum : high ≠ .nan) : high.rounded.lt low.rounded = false := by
  cases low with
  | nan => exact absurd rfl lowNum
  | negInf => cases high.rounded <;> rfl
  | posInf =>
      cases high with
      | nan => exact absurd rfl highNum
      | posInf => rfl
      | negInf | finite => simp [lt] at ordered
  | finite low =>
      cases high with
      | nan => exact absurd rfl highNum
      | negInf => simp [lt] at ordered
      | posInf => cases (finite low).rounded <;> rfl
      | finite high =>
          have numbers : low ≤ high := by simpa [lt] using ordered
          change (ofIndex (indexOf high)).lt (ofIndex (indexOf low)) = false
          rw [lt_eq_false_iff (ofIndex_ne_nan _) (ofIndex_ne_nan _)]
          exact ofIndex_mono
            (Grid.index_mono magnitude_strictMono magnitude_zero infinite_le numbers)

/-- A stored number below infinity and its successor are neighbours on the grid. -/
theorem exists_nextUp {double : Double} (stored : double.Stored) (number : double ≠ .nan)
    (bounded : double ≠ .posInf) :
    ∃ index : ℤ, -infinite ≤ index ∧ index < infinite ∧ double = ofIndex index ∧
      double.nextUp = ofIndex (index + 1) := by
  rcases stored_iff.mp stored with rfl | ⟨index, lower, upper, rfl⟩
  · exact absurd rfl number
  · have below : index < infinite := by
      refine lt_of_le_of_ne upper ?_
      rintro rfl
      exact bounded (if_pos le_rfl)
    refine ⟨index, lower, below, rfl, ?_⟩
    by_cases isNegative : index ≤ -infinite
    · obtain rfl : index = -infinite := by omega
      have isNegInf : ofIndex (-infinite) = .negInf := by
        rw [ofIndex, if_neg (by omega), if_pos le_rfl]
      rw [isNegInf]
      rfl
    · have fixed : indexOf (Grid.point magnitude index) = index :=
        Grid.index_point magnitude_strictMono magnitude_zero infinite_le lower upper
      have isFinite : ofIndex index = .finite (Grid.point magnitude index) := by
        rw [ofIndex, if_neg (by omega), if_neg isNegative]
      rw [isFinite, nextUp, fixed]

theorem nextUp_spec {double : Double} (stored : double.Stored) (number : double ≠ .nan)
    (bounded : double ≠ .posInf) :
    double.nextUp.Stored ∧ double.lt double.nextUp = true ∧
      ∀ other : Double, other.Stored → double.lt other = true →
        other.lt double.nextUp = false := by
  obtain ⟨index, lower, below, rfl, nextEq⟩ := exists_nextUp stored number bounded
  rw [nextEq]
  refine ⟨stored_ofIndex (by omega) (by omega), ?_, ?_⟩
  · rw [lt_eq_true_iff (ofIndex_ne_nan _) (ofIndex_ne_nan _)]
    exact ofIndex_strictMono (by omega) lower (by omega)
  · intro other otherStored above
    rcases stored_iff.mp otherStored with rfl | ⟨place, -, -, rfl⟩
    · cases ofIndex (index + 1) <;> rfl
    · rw [lt_eq_true_iff (ofIndex_ne_nan _) (ofIndex_ne_nan _)] at above
      rw [lt_eq_false_iff (ofIndex_ne_nan _) (ofIndex_ne_nan _)]
      apply ofIndex_mono
      by_contra behind
      exact absurd (ofIndex_mono (by omega : place ≤ index)) (not_le.mpr above)

end Double

/-- How sums and products are computed. -/
structure Arithmetic where
  add : Double → Double → Double
  mul : Double → Double → Double

namespace Arithmetic

def exact : Arithmetic where
  add := Double.add
  mul := Double.mul

def binary64 : Arithmetic where
  add := fun left right => (left.add right).rounded
  mul := fun left right => (left.mul right).rounded

/-- A cap that a sum does not exceed is not exceeded with a smaller summand. -/
theorem binary64_add_lt_eq_false {cap exposure top value : Double} (topNum : top ≠ .nan)
    (capped : cap.lt (binary64.add exposure top) = false) (below : top.lt value = false) :
    cap.lt (binary64.add exposure value) = false := by
  change cap.lt (exposure.add top).rounded = false at capped
  change cap.lt (exposure.add value).rounded = false
  by_cases valueNum : exposure.add value = .nan
  · rw [valueNum]
    cases cap <;> rfl
  by_cases sumNum : exposure.add top = .nan
  · -- infinities cancel, so the other sum is infinite too
    cases exposure <;> cases top <;> cases value <;>
      simp_all [Double.add, Double.lt, Double.rounded]
  · have sums : (exposure.add top).lt (exposure.add value) = false := by
      cases exposure <;> cases top <;> cases value <;> simp_all [Double.add, Double.lt]
    exact Double.lt_eq_false_of_below (Double.rounded_ne_nan sumNum) capped
      (Double.rounded_lt_eq_false sums valueNum sumNum)

end Arithmetic

end OrderBookExchange
