import Mathlib.Algebra.Order.Field.Rat
import Mathlib.Order.Monotone.Basic
import Mathlib.Tactic

/-!
# Rounding to the nearest point of a grid

A grid is a strictly increasing sequence of numbers that starts at zero.  A number
is rounded to the nearest of its points, and of two that are equally near to the
one with the even index.  Numbers from the last point on are rounded to it.  The
negative numbers are rounded by the same grid, mirrored at zero.

Two facts are what programs rely on: rounding is monotone, and a point of the grid
is its own rounding.
-/

namespace OrderBookExchange.Grid

/-- The last index whose point is at most `x`, found bit by bit from `base` on. -/
def search (grid : ℕ → ℚ) (x : ℚ) : ℕ → ℕ → ℕ
  | 0, base => base
  | bits + 1, base =>
      if grid (base + 2 ^ bits) ≤ x then search grid x bits (base + 2 ^ bits)
      else search grid x bits base

/-- The index of the point nearest to a number that is not negative. -/
def nearest (grid : ℕ → ℚ) (last bits : ℕ) (x : ℚ) : ℕ :=
  if grid last ≤ x then last
  else
    let low := search grid x bits 0
    if x - grid low < grid (low + 1) - x then low
    else if grid (low + 1) - x < x - grid low then low + 1
    else if low % 2 = 0 then low
    else low + 1

/-- The points of the grid on both sides of zero. -/
def point (grid : ℕ → ℚ) (index : ℤ) : ℚ :=
  if 0 ≤ index then grid index.toNat else -grid (-index).toNat

/-- The index of the point nearest to a number. -/
def index (grid : ℕ → ℚ) (last bits : ℕ) (x : ℚ) : ℤ :=
  if 0 ≤ x then nearest grid last bits x else -nearest grid last bits (-x)

variable {grid : ℕ → ℚ} {x y : ℚ} {last bits : ℕ}

theorem search_spec {bits base : ℕ} (above : grid base ≤ x) (below : x < grid (base + 2 ^ bits)) :
    grid (search grid x bits base) ≤ x ∧ x < grid (search grid x bits base + 1) := by
  induction bits generalizing base with
  | zero => exact ⟨above, below⟩
  | succ bits induction =>
      rw [search]
      split
      · next reached =>
          apply induction reached
          rw [Nat.add_assoc, ← Nat.two_mul, ← Nat.pow_succ']
          exact below
      · next missed => exact induction above (not_le.mp missed)

section Nearest

variable (increasing : StrictMono grid) (enough : last ≤ 2 ^ bits)
include increasing

/-- The cells between neighbouring points are in the order of the numbers in
them. -/
theorem cell_le {low high : ℕ} (lower : grid low ≤ x) (ordered : x ≤ y)
    (upper : y < grid (high + 1)) : low ≤ high := by
  have before : grid low < grid (high + 1) := lt_of_le_of_lt (lower.trans ordered) upper
  exact Nat.lt_succ_iff.mp (increasing.lt_iff_lt.mp before)

include enough

/-- Below the last point a number lies in a cell, and is rounded to one end of
it. -/
theorem exists_cell (fromZero : grid 0 ≤ x) (inside : x < grid last) :
    ∃ low, grid low ≤ x ∧ x < grid (low + 1) ∧ low < last ∧
      nearest grid last bits x =
        if x - grid low < grid (low + 1) - x then low
        else if grid (low + 1) - x < x - grid low then low + 1
        else if low % 2 = 0 then low
        else low + 1 := by
  have below : x < grid (0 + 2 ^ bits) := by
    rw [Nat.zero_add]
    exact lt_of_lt_of_le inside (increasing.monotone enough)
  obtain ⟨lower, upper⟩ := search_spec fromZero below
  refine ⟨search grid x bits 0, lower, upper, ?_, ?_⟩
  · exact increasing.lt_iff_lt.mp (lt_of_le_of_lt lower inside)
  · rw [nearest, if_neg (not_le.mpr inside)]

theorem nearest_le (fromZero : grid 0 ≤ x) : nearest grid last bits x ≤ last := by
  by_cases inside : x < grid last
  · obtain ⟨low, -, -, short, nearestEq⟩ := exists_cell increasing enough fromZero inside
    rw [nearestEq]
    split_ifs <;> omega
  · rw [nearest, if_pos (not_lt.mp inside)]

theorem nearest_mono (fromZero : grid 0 ≤ x) (ordered : x ≤ y) :
    nearest grid last bits x ≤ nearest grid last bits y := by
  by_cases inside : y < grid last
  · obtain ⟨low, lower, upper, -, nearestEq⟩ :=
      exists_cell increasing enough fromZero (lt_of_le_of_lt ordered inside)
    obtain ⟨high, highLower, highUpper, -, highEq⟩ :=
      exists_cell increasing enough (fromZero.trans ordered) inside
    have cells := cell_le increasing lower ordered highUpper
    rw [nearestEq, highEq]
    by_cases same : low = high
    · -- within one cell the larger number is farther up
      subst same
      split_ifs
      all_goals first | omega | (exfalso; linarith)
    · split_ifs <;> omega
  · have atEnd : nearest grid last bits y = last := if_pos (not_lt.mp inside)
    rw [atEnd]
    exact nearest_le increasing enough fromZero

theorem nearest_grid {index : ℕ} (inRange : index ≤ last) :
    nearest grid last bits (grid index) = index := by
  rcases Nat.lt_or_eq_of_le inRange with inside | rfl
  · obtain ⟨low, lower, upper, -, nearestEq⟩ := exists_cell increasing enough
      (increasing.monotone (Nat.zero_le index)) (increasing inside)
    obtain rfl : low = index := by
      apply Nat.le_antisymm
      · exact increasing.le_iff_le.mp lower
      · exact Nat.lt_succ_iff.mp (increasing.lt_iff_lt.mp upper)
    rw [nearestEq, if_pos]
    rw [sub_self]
    exact sub_pos.mpr upper
  · exact if_pos le_rfl

end Nearest

section Signed

variable (increasing : StrictMono grid) (zero : grid 0 = 0) (enough : last ≤ 2 ^ bits)
include increasing zero

theorem grid_nonneg (index : ℕ) : 0 ≤ grid index := by
  rw [← zero]
  exact increasing.monotone (Nat.zero_le index)

omit increasing in
theorem point_neg (place : ℤ) : point grid (-place) = -point grid place := by
  unfold point
  split_ifs with negated sign sign
  · obtain rfl : place = 0 := by omega
    simp [zero]
  · rw [neg_neg]
  · rw [neg_neg]
  · omega

theorem point_strictMono : StrictMono (point grid) := by
  intro low high less
  have nonneg := grid_nonneg increasing zero
  unfold point
  split_ifs with lowSign highSign highSign
  · exact increasing (by omega)
  · omega
  · have positive : grid 0 < grid (-low).toNat := increasing (by omega)
    rw [zero] at positive
    have := nonneg high.toNat
    linarith
  · exact neg_lt_neg (increasing (by omega))

include enough

theorem index_mono (ordered : x ≤ y) : index grid last bits x ≤ index grid last bits y := by
  unfold index
  split_ifs with xSign ySign ySign
  · exact_mod_cast nearest_mono increasing enough (zero.trans_le xSign) ordered
  · exact absurd (xSign.trans ordered) ySign
  · omega
  · rw [neg_le_neg_iff]
    have positive : grid 0 ≤ -y := by
      rw [zero]
      linarith
    exact_mod_cast nearest_mono increasing enough positive (neg_le_neg ordered)

theorem index_bounds (x : ℚ) :
    -(last : ℤ) ≤ index grid last bits x ∧ index grid last bits x ≤ last := by
  unfold index
  split_ifs with sign
  · have bound := nearest_le increasing enough (zero.trans_le sign)
    omega
  · have positive : grid 0 ≤ -x := by
      rw [zero]
      linarith
    have bound := nearest_le increasing enough positive
    omega

theorem index_point {place : ℤ} (lower : -(last : ℤ) ≤ place) (upper : place ≤ last) :
    index grid last bits (point grid place) = place := by
  unfold point index
  split_ifs with sign pointSign pointSign
  · rw [nearest_grid increasing enough (by omega)]
    omega
  · exact absurd (grid_nonneg increasing zero _) pointSign
  · have positive : grid 0 < grid (-place).toNat := increasing (by omega)
    rw [zero] at positive
    linarith
  · rw [neg_neg, nearest_grid increasing enough (by omega)]
    omega

end Signed

end OrderBookExchange.Grid
