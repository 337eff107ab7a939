import Mathlib.Algebra.Order.BigOperators.Group.List
import Mathlib.Tactic

/-!
# Taking the cheapest units first

Offers stand in a list by rising unit cost, and each has so many units.  Of all
the ways to take a given number of units, one that goes to the next offer only
when the ones ahead are used up costs the least.  There is a cost, the margin,
below which such a plan takes everything and above which it takes nothing, and
any other plan with as many units moves some of them from below the margin to
above it.
-/

namespace OrderBookExchange.CheapestFill

variable {Offer Cost : Type*} {units taken other : Offer → Nat} {offers : List Offer}

/-- A plan that takes from an offer only when the ones ahead are used up. -/
def FrontLoaded (units taken : Offer → Nat) (offers : List Offer) : Prop :=
  offers.Pairwise fun ahead behind => taken behind ≠ 0 → taken ahead = units ahead

variable [CommRing Cost] [LinearOrder Cost] {cost : Offer → Cost}

/-- What a plan costs. -/
def outlay (cost : Offer → Cost) (taken : Offer → Nat) (offers : List Offer) : Cost :=
  (offers.map fun offer => cost offer * taken offer).sum

/-- Everything below the margin is taken and nothing above it. -/
def IsMargin (units taken : Offer → Nat) (cost : Offer → Cost) (offers : List Offer)
    (margin : Cost) : Prop :=
  ∀ offer ∈ offers, (cost offer < margin → taken offer = units offer) ∧
    (margin < cost offer → taken offer = 0)

theorem exists_isMargin (sorted : offers.Pairwise fun ahead behind => cost ahead ≤ cost behind)
    (loaded : FrontLoaded units taken offers) :
    ∃ margin, IsMargin units taken cost offers margin := by
  induction offers with
  | nil => exact ⟨0, by simp [IsMargin]⟩
  | cons head rest induction =>
      rw [List.pairwise_cons] at sorted
      rw [FrontLoaded, List.pairwise_cons] at loaded
      by_cases untouched : ∀ offer ∈ rest, taken offer = 0
      · -- the plan ends with the head
        refine ⟨cost head, ?_⟩
        intro offer member
        rcases List.mem_cons.mp member with rfl | behind
        · simp
        · constructor
          · intro below
            exact absurd below (not_lt.mpr (sorted.1 offer behind))
          · intro _
            exact untouched offer behind
      · simp only [not_forall] at untouched
        obtain ⟨later, laterMem, touched⟩ := untouched
        have usedUp : taken head = units head := loaded.1 later laterMem touched
        obtain ⟨margin, isMargin⟩ := induction sorted.2 loaded.2
        refine ⟨max margin (cost head), ?_⟩
        intro offer member
        rcases List.mem_cons.mp member with rfl | behind
        · simp [usedUp]
        · constructor
          · intro below
            rcases lt_max_iff.mp below with belowMargin | belowHead
            · exact (isMargin offer behind).1 belowMargin
            · exact absurd belowHead (not_lt.mpr (sorted.1 offer behind))
          · intro above
            exact (isMargin offer behind).2 ((le_max_left _ _).trans_lt above)

variable [IsStrictOrderedRing Cost]

/-- The units another plan takes elsewhere cost at least the margin, and the ones
it leaves cost at most that. -/
theorem IsMargin.exchange {margin : Cost} (isMargin : IsMargin units taken cost offers margin)
    (within : ∀ offer ∈ offers, other offer ≤ units offer) {offer : Offer}
    (member : offer ∈ offers) :
    margin * other offer + cost offer * taken offer ≤
      margin * taken offer + cost offer * other offer := by
  have factored : 0 ≤ (cost offer - margin) * ((other offer : Cost) - taken offer) := by
    rcases lt_trichotomy (cost offer) margin with below | level | above
    · apply mul_nonneg_of_nonpos_of_nonpos
      · exact sub_nonpos.mpr below.le
      · rw [(isMargin offer member).1 below]
        exact sub_nonpos.mpr (Nat.cast_le.mpr (within offer member))
    · simp [level]
    · apply mul_nonneg
      · exact sub_nonneg.mpr above.le
      · simp [(isMargin offer member).2 above]
  linear_combination factored

/-- No plan with as many units costs less than a front-loaded one. -/
theorem FrontLoaded.outlay_le (loaded : FrontLoaded units taken offers)
    (sorted : offers.Pairwise fun ahead behind => cost ahead ≤ cost behind)
    (within : ∀ offer ∈ offers, other offer ≤ units offer)
    (sameUnits : (offers.map other).sum = (offers.map taken).sum) :
    outlay cost taken offers ≤ outlay cost other offers := by
  obtain ⟨margin, isMargin⟩ := exists_isMargin sorted loaded
  have exchanged := List.sum_le_sum fun offer member =>
    isMargin.exchange within member
  have atMargin (plan : Offer → Nat) : (offers.map fun offer => margin * (plan offer : Cost)).sum =
      margin * ((offers.map plan).sum : Nat) := by
    rw [List.sum_map_mul_left, Nat.cast_list_sum, List.map_map]
    rfl
  rw [List.sum_map_add, List.sum_map_add, atMargin, atMargin, sameUnits] at exchanged
  exact le_of_add_le_add_left exchanged

end OrderBookExchange.CheapestFill
