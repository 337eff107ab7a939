import Mathlib.Algebra.BigOperators.Group.Finset.Basic
import Mathlib.Data.List.Nodup
import Mathlib.Tactic

/-!
# Counting in lists

Counts that are taken item by item, name by name or key by key, and the totals
they add up to.
-/

namespace OrderBookExchange.ListCounts

variable {Item Entry Key : Type*}

theorem sum_map_indicator (counted : Item → Bool) (items : List Item) :
    (items.map fun item => if counted item then 1 else 0).sum = items.countP counted := by
  induction items with
  | nil => rfl
  | cons item items ih =>
      rw [List.map_cons, List.sum_cons, ih, List.countP_cons, Nat.add_comm]

/-- Entries that name items, counted item by item. -/
theorem sum_countP_named [DecidableEq Key] (name : Entry → Option Key) (key : Item → Key)
    {items : List Item} (nodup : (items.map key).Nodup) {entries : List Entry}
    (known : ∀ entry ∈ entries, ∀ named, name entry = some named → named ∈ items.map key) :
    (items.map fun item => entries.countP fun entry => name entry = some (key item)).sum =
      entries.countP fun entry => (name entry).isSome := by
  induction entries with
  | nil => simp
  | cons entry entries ih =>
      have rest := ih fun other member => known other (List.mem_cons_of_mem _ member)
      simp only [List.countP_cons, List.sum_map_add, rest]
      congr 1
      cases namedEq : name entry with
      | none => simp
      | some named =>
          have once := List.count_eq_one_of_mem nodup
            (known entry List.mem_cons_self named namedEq)
          rw [List.count, List.countP_map, ← sum_map_indicator] at once
          have sameTest : ∀ item, decide (some named = some (key item)) =
              ((fun other => other == named) ∘ key) item := by
            intro item
            by_cases same : key item = named
            · simp [same]
            · have swapped : named ≠ key item := fun eq => same eq.symm
              simp [same, swapped]
          simp only [sameTest, Option.isSome_some, if_true]
          exact once

theorem countP_eq_sum_filter [DecidableEq Key] (key : Item → Key) (keys : Finset Key)
    (counted : Item → Bool) {items : List Item}
    (known : ∀ item ∈ items, counted item = true → key item ∈ keys) :
    items.countP counted =
      ∑ name ∈ keys, (items.filter fun item => key item = name).countP counted := by
  induction items with
  | nil => simp
  | cons item items ih =>
      have rest := ih fun other member => known other (List.mem_cons_of_mem _ member)
      have split : ∀ name, ((item :: items).filter fun item => key item = name).countP counted =
          (items.filter fun item => key item = name).countP counted +
            if key item = name then (if counted item then 1 else 0) else 0 := by
        intro name
        by_cases own : key item = name
        · rw [List.filter_cons_of_pos (by simpa using own), List.countP_cons, if_pos own]
        · rw [List.filter_cons_of_neg (by simpa using own), if_neg own, Nat.add_zero]
      rw [List.countP_cons, rest]
      simp only [split, Finset.sum_add_distrib, Finset.sum_ite_eq]
      by_cases isCounted : counted item = true
      · rw [if_pos (known item List.mem_cons_self isCounted)]
      · simp [isCounted]

/-- Weights of the items with a selected key, added up key by key. -/
theorem sum_selected_eq_sum_keys [DecidableEq Key] (key : Item → Key) (selected : Key → Prop)
    [DecidablePred selected] (weight : Item → Nat) (keys : Finset Key) {items : List Item}
    (known : ∀ item ∈ items, key item ∈ keys) :
    (items.map fun item => if selected (key item) then weight item else 0).sum =
      ∑ name ∈ keys, if selected name then
        (items.map fun item => if key item = name then weight item else 0).sum else 0 := by
  induction items with
  | nil => simp
  | cons item items ih =>
      have rest := ih fun other member => known other (List.mem_cons_of_mem _ member)
      have split : ∀ name, (if selected name then
            ((item :: items).map fun item => if key item = name then weight item else 0).sum
          else 0) =
          (if key item = name then (if selected name then weight item else 0) else 0) +
            if selected name then
              (items.map fun item => if key item = name then weight item else 0).sum else 0 := by
        intro name
        rw [List.map_cons, List.sum_cons]
        split_ifs <;> simp
      rw [List.map_cons, List.sum_cons, rest]
      simp only [split, Finset.sum_add_distrib, Finset.sum_ite_eq,
        if_pos (known item List.mem_cons_self)]

theorem sum_map_set (weight : Item → Nat) {items : List Item} {index : Nat} {old : Item}
    (found : items[index]? = some old) (new : Item) :
    ((items.set index new).map weight).sum + weight old = (items.map weight).sum + weight new := by
  induction items generalizing index with
  | nil => simp at found
  | cons item items induction =>
      cases index with
      | zero =>
          obtain rfl := Option.some.inj found
          rw [List.set_cons_zero, List.map_cons, List.map_cons, List.sum_cons, List.sum_cons]
          omega
      | succ index =>
          have rest := induction found
          rw [List.set_cons_succ, List.map_cons, List.map_cons, List.sum_cons, List.sum_cons]
          omega

end OrderBookExchange.ListCounts
