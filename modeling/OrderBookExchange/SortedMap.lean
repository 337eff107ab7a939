import Mathlib.Data.List.Basic
import Mathlib.Tactic

/-!
# Sorted maps as association lists

A `std::map` with comparator `before` is the list of its entries in comparator
order.  Lookups walk to the first key that is not before the wanted one, which
is what `lower_bound` returns, and accept it when the two keys are equivalent.
The comparator only has to be a strict order on the keys that are in use.
-/

namespace OrderBookExchange.SortedMap

variable {Key Value : Type*}

/-- The comparator is a strict total order on the keys satisfying `valid`. -/
structure StrictOn (valid : Key → Prop) (before : Key → Key → Bool) : Prop where
  asymm : ∀ {first second}, valid first → valid second →
    before first second = true → before second first = false
  trans : ∀ {first second third}, valid first → valid second → valid third →
    before first second = true → before second third = true →
      before first third = true
  eq_of_unordered : ∀ {first second}, valid first → valid second →
    before first second = false → before second first = false → first = second

/-- The value stored at a key, as `map::find` reports it. -/
def find? (before : Key → Key → Bool) (key : Key) :
    List (Key × Value) → Option Value
  | [] => none
  | (entryKey, value) :: rest =>
      if before entryKey key then find? before key rest
      else if before key entryKey then none
      else some value

/-- `map::operator[]` followed by an update of the value it refers to: an
absent key is first inserted with the value `initial`. -/
def upsert (before : Key → Key → Bool) (key : Key) (initial : Value)
    (update : Value → Value) : List (Key × Value) → List (Key × Value)
  | [] => [(key, update initial)]
  | (entryKey, value) :: rest =>
      if before entryKey key then
        (entryKey, value) :: upsert before key initial update rest
      else if before key entryKey then
        (key, update initial) :: (entryKey, value) :: rest
      else (entryKey, update value) :: rest

/-- Remove the entry at a key, if there is one. -/
def erase (before : Key → Key → Bool) (key : Key) :
    List (Key × Value) → List (Key × Value)
  | [] => []
  | (entryKey, value) :: rest =>
      if before entryKey key then (entryKey, value) :: erase before key rest
      else if before key entryKey then (entryKey, value) :: rest
      else rest

/-- Keys strictly follow one another in comparator order. -/
def Sorted (before : Key → Key → Bool) (entries : List (Key × Value)) : Prop :=
  entries.Pairwise fun first second => before first.1 second.1 = true

/-- Every key of the map satisfies `valid`. -/
def KeysValid (valid : Key → Prop) (entries : List (Key × Value)) : Prop :=
  ∀ entry ∈ entries, valid entry.1

section Image

variable {OtherKey OtherValue : Type*} {before : Key → Key → Bool}
  {otherBefore : OtherKey → OtherKey → Bool} {onKey : Key → OtherKey} {key : Key}
  {entries : List (Key × Value)}

/-- Images of keys compare with the image of a key as the keys do with it. -/
def Comparable (before : Key → Key → Bool) (otherBefore : OtherKey → OtherKey → Bool)
    (onKey : Key → OtherKey) (key : Key) (entries : List (Key × Value)) : Prop :=
  ∀ entry ∈ entries, otherBefore (onKey entry.1) (onKey key) = before entry.1 key ∧
    otherBefore (onKey key) (onKey entry.1) = before key entry.1

theorem Comparable.tail {entry : Key × Value}
    (comparable : Comparable before otherBefore onKey key (entry :: entries)) :
    Comparable before otherBefore onKey key entries :=
  fun other member => comparable other (List.mem_cons_of_mem entry member)

theorem comparable_id (before : Key → Key → Bool) (key : Key) (entries : List (Key × Value)) :
    Comparable before before id key entries :=
  fun _ _ => ⟨rfl, rfl⟩

variable (onValue : Value → OtherValue)

theorem find?_map (comparable : Comparable before otherBefore onKey key entries) :
    find? otherBefore (onKey key) (entries.map (Prod.map onKey onValue)) =
      (find? before key entries).map onValue := by
  induction entries with
  | nil => rfl
  | cons entry entries ih =>
      obtain ⟨entryKey, value⟩ := entry
      obtain ⟨after, ahead⟩ := comparable (entryKey, value) List.mem_cons_self
      rw [List.map_cons, Prod.map_apply, find?, find?, after, ahead, ih comparable.tail]
      split
      · rfl
      · split <;> rfl

theorem upsert_map (initial : Value) {update : Value → Value}
    {otherUpdate : OtherValue → OtherValue}
    (updates : ∀ value, otherUpdate (onValue value) = onValue (update value))
    (comparable : Comparable before otherBefore onKey key entries) :
    upsert otherBefore (onKey key) (onValue initial) otherUpdate
        (entries.map (Prod.map onKey onValue)) =
      (upsert before key initial update entries).map (Prod.map onKey onValue) := by
  induction entries with
  | nil => simp [upsert, updates]
  | cons entry entries ih =>
      obtain ⟨entryKey, value⟩ := entry
      obtain ⟨after, ahead⟩ := comparable (entryKey, value) List.mem_cons_self
      rw [List.map_cons, Prod.map_apply, upsert, upsert, after, ahead, ih comparable.tail]
      split
      · rfl
      · split <;> simp [updates]

theorem erase_map (comparable : Comparable before otherBefore onKey key entries) :
    erase otherBefore (onKey key) (entries.map (Prod.map onKey onValue)) =
      (erase before key entries).map (Prod.map onKey onValue) := by
  induction entries with
  | nil => rfl
  | cons entry entries ih =>
      obtain ⟨entryKey, value⟩ := entry
      obtain ⟨after, ahead⟩ := comparable (entryKey, value) List.mem_cons_self
      rw [List.map_cons, Prod.map_apply, erase, erase, after, ahead, ih comparable.tail]
      split
      · rfl
      · split <;> rfl

end Image

section Groups

variable {Item OtherKey OtherItem : Type*} {keyOf : Item → Key}
  {entries others : List (Key × List Item)}

/-- Every entry holds the items of its own key, and at least one. -/
structure Grouped (keyOf : Item → Key) (entries : List (Key × List Item)) : Prop where
  distinct : entries.Pairwise fun first second => first.1 ≠ second.1
  nonempty : ∀ entry ∈ entries, entry.2 ≠ []
  keyed : ∀ entry ∈ entries, ∀ item ∈ entry.2, keyOf item = entry.1

theorem Grouped.tail {entry : Key × List Item} (grouped : Grouped keyOf (entry :: entries)) :
    Grouped keyOf entries where
  distinct := grouped.distinct.tail
  nonempty := fun other member => grouped.nonempty other (List.mem_cons_of_mem entry member)
  keyed := fun other member => grouped.keyed other (List.mem_cons_of_mem entry member)

theorem Grouped.filter_key [DecidableEq Key] {entry : Key × List Item}
    (grouped : Grouped keyOf (entry :: entries)) :
    ((entry :: entries).flatMap Prod.snd).filter (fun item => keyOf item = entry.1) = entry.2 := by
  have own : entry.2.filter (fun item => keyOf item = entry.1) = entry.2 := by
    rw [List.filter_eq_self]
    intro item member
    simpa using grouped.keyed entry List.mem_cons_self item member
  have foreign : (entries.flatMap Prod.snd).filter (fun item => keyOf item = entry.1) = [] := by
    rw [List.filter_eq_nil_iff]
    intro item member
    obtain ⟨other, onRest, inOther⟩ := List.mem_flatMap.mp member
    have otherKey := grouped.tail.keyed other onRest item inOther
    have different := (List.pairwise_cons.mp grouped.distinct).1 other onRest
    simpa [otherKey] using different.symm
  rw [List.flatMap_cons, List.filter_append, own, foreign, List.append_nil]

/-- Grouped entries are determined by the items in order. -/
theorem Grouped.ext (grouped : Grouped keyOf entries) (othersGrouped : Grouped keyOf others)
    (sameItems : entries.flatMap Prod.snd = others.flatMap Prod.snd) : entries = others := by
  classical
  induction entries generalizing others with
  | nil =>
      cases others with
      | nil => rfl
      | cons other others =>
          have empty : other.2 = [] := (List.append_eq_nil_iff.mp sameItems.symm).1
          exact absurd empty (othersGrouped.nonempty other List.mem_cons_self)
  | cons entry entries ih =>
      obtain ⟨first, rest, shape⟩ :=
        List.exists_cons_of_ne_nil (grouped.nonempty entry List.mem_cons_self)
      have firstKey : keyOf first = entry.1 :=
        grouped.keyed entry List.mem_cons_self first (by simp [shape])
      cases others with
      | nil => simp [shape] at sameItems
      | cons other others =>
          obtain ⟨otherFirst, otherRest, otherShape⟩ :=
            List.exists_cons_of_ne_nil (othersGrouped.nonempty other List.mem_cons_self)
          have otherKey : keyOf otherFirst = other.1 :=
            othersGrouped.keyed other List.mem_cons_self otherFirst (by simp [otherShape])
          have sameFirst : first = otherFirst := by
            simp only [List.flatMap_cons, shape, otherShape, List.cons_append,
              List.cons.injEq] at sameItems
            exact sameItems.1
          have sameKey : entry.1 = other.1 := by rw [← firstKey, ← otherKey, sameFirst]
          have sameGroup : entry.2 = other.2 := by
            rw [← grouped.filter_key, sameItems, sameKey, othersGrouped.filter_key]
          have sameRest : entries.flatMap Prod.snd = others.flatMap Prod.snd := by
            rw [List.flatMap_cons, List.flatMap_cons, sameGroup] at sameItems
            exact List.append_cancel_left sameItems
          rw [Prod.ext sameKey sameGroup, ih grouped.tail othersGrouped.tail sameRest]

theorem Grouped.map {otherKeyOf : OtherItem → OtherKey} {onKey : Key → OtherKey}
    {onItem : Item → OtherItem} (grouped : Grouped keyOf entries)
    (injective : Function.Injective onKey)
    (keys : ∀ item, otherKeyOf (onItem item) = onKey (keyOf item)) :
    Grouped otherKeyOf (entries.map (Prod.map onKey (List.map onItem))) where
  distinct := by
    rw [List.pairwise_map]
    exact grouped.distinct.imp fun different same => different (injective same)
  nonempty := by
    intro other member
    obtain ⟨entry, onEntries, rfl⟩ := List.mem_map.mp member
    simpa using grouped.nonempty entry onEntries
  keyed := by
    intro other member item inOther
    obtain ⟨entry, onEntries, rfl⟩ := List.mem_map.mp member
    obtain ⟨older, inEntry, rfl⟩ := List.mem_map.mp inOther
    rw [keys, grouped.keyed entry onEntries older inEntry]
    rfl

end Groups

section Split

variable {valid : Key → Prop} {before : Key → Key → Bool}

theorem StrictOn.irrefl (strict : StrictOn valid before) {key : Key}
    (keyValid : valid key) : before key key = false := by
  cases reflexive : before key key with
  | false => rfl
  | true =>
      have := strict.asymm keyValid keyValid reflexive
      simp_all

/-- The place of a key in a sorted map: the entries before it, the entry at
it if there is one, and the entries after it. -/
theorem exists_split (strict : StrictOn valid before)
    {entries : List (Key × Value)} (sorted : Sorted before entries)
    (keysValid : KeysValid valid entries) {key : Key} (keyValid : valid key) :
    ∃ front back, (∀ entry ∈ front, before entry.1 key = true) ∧
      (∀ entry ∈ back, before key entry.1 = true) ∧
      (entries = front ++ back ∨
        ∃ value, entries = front ++ (key, value) :: back) := by
  induction entries with
  | nil => exact ⟨[], [], by simp, by simp, Or.inl rfl⟩
  | cons entry entries ih =>
      obtain ⟨entryKey, value⟩ := entry
      rw [Sorted, List.pairwise_cons] at sorted
      have entryValid : valid entryKey := keysValid (entryKey, value) (by simp)
      have restValid : KeysValid valid entries :=
        fun other member => keysValid other (by simp [member])
      cases entryFirst : before entryKey key with
      | true =>
          obtain ⟨front, back, frontBefore, backAfter, shape⟩ :=
            ih sorted.2 restValid
          refine ⟨(entryKey, value) :: front, back, ?_, backAfter, ?_⟩
          · simpa [entryFirst] using frontBefore
          · rcases shape with absent | ⟨found, present⟩
            · exact Or.inl (by rw [absent]; rfl)
            · exact Or.inr ⟨found, by rw [present]; rfl⟩
      | false =>
          cases keyFirst : before key entryKey with
          | true =>
              refine ⟨[], (entryKey, value) :: entries, by simp, ?_, Or.inl rfl⟩
              intro other member
              rcases List.mem_cons.mp member with rfl | member
              · exact keyFirst
              · exact strict.trans keyValid entryValid (restValid other member)
                  keyFirst (sorted.1 other member)
          | false =>
              have same := strict.eq_of_unordered entryValid keyValid
                entryFirst keyFirst
              subst same
              exact ⟨[], entries, by simp, sorted.1, Or.inr ⟨value, rfl⟩⟩

variable {front back : List (Key × Value)} {key : Key}

theorem upsert_of_absent {initial : Value} {update : Value → Value}
    (strict : StrictOn valid before) (keyValid : valid key)
    (backValid : KeysValid valid back)
    (frontBefore : ∀ entry ∈ front, before entry.1 key = true)
    (backAfter : ∀ entry ∈ back, before key entry.1 = true) :
    upsert before key initial update (front ++ back) =
      front ++ (key, update initial) :: back := by
  induction front with
  | nil =>
      cases back with
      | nil => rfl
      | cons entry back =>
          have keyFirst := backAfter entry (by simp)
          have entryNot := strict.asymm keyValid (backValid entry (by simp)) keyFirst
          simp [upsert, keyFirst, entryNot]
  | cons entry front ih =>
      have entryFirst := frontBefore entry (by simp)
      simp [upsert, entryFirst,
        ih fun other member => frontBefore other (by simp [member])]

theorem upsert_of_present {initial value : Value} {update : Value → Value}
    (strict : StrictOn valid before) (keyValid : valid key)
    (frontBefore : ∀ entry ∈ front, before entry.1 key = true) :
    upsert before key initial update (front ++ (key, value) :: back) =
      front ++ (key, update value) :: back := by
  induction front with
  | nil => simp [upsert, strict.irrefl keyValid]
  | cons entry front ih =>
      have entryFirst := frontBefore entry (by simp)
      simp [upsert, entryFirst,
        ih fun other member => frontBefore other (by simp [member])]

theorem find?_of_present {value : Value}
    (strict : StrictOn valid before) (keyValid : valid key)
    (frontBefore : ∀ entry ∈ front, before entry.1 key = true) :
    find? before key (front ++ (key, value) :: back) = some value := by
  induction front with
  | nil => simp [find?, strict.irrefl keyValid]
  | cons entry front ih =>
      have entryFirst := frontBefore entry (by simp)
      simp [find?, entryFirst,
        ih fun other member => frontBefore other (by simp [member])]

theorem erase_of_present {value : Value}
    (strict : StrictOn valid before) (keyValid : valid key)
    (frontBefore : ∀ entry ∈ front, before entry.1 key = true) :
    erase before key (front ++ (key, value) :: back) = front ++ back := by
  induction front with
  | nil => simp [erase, strict.irrefl keyValid]
  | cons entry front ih =>
      have entryFirst := frontBefore entry (by simp)
      simp [erase, entryFirst,
        ih fun other member => frontBefore other (by simp [member])]

theorem sorted_split_iff {value : Value} :
    Sorted before (front ++ (key, value) :: back) ↔
      Sorted before front ∧ Sorted before back ∧
        (∀ entry ∈ front, before entry.1 key = true) ∧
        (∀ entry ∈ back, before key entry.1 = true) ∧
        ∀ first ∈ front, ∀ last ∈ back, before first.1 last.1 = true := by
  simp only [Sorted, List.pairwise_append, List.pairwise_cons, List.mem_cons,
    forall_eq_or_imp, forall_and]
  tauto

end Split

/-! ### Keys the comparator cannot place

A key that compares with nothing is equivalent to every key.  It can only be
the single key of a map, and a lookup of it ends at the first entry. -/

/-- An entry after an update is an old one, the updated one or a new one. -/
theorem mem_upsert {before : Key → Key → Bool} {key : Key} {initial : Value}
    {update : Value → Value} {entries : List (Key × Value)} {entry : Key × Value}
    (member : entry ∈ upsert before key initial update entries) :
    entry ∈ entries ∨ entry = (key, update initial) ∨
      ∃ older ∈ entries, before older.1 key = false ∧ before key older.1 = false ∧
        entry = (older.1, update older.2) := by
  induction entries with
  | nil => exact Or.inr (Or.inl (List.mem_singleton.mp member))
  | cons head entries ih =>
      rw [upsert] at member
      split at member
      · rcases List.mem_cons.mp member with rfl | later
        · exact Or.inl List.mem_cons_self
        · rcases ih later with old | new | ⟨older, inEntries, updated⟩
          · exact Or.inl (List.mem_cons_of_mem head old)
          · exact Or.inr (Or.inl new)
          · exact Or.inr (Or.inr ⟨older, List.mem_cons_of_mem head inEntries, updated⟩)
      · next notEarlier =>
          split at member
          · rcases List.mem_cons.mp member with rfl | old
            · exact Or.inr (Or.inl rfl)
            · exact Or.inl old
          · next notLater =>
              rcases List.mem_cons.mp member with rfl | old
              · exact Or.inr (Or.inr ⟨head, List.mem_cons_self,
                  Bool.eq_false_of_not_eq_true notEarlier,
                  Bool.eq_false_of_not_eq_true notLater, rfl⟩)
              · exact Or.inl (List.mem_cons_of_mem head old)

section Lined

variable {valid : Key → Prop} {before : Key → Key → Bool} {key : Key}
  {entries : List (Key × Value)}

/-- The keys are sorted and valid, or there is at most one. -/
def Lined (valid : Key → Prop) (before : Key → Key → Bool) (entries : List (Key × Value)) :
    Prop :=
  Sorted before entries ∧ KeysValid valid entries ∨ entries.length ≤ 1

theorem Lined.sublist {fewer : List (Key × Value)} (lined : Lined valid before entries)
    (sublist : fewer.Sublist entries) : Lined valid before fewer := by
  rcases lined with ⟨sorted, keysValid⟩ | single
  · exact Or.inl ⟨List.Pairwise.sublist sublist sorted,
      fun entry member => keysValid entry (sublist.subset member)⟩
  · exact Or.inr (sublist.length_le.trans single)

theorem Lined.map {OtherValue : Type*} (lined : Lined valid before entries)
    (onValue : Value → OtherValue) :
    Lined valid before (entries.map (Prod.map id onValue)) := by
  rcases lined with ⟨sorted, keysValid⟩ | single
  · left
    refine ⟨?_, ?_⟩
    · rw [Sorted, List.pairwise_map]
      exact sorted
    · intro entry member
      obtain ⟨older, inEntries, rfl⟩ := List.mem_map.mp member
      exact keysValid older inEntries
  · exact Or.inr (by rwa [List.length_map])

theorem erase_sublist (before : Key → Key → Bool) (key : Key) (entries : List (Key × Value)) :
    (erase before key entries).Sublist entries := by
  induction entries with
  | nil => exact List.Sublist.refl []
  | cons entry entries ih =>
      rw [erase]
      split
      · exact ih.cons_cons entry
      · split
        · exact List.Sublist.refl _
        · exact List.sublist_cons_self entry entries

theorem Lined.upsert (lined : Lined valid before entries) (strict : StrictOn valid before)
    (ordered : ∀ {first second}, before first second = true → valid first ∧ valid second)
    (key : Key) (initial : Value) (update : Value → Value) :
    Lined valid before (upsert before key initial update entries) := by
  rcases lined with ⟨sorted, keysValid⟩ | single
  · by_cases keyValid : valid key
    · obtain ⟨front, back, frontBefore, backAfter, shape⟩ :=
        exists_split strict sorted keysValid keyValid
      have placed : ∃ value, SortedMap.upsert before key initial update entries =
          front ++ (key, value) :: back := by
        rcases shape with absent | ⟨value, present⟩
        · have backValid : KeysValid valid back :=
            fun entry member => keysValid entry (by simp [absent, member])
          exact ⟨update initial, by
            rw [absent, upsert_of_absent strict keyValid backValid frontBefore backAfter]⟩
        · exact ⟨update value, by
            rw [present, upsert_of_present strict keyValid frontBefore]⟩
      have around : ∀ entry ∈ front ++ back, entry ∈ entries := by
        intro entry member
        rcases shape with absent | ⟨value, present⟩
        · rwa [absent]
        · rw [present]
          simp only [List.mem_append, List.mem_cons] at member ⊢
          tauto
      have apart : (front ++ back).Sublist entries := by
        rcases shape with absent | ⟨value, present⟩
        · rw [absent]
        · rw [present]
          exact (List.sublist_cons_self _ _).append_left front
      have split := List.pairwise_append.mp (List.Pairwise.sublist apart sorted)
      obtain ⟨value, placed⟩ := placed
      rw [placed]
      refine Or.inl ⟨sorted_split_iff.mpr
        ⟨split.1, split.2.1, frontBefore, backAfter, split.2.2⟩, ?_⟩
      intro entry member
      rw [List.mem_append, List.mem_cons] at member
      rcases member with inFront | rfl | inBack
      · exact keysValid entry (around entry (by simp [inFront]))
      · exact keyValid
      · exact keysValid entry (around entry (by simp [inBack]))
    · cases entries with
      | nil => exact Or.inr le_rfl
      | cons entry entries =>
          have notEarlier : ¬before entry.1 key = true := fun earlier => keyValid (ordered earlier).2
          have notLater : ¬before key entry.1 = true := fun later => keyValid (ordered later).1
          rw [SortedMap.upsert, if_neg notEarlier, if_neg notLater]
          rw [Sorted, List.pairwise_cons] at sorted
          refine Or.inl ⟨List.pairwise_cons.mpr sorted, ?_⟩
          intro other member
          rcases List.mem_cons.mp member with rfl | inRest
          · exact keysValid entry List.mem_cons_self
          · exact keysValid other (List.mem_cons_of_mem entry inRest)
  · cases entries with
    | nil => exact Or.inr le_rfl
    | cons entry entries =>
        have alone : entries = [] := List.eq_nil_of_length_eq_zero (by simpa using single)
        subst alone
        rw [SortedMap.upsert]
        split
        · next earlier =>
            left
            simp only [SortedMap.upsert, Sorted, KeysValid, List.pairwise_cons, List.mem_cons,
              List.not_mem_nil, or_false, forall_eq_or_imp, forall_eq]
            exact ⟨by simpa using earlier, (ordered earlier).1, (ordered earlier).2⟩
        · split
          · next later =>
              left
              simp only [Sorted, KeysValid, List.pairwise_cons, List.mem_cons,
                List.not_mem_nil, or_false, forall_eq_or_imp, forall_eq]
              exact ⟨by simpa using later, (ordered later).1, (ordered later).2⟩
          · exact Or.inr le_rfl

end Lined

section Cleanup

variable {Item OtherItem : Type*} {valid : Key → Prop} {before : Key → Key → Bool} {key : Key}
  {entries : List (Key × List Item)}

/-- Remove the entry at a key once its list is empty. -/
def cleanup (before : Key → Key → Bool) (key : Key) (entries : List (Key × List Item)) :
    List (Key × List Item) :=
  match find? before key entries with
  | some [] => erase before key entries
  | _ => entries

theorem cleanup_sublist (before : Key → Key → Bool) (key : Key)
    (entries : List (Key × List Item)) : (cleanup before key entries).Sublist entries := by
  unfold cleanup
  split
  · exact erase_sublist before key entries
  · exact List.Sublist.refl entries

theorem cleanup_map (onItem : Item → OtherItem) (entries : List (Key × List Item)) :
    cleanup before key (entries.map (Prod.map id (List.map onItem))) =
      (cleanup before key entries).map (Prod.map id (List.map onItem)) := by
  have comparable := comparable_id before key entries
  have found := find?_map (List.map onItem) comparable
  have erased := erase_map (List.map onItem) comparable
  rw [id_eq] at found erased
  unfold cleanup
  rw [found]
  cases find? before key entries with
  | none => rfl
  | some items =>
      cases items with
      | nil => exact erased
      | cons item items => rfl

theorem cleanup_cons_of_earlier {entry : Key × List Item} (earlier : before entry.1 key = true) :
    cleanup before key (entry :: entries) = entry :: cleanup before key entries := by
  unfold cleanup
  rw [find?, if_pos earlier, erase, if_pos earlier]
  split <;> rfl

theorem cleanup_cons {entryKey : Key} {items : List Item} (notEarlier : before entryKey key = false)
    (notLater : before key entryKey = false) :
    cleanup before key ((entryKey, items) :: entries) =
      if items = [] then entries else (entryKey, items) :: entries := by
  unfold cleanup
  rw [find?, notEarlier, notLater]
  cases items with
  | nil => simp [erase, notEarlier, notLater]
  | cons item items => simp

/-- A subscript does not depend on the lists, as long as the new one is empty. -/
theorem upsert_id_map {onItems : List Item → List OtherItem} (nil : onItems [] = []) :
    upsert before key [] id (entries.map (Prod.map id onItems)) =
      (upsert before key [] id entries).map (Prod.map id onItems) := by
  have mapped := upsert_map onItems [] (fun _ => rfl : ∀ items, id (onItems items) =
    onItems (id items)) (comparable_id before key entries)
  rwa [nil] at mapped

theorem cleanup_upsert_id (irrefl : before key key = false) (entries : List (Key × List Item)) :
    cleanup before key (upsert before key [] id entries) = cleanup before key entries := by
  induction entries with
  | nil => simp [upsert, cleanup, find?, erase, irrefl]
  | cons entry entries ih =>
      obtain ⟨entryKey, items⟩ := entry
      rw [upsert]
      split
      · next earlier =>
          rw [cleanup_cons_of_earlier earlier, cleanup_cons_of_earlier earlier, ih]
      · next notEarlier =>
          split
          · next later =>
              rw [id_eq, cleanup_cons irrefl irrefl, if_pos rfl, cleanup, find?, if_neg notEarlier,
                if_pos later]
          · rfl

theorem find?_of_absent {Value : Type*} {front back : List (Key × Value)}
    (frontBefore : ∀ entry ∈ front, before entry.1 key = true)
    (backAfter : ∀ entry ∈ back, before key entry.1 = true)
    (backNot : ∀ entry ∈ back, before entry.1 key = false) :
    find? before key (front ++ back) = none := by
  induction front with
  | nil =>
      cases back with
      | nil => rfl
      | cons entry back =>
          simp [find?, backNot entry (by simp), backAfter entry (by simp)]
  | cons entry front ih =>
      have entryFirst := frontBefore entry (by simp)
      simp [find?, entryFirst, ih fun other member => frontBefore other (by simp [member])]

theorem Lined.cleanup_cleanup (lined : Lined valid before entries)
    (strict : StrictOn valid before) (keyValid : valid key) :
    cleanup before key (cleanup before key entries) = cleanup before key entries := by
  rcases lined with ⟨sorted, keysValid⟩ | single
  · obtain ⟨front, back, frontBefore, backAfter, shape⟩ :=
      exists_split strict sorted keysValid keyValid
    have absentNow : back.all (fun entry => !before entry.1 key) = true →
        cleanup before key (front ++ back) = front ++ back := by
      intro backNot
      unfold cleanup
      rw [find?_of_absent frontBefore backAfter (by simpa using backNot)]
    have backNot : back.all (fun entry => !before entry.1 key) = true := by
      rw [List.all_eq_true]
      intro entry member
      have entryValid : valid entry.1 := by
        apply keysValid entry
        rcases shape with absent | ⟨value, present⟩
        · simp [absent, member]
        · simp [present, member]
      simpa using strict.asymm keyValid entryValid (backAfter entry member)
    rcases shape with absent | ⟨items, present⟩
    · rw [absent, absentNow backNot, absentNow backNot]
    · cases items with
      | nil =>
          have cleaned : cleanup before key entries = front ++ back := by
            unfold cleanup
            rw [present, find?_of_present strict keyValid frontBefore]
            exact erase_of_present strict keyValid frontBefore
          rw [cleaned, absentNow backNot]
      | cons item items =>
          have kept : cleanup before key entries = entries := by
            unfold cleanup
            rw [present, find?_of_present strict keyValid frontBefore]
          rw [kept, kept]
  · have fewer := (cleanup_sublist before key entries).length_le
    cases cleaned : cleanup before key entries with
    | nil => rfl
    | cons entry rest =>
        have same : cleanup before key entries = entries := by
          apply (cleanup_sublist before key entries).eq_of_length_le
          rw [cleaned, List.length_cons]
          omega
        rw [← cleaned, same, same]

end Cleanup

end OrderBookExchange.SortedMap
