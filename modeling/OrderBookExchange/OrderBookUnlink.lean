import OrderBookExchange.OrderBookInvariant

/-!
# Unlinking an order

Cancelling an order and removing a filled one splice its node out of the level,
drop the level when that was its last node, forget the index entry and release
the pool object.  These steps together keep the representation invariant, and
they take exactly one node off the queues.
-/

namespace OrderBookExchange.OrderBook

section Unlink

variable (book : OrderBook) (id : Nat) (location : OrderLocation) (ptr : Nat)

theorem cleanupPriceLevel_eq (side : Side) (price : Price) :
    book.cleanupPriceLevel side price =
      book.withLevels side.isBuy
        ((book.cleanupPriceLevel side price).levels side.isBuy) := by
  unfold cleanupPriceLevel
  split
  · cases side.isBuy <;> rfl
  · cases side.isBuy <;> rfl

theorem levels_unlink_other {buy : Bool} (other : buy ≠ location.side.isBuy) :
    (book.unlink id location ptr).levels buy = book.levels buy := by
  have cleaned : (book.unlink id location ptr).levels buy =
      ((book.eraseNode location).cleanupPriceLevel location.side
        location.price).levels buy := by
    cases buy <;> rfl
  rw [cleaned, cleanupPriceLevel_eq, levels_withLevels, if_neg other, eraseNode,
    levels_withLevels, if_neg other]

@[simp]
theorem orderLookup_unlink :
    (book.unlink id location ptr).orderLookup = book.orderLookup.erase id := by
  rw [unlink, cleanupPriceLevel_eq]
  simp [eraseNode]

@[simp]
theorem orderPool_unlink :
    (book.unlink id location ptr).orderPool = book.orderPool.release ptr := by
  rw [unlink, cleanupPriceLevel_eq]
  simp [eraseNode]

@[simp]
theorem nextOrderId_unlink :
    (book.unlink id location ptr).nextOrderId = book.nextOrderId := by
  rw [unlink, cleanupPriceLevel_eq]
  simp [eraseNode]

@[simp]
theorem load_unlink (other : Nat) :
    (book.unlink id location ptr).load other = book.load other := by
  simp [load]

/-- A level whose queue may have become empty, in which case it is gone. -/
def keptLevel (price : Price) (level : PriceLevel) : List (Price × PriceLevel) :=
  if level = [] then [] else [(price, level)]

theorem map_erase_of_absent {levels : List (Price × PriceLevel)} {ptr : Nat}
    (absent : ∀ entry ∈ levels, ptr ∉ entry.2) :
    (levels.map fun level => (level.1, level.2.erase ptr)) = levels := by
  conv_rhs => rw [← List.map_id levels]
  apply List.map_congr_left
  intro entry member
  rw [List.erase_of_not_mem (absent entry member), id_eq]

variable {book id location}

/-- The map of the order's side before and after it is spliced out. -/
theorem Valid.unlink_split (valid : book.Valid)
    (found : book.orderLookup.lookup id = some location) :
    ∃ front level back,
      book.levels location.side.isBuy = front ++ (location.price, level) :: back ∧
      location.iterator ∈ level ∧
      (∀ entry ∈ front ++ back, location.iterator ∉ entry.2) ∧
      (book.unlink id location ptr).levels location.side.isBuy =
        front ++ (keptLevel location.price (level.erase location.iterator) ++ back) := by
  have strict := better_strictOn location.side.isBuy
  obtain ⟨onLevel, -⟩ := valid.indexed id location found
  have priceNum := valid.key_num onLevel
  obtain ⟨front, level, back, shape, ptrMem, frontBefore, -, elsewhere⟩ :=
    valid.exists_level onLevel
  refine ⟨front, level, back, shape, ptrMem, elsewhere, ?_⟩
  have erased : (book.eraseNode location).levels location.side.isBuy =
      front ++ (location.price, level.erase location.iterator) :: back := by
    rw [eraseNode, levels_withLevels_self, shape,
      SortedMap.upsert_of_present strict priceNum frontBefore, id_eq, List.map_append,
      List.map_cons, map_erase_of_absent fun entry inFront => elsewhere entry (by simp [inFront]),
      map_erase_of_absent fun entry inBack => elsewhere entry (by simp [inBack])]
  have cleaned : (book.unlink id location ptr).levels location.side.isBuy =
      ((book.eraseNode location).cleanupPriceLevel location.side
        location.price).levels location.side.isBuy := by
    cases location.side.isBuy <;> rfl
  rw [cleaned]
  unfold cleanupPriceLevel
  rw [erased, SortedMap.find?_of_present strict priceNum frontBefore]
  cases remaining : level.erase location.iterator with
  | nil =>
      simp only [levels_withLevels_self]
      rw [SortedMap.erase_of_present strict priceNum frontBefore]
      simp [keptLevel]
  | cons first rest =>
      simp only [erased, remaining]
      simp [keptLevel]

theorem mem_keptLevel {price : Price} {level : PriceLevel} {entry : Price × PriceLevel} :
    entry ∈ keptLevel price level ↔ entry = (price, level) ∧ level ≠ [] := by
  unfold keptLevel
  split <;> simp_all

theorem Valid.mem_levels_unlink (valid : book.Valid)
    (found : book.orderLookup.lookup id = some location) {buy : Bool}
    {entry : Price × PriceLevel}
    (member : entry ∈ (book.unlink id location ptr).levels buy) :
    entry.2 ≠ [] ∧ ∃ level, (entry.1, level) ∈ book.levels buy ∧
      entry.2 = level.erase location.iterator := by
  have untouched : entry ∈ book.levels buy → location.iterator ∉ entry.2 →
      entry.2 ≠ [] ∧ ∃ level, (entry.1, level) ∈ book.levels buy ∧
        entry.2 = level.erase location.iterator := by
    intro old absent
    exact ⟨valid.nonempty buy entry old, entry.2, old, (List.erase_of_not_mem absent).symm⟩
  by_cases own : buy = location.side.isBuy
  · subst own
    obtain ⟨front, level, back, shape, -, elsewhere, after⟩ :=
      valid.unlink_split ptr found
    rw [after, List.mem_append, List.mem_append, mem_keptLevel] at member
    rcases member with inFront | ⟨rfl, kept⟩ | inBack
    · exact untouched (by simp [shape, inFront]) (elsewhere entry (by simp [inFront]))
    · exact ⟨kept, level, by simp [shape], rfl⟩
    · exact untouched (by simp [shape, inBack]) (elsewhere entry (by simp [inBack]))
  · rw [levels_unlink_other _ _ _ _ own] at member
    refine untouched member ?_
    intro iteratorMem
    have entrySide := (valid.placed buy entry.1 _ ⟨entry.2, member, iteratorMem⟩).2.1
    have locationSide := (valid.placed _ _ _ (valid.indexed id location found).1).2.1
    exact own (entrySide.symm.trans locationSide)

theorem Valid.sorted_unlink (valid : book.Valid)
    (found : book.orderLookup.lookup id = some location) (buy : Bool) :
    SortedMap.Sorted (better buy) ((book.unlink id location ptr).levels buy) := by
  by_cases own : buy = location.side.isBuy
  · subst own
    obtain ⟨front, level, back, shape, -, -, after⟩ := valid.unlink_split ptr found
    have sorted := valid.sorted location.side.isBuy
    rw [shape, SortedMap.sorted_split_iff] at sorted
    obtain ⟨frontSorted, backSorted, frontBefore, backAfter, across⟩ := sorted
    rw [after]
    unfold keptLevel
    split
    · exact List.pairwise_append.mpr ⟨frontSorted, backSorted, across⟩
    · exact SortedMap.sorted_split_iff.mpr
        ⟨frontSorted, backSorted, frontBefore, backAfter, across⟩
  · rw [levels_unlink_other _ _ _ _ own]
    exact valid.sorted buy

/-- Unlinking takes exactly one node off the queues. -/
theorem Valid.onLevel_unlink (valid : book.Valid)
    (found : book.orderLookup.lookup id = some location) {buy : Bool} {price : Price}
    {other : Nat} :
    (book.unlink id location ptr).OnLevel buy price other ↔
      book.OnLevel buy price other ∧ other ≠ location.iterator := by
  constructor
  · rintro ⟨level, member, otherMem⟩
    obtain ⟨-, oldLevel, oldMem, erased⟩ := valid.mem_levels_unlink ptr found member
    simp only at erased
    subst erased
    rw [(valid.level_nodup oldMem).mem_erase_iff] at otherMem
    exact ⟨⟨oldLevel, oldMem, otherMem.2⟩, otherMem.1⟩
  · rintro ⟨⟨level, member, otherMem⟩, different⟩
    have stays : other ∈ level.erase location.iterator :=
      (List.mem_erase_of_ne different).mpr otherMem
    by_cases own : buy = location.side.isBuy
    · subst own
      obtain ⟨front, unlinked, back, shape, -, elsewhere, after⟩ :=
        valid.unlink_split ptr found
      rw [shape, List.mem_append, List.mem_cons] at member
      rw [OnLevel, after]
      rcases member with inFront | same | inBack
      · exact ⟨level, by simp [inFront], otherMem⟩
      · simp only [Prod.mk.injEq] at same
        obtain ⟨rfl, rfl⟩ := same
        refine ⟨level.erase location.iterator, ?_, stays⟩
        rw [List.mem_append, List.mem_append, mem_keptLevel]
        exact Or.inr (Or.inl ⟨rfl, List.ne_nil_of_mem stays⟩)
      · exact ⟨level, by simp [inBack], otherMem⟩
    · exact ⟨level, by rwa [levels_unlink_other _ _ _ _ own], otherMem⟩

theorem lookup_unlink {other : Nat} {otherLocation : OrderLocation}
    (otherFound : (book.unlink id location ptr).orderLookup.lookup other = some otherLocation) :
    other ≠ id ∧ book.orderLookup.lookup other = some otherLocation := by
  rw [orderLookup_unlink] at otherFound
  have different : other ≠ id := by
    rintro rfl
    simp at otherFound
  exact ⟨different, by rwa [Finmap.lookup_erase_ne different] at otherFound⟩

theorem Valid.unlink (valid : book.Valid)
    (found : book.orderLookup.lookup id = some location) :
    (book.unlink id location location.iterator).Valid := by
  have idEq := (valid.indexed id location found).2
  have locationLive := valid.live_of_lookup found
  constructor
  case sorted => exact valid.sorted_unlink _ found
  case keysValid =>
    intro buy entry member
    obtain ⟨-, level, oldMem, -⟩ := valid.mem_levels_unlink _ found member
    exact valid.keysValid buy (entry.1, level) oldMem
  case nonempty =>
    intro buy entry member
    exact (valid.mem_levels_unlink _ found member).1
  case fifo =>
    intro buy entry member
    obtain ⟨-, level, oldMem, erased⟩ := valid.mem_levels_unlink _ found member
    rw [erased]
    simp only [load_unlink]
    exact (valid.fifo buy _ oldMem).sublist List.erase_sublist
  case placed =>
    intro buy price other onLevel
    rw [valid.onLevel_unlink _ found] at onLevel
    obtain ⟨onLevel, different⟩ := onLevel
    obtain ⟨priceEq, sideEq, back⟩ := valid.placed buy price other onLevel
    rw [load_unlink, orderLookup_unlink]
    refine ⟨priceEq, sideEq, ?_⟩
    rw [Finmap.lookup_erase_ne]
    · exact back
    · intro same
      apply different
      apply ptr_eq_of_id_eq (valid.live_of_onLevel onLevel) locationLive
      rw [same, idEq]
  case indexed =>
    intro otherId other otherFound
    obtain ⟨different, otherFound⟩ := lookup_unlink _ otherFound
    obtain ⟨onLevel, otherIdEq⟩ := valid.indexed otherId other otherFound
    rw [valid.onLevel_unlink _ found, load_unlink]
    refine ⟨⟨onLevel, ?_⟩, otherIdEq⟩
    intro same
    rw [same, idEq] at otherIdEq
    exact different otherIdEq.symm
  case idBounds =>
    intro otherId other otherFound
    obtain ⟨different, otherFound⟩ := lookup_unlink _ otherFound
    rw [nextOrderId_unlink]
    exact valid.idBounds otherId other otherFound
  case nextPositive =>
    rw [nextOrderId_unlink]
    exact valid.nextPositive
  case poolSound =>
    rw [orderPool_unlink]
    exact valid.poolSound.release (valid.inUse id location found)
  case inUse =>
    intro otherId other otherFound
    obtain ⟨different, otherFound⟩ := lookup_unlink _ otherFound
    rw [orderPool_unlink]
    apply (valid.inUse otherId other otherFound).release
    intro same
    have otherIdEq := (valid.indexed otherId other otherFound).2
    rw [same, idEq] at otherIdEq
    exact different otherIdEq.symm

end Unlink

end OrderBookExchange.OrderBook
