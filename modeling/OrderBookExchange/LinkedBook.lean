import OrderBookExchange.OrderBookUnlink

/-!
# Nodes and index without prices

Some facts about a book do not depend on how its levels are keyed: the index
and the nodes name each other, and every order is reached through the index.
`Linked` is that part of the representation.  It needs no order on prices and
so survives any price at all, a NaN included, whichever level a map lookup
then reaches.
-/

namespace OrderBookExchange

namespace SortedMap

variable {Key Item : Type*} {before : Key → Key → Bool} {key : Key}

theorem flatMap_upsert_id (before : Key → Key → Bool) (key : Key)
    (entries : List (Key × List Item)) :
    (upsert before key [] id entries).flatMap Prod.snd = entries.flatMap Prod.snd := by
  induction entries with
  | nil => rfl
  | cons entry rest ih =>
      unfold upsert
      split
      · rw [List.flatMap_cons, List.flatMap_cons, ih]
      · split
        · simp
        · rfl

theorem flatMap_upsert_snoc (item : Item) (entries : List (Key × List Item)) :
    ((upsert before key [] (· ++ [item]) entries).flatMap Prod.snd).Perm
      (item :: entries.flatMap Prod.snd) := by
  induction entries with
  | nil => exact List.Perm.refl _
  | cons entry rest ih =>
      unfold upsert
      split
      · rw [List.flatMap_cons, List.flatMap_cons]
        exact (ih.append_left _).trans List.perm_middle
      · split
        · exact List.Perm.refl _
        · rw [List.flatMap_cons, List.flatMap_cons, List.append_assoc]
          exact List.perm_middle

theorem flatMap_erase_of_find?_nil {entries : List (Key × List Item)}
    (found : find? before key entries = some []) :
    (erase before key entries).flatMap Prod.snd = entries.flatMap Prod.snd := by
  induction entries with
  | nil => rfl
  | cons entry rest ih =>
      unfold find? at found
      unfold erase
      split at found
      · next earlier =>
          rw [if_pos earlier, List.flatMap_cons, List.flatMap_cons, ih found]
      · next notEarlier =>
          rw [if_neg notEarlier]
          split at found
          · simp at found
          · next notLater =>
              rw [Option.some.injEq] at found
              rw [if_neg notLater, List.flatMap_cons, found, List.nil_append]

end SortedMap

namespace OrderBook

/-- The pointers held by the nodes of a side. -/
def nodePtrs (book : OrderBook) (buy : Bool) : List Nat :=
  (book.levels buy).flatMap Prod.snd

/-- The order an identifier leads to. -/
def orderAt (book : OrderBook) (id : Nat) : Option Order :=
  (book.orderLookup.lookup id).map fun location => book.load location.iterator

/-- The index and the nodes name each other. -/
structure Linked (book : OrderBook) : Prop where
  nodup : ∀ buy, (book.nodePtrs buy).Nodup
  placed : ∀ buy, ∀ ptr ∈ book.nodePtrs buy, ∃ location,
    book.orderLookup.lookup (book.load ptr).id = some location ∧
      location.iterator = ptr ∧ location.side.isBuy = buy
  indexed : ∀ id location, book.orderLookup.lookup id = some location →
    location.iterator ∈ book.nodePtrs location.side.isBuy ∧
      (book.load location.iterator).id = id ∧
      (book.load location.iterator).side = location.side
  below : ∀ id location, book.orderLookup.lookup id = some location →
    id < book.nextOrderId
  poolSound : book.orderPool.Sound
  inUse : ∀ id location, book.orderLookup.lookup id = some location →
    book.orderPool.InUse location.iterator

theorem linked_new (symbol : Symbol) (poolSize : Nat) : (new symbol poolSize).Linked where
  nodup := by intro buy; cases buy <;> exact List.nodup_nil
  placed := by
    intro buy ptr member
    cases buy <;> simp [new, nodePtrs, levels] at member
  indexed := by
    intro id location found
    simp [new] at found
  below := by
    intro id location found
    simp [new] at found
  poolSound := ObjectPool.sound_new poolSize
  inUse := by
    intro id location found
    simp [new] at found

@[simp]
theorem orderAt_new (symbol : Symbol) (poolSize : Nat) (id : Nat) :
    (new symbol poolSize).orderAt id = none := by
  simp [orderAt, new]

namespace Linked

variable {book : OrderBook}

theorem orderAt_of_mem (linked : book.Linked) {buy : Bool} {ptr : Nat}
    (member : ptr ∈ book.nodePtrs buy) :
    book.orderAt (book.load ptr).id = some (book.load ptr) := by
  obtain ⟨location, found, iteratorEq, -⟩ := linked.placed buy ptr member
  rw [orderAt, found, Option.map_some, iteratorEq]

theorem side_of_mem (linked : book.Linked) {buy : Bool} {ptr : Nat}
    (member : ptr ∈ book.nodePtrs buy) : (book.load ptr).side.isBuy = buy := by
  obtain ⟨location, found, iteratorEq, sideEq⟩ := linked.placed buy ptr member
  have indexed := (linked.indexed _ location found).2.2
  rw [iteratorEq] at indexed
  rw [indexed, sideEq]

theorem iterator_eq (linked : book.Linked) {buy : Bool} {ptr : Nat}
    (member : ptr ∈ book.nodePtrs buy) {location : OrderLocation}
    (found : book.orderLookup.lookup (book.load ptr).id = some location) :
    location.iterator = ptr := by
  obtain ⟨other, otherFound, iteratorEq, -⟩ := linked.placed buy ptr member
  rw [found, Option.some.injEq] at otherFound
  rw [otherFound, iteratorEq]

theorem id_ne_of_ptr_ne (linked : book.Linked) {firstBuy secondBuy : Bool} {first second : Nat}
    (firstMem : first ∈ book.nodePtrs firstBuy) (secondMem : second ∈ book.nodePtrs secondBuy)
    (different : first ≠ second) : (book.load first).id ≠ (book.load second).id := by
  intro same
  obtain ⟨location, found, iteratorEq, -⟩ := linked.placed firstBuy first firstMem
  rw [same] at found
  exact different (iteratorEq.symm.trans (linked.iterator_eq secondMem found))

theorem ptr_ne_of_opposite (linked : book.Linked) {buy : Bool} {first second : Nat}
    (firstMem : first ∈ book.nodePtrs buy) (secondMem : second ∈ book.nodePtrs (!buy)) :
    first ≠ second := by
  rintro rfl
  have own := linked.side_of_mem firstMem
  rw [linked.side_of_mem secondMem] at own
  cases buy <;> simp at own

theorem below_of_mem (linked : book.Linked) {buy : Bool} {ptr : Nat}
    (member : ptr ∈ book.nodePtrs buy) : (book.load ptr).id < book.nextOrderId := by
  obtain ⟨location, found, -, -⟩ := linked.placed buy ptr member
  exact linked.below _ location found

theorem id_of_orderAt (linked : book.Linked) {id : Nat} {order : Order}
    (found : book.orderAt id = some order) : order.id = id := by
  rw [orderAt, Option.map_eq_some_iff] at found
  obtain ⟨location, indexed, rfl⟩ := found
  exact (linked.indexed id location indexed).2.1

theorem orderAt_none_of_le (linked : book.Linked) {id : Nat} (fresh : book.nextOrderId ≤ id) :
    book.orderAt id = none := by
  cases found : book.orderLookup.lookup id with
  | none => rw [orderAt, found, Option.map_none]
  | some location =>
      have below := linked.below id location found
      omega

theorem lt_of_orderAt (linked : book.Linked) {id : Nat} {order : Order}
    (found : book.orderAt id = some order) : id < book.nextOrderId := by
  by_contra fresh
  rw [linked.orderAt_none_of_le (Nat.le_of_not_lt fresh)] at found
  simp at found

end Linked

/-! ### Rewriting an order in place -/

section Store

variable {book : OrderBook} {buy : Bool} {ptr : Nat}

theorem nodePtrs_store (order : Order) (other : Bool) :
    (book.store ptr order).nodePtrs other = book.nodePtrs other := by
  rw [nodePtrs, levels_store, nodePtrs]

theorem Linked.store (linked : book.Linked) (ptr : Nat) (order : Order)
    (idEq : order.id = (book.load ptr).id) (sideEq : order.side = (book.load ptr).side) :
    (book.store ptr order).Linked := by
  have key : ∀ other, ((book.store ptr order).load other).id = (book.load other).id ∧
      ((book.store ptr order).load other).side = (book.load other).side := by
    intro other
    by_cases same : other = ptr
    · subst same
      simp [idEq, sideEq]
    · simp [load_store_of_ne _ _ _ same]
  constructor
  case nodup => simpa only [nodePtrs_store] using linked.nodup
  case placed =>
    intro buy other member
    rw [nodePtrs_store] at member
    rw [(key other).1]
    exact linked.placed buy other member
  case indexed =>
    intro id location found
    rw [nodePtrs_store, (key _).1, (key _).2]
    exact linked.indexed id location found
  case below => exact linked.below
  case poolSound => exact ⟨linked.poolSound.free_nodup, linked.poolSound.free_lt⟩
  case inUse => exact linked.inUse

theorem orderAt_store (linked : book.Linked) (member : ptr ∈ book.nodePtrs buy) (order : Order)
    (idEq : order.id = (book.load ptr).id) (id : Nat) :
    (book.store ptr order).orderAt id =
      if id = order.id then some order else book.orderAt id := by
  obtain ⟨ownLocation, ownFound, ownIterator, -⟩ := linked.placed buy ptr member
  unfold orderAt
  rw [orderLookup_store]
  by_cases own : id = order.id
  · subst own
    rw [if_pos rfl, idEq, ownFound, Option.map_some, ownIterator, load_store_self]
  · rw [if_neg own]
    cases found : book.orderLookup.lookup id with
    | none => rfl
    | some location =>
        have different : location.iterator ≠ ptr := by
          intro same
          have locationId := (linked.indexed id location found).2.1
          rw [same, ← idEq] at locationId
          exact own locationId.symm
        rw [Option.map_some, Option.map_some, load_store_of_ne _ _ _ different]

end Store

/-! ### Adding an order -/

section Add

variable {book : OrderBook} (side : Side) (type : OrderType) (price : Price)
  (quantity : Quantity) (now : Nat)

theorem mem_nodePtrs_addOrder {buy : Bool} {ptr : Nat} :
    ptr ∈ (book.addOrder side type price quantity now).1.nodePtrs buy ↔
      ptr ∈ book.nodePtrs buy ∨ (buy = side.isBuy ∧ ptr = book.orderPool.acquire.1) := by
  unfold nodePtrs
  rw [levels_addOrder]
  by_cases own : buy = side.isBuy
  · subst own
    rw [if_pos rfl, (SortedMap.flatMap_upsert_snoc _ _).mem_iff, List.mem_cons]
    simp [or_comm]
  · rw [if_neg own]
    simp [own]

theorem Linked.ne_acquired (linked : book.Linked) {id : Nat} {location : OrderLocation}
    (found : book.orderLookup.lookup id = some location) :
    location.iterator ≠ book.orderPool.acquire.1 := by
  intro same
  have inUse := linked.inUse id location found
  rw [same] at inUse
  exact linked.poolSound.acquired_inUse.2 inUse

theorem Linked.ptr_ne_acquired (linked : book.Linked) {buy : Bool} {ptr : Nat}
    (member : ptr ∈ book.nodePtrs buy) : ptr ≠ book.orderPool.acquire.1 := by
  obtain ⟨location, found, iteratorEq, -⟩ := linked.placed buy ptr member
  rw [← iteratorEq]
  exact linked.ne_acquired found

theorem Linked.addOrder (linked : book.Linked) :
    (book.addOrder side type price quantity now).1.Linked := by
  have fresh : book.orderLookup.lookup book.nextOrderId = none := by
    cases found : book.orderLookup.lookup book.nextOrderId with
    | none => rfl
    | some location => exact absurd (linked.below _ location found) (lt_irrefl _)
  constructor
  case nodup =>
    intro buy
    unfold nodePtrs
    rw [levels_addOrder]
    by_cases own : buy = side.isBuy
    · subst own
      rw [if_pos rfl, (SortedMap.flatMap_upsert_snoc _ _).nodup_iff, List.nodup_cons]
      exact ⟨fun member => linked.ptr_ne_acquired member rfl, linked.nodup side.isBuy⟩
    · rw [if_neg own]
      exact linked.nodup buy
  case placed =>
    intro buy ptr member
    rw [orderLookup_addOrder]
    rcases (mem_nodePtrs_addOrder side type price quantity now).mp member with
      old | ⟨rfl, rfl⟩
    · rw [load_addOrder_of_ne _ _ _ _ _ _ (linked.ptr_ne_acquired old)]
      obtain ⟨location, found, rest⟩ := linked.placed buy ptr old
      have different := Nat.ne_of_lt (linked.below _ location found)
      exact ⟨location, by rw [Finmap.lookup_insert_of_ne _ different, found], rest⟩
    · rw [load_addOrder_self]
      exact ⟨_, Finmap.lookup_insert _, rfl, rfl⟩
  case indexed =>
    intro id location found
    rw [orderLookup_addOrder] at found
    by_cases own : id = book.nextOrderId
    · subst own
      rw [Finmap.lookup_insert, Option.some.injEq] at found
      subst found
      refine ⟨(mem_nodePtrs_addOrder side type price quantity now).mpr (Or.inr ⟨rfl, rfl⟩), ?_⟩
      rw [load_addOrder_self]
      exact ⟨rfl, rfl⟩
    · rw [Finmap.lookup_insert_of_ne _ own] at found
      obtain ⟨member, rest⟩ := linked.indexed id location found
      refine ⟨(mem_nodePtrs_addOrder side type price quantity now).mpr (Or.inl member), ?_⟩
      rw [load_addOrder_of_ne _ _ _ _ _ _ (linked.ne_acquired found)]
      exact rest
  case below =>
    intro id location found
    rw [orderLookup_addOrder] at found
    rw [nextOrderId_addOrder]
    by_cases own : id = book.nextOrderId
    · omega
    · rw [Finmap.lookup_insert_of_ne _ own] at found
      exact (linked.below id location found).trans (Nat.lt_succ_self _)
  case poolSound =>
    have acquired := linked.poolSound.acquire
    exact ⟨acquired.free_nodup, acquired.free_lt⟩
  case inUse =>
    intro id location found
    rw [orderLookup_addOrder] at found
    by_cases own : id = book.nextOrderId
    · subst own
      rw [Finmap.lookup_insert, Option.some.injEq] at found
      subst found
      exact linked.poolSound.acquired_inUse.1
    · rw [Finmap.lookup_insert_of_ne _ own] at found
      exact (linked.inUse id location found).acquire

theorem orderAt_addOrder (linked : book.Linked) (id : Nat) :
    (book.addOrder side type price quantity now).1.orderAt id =
      if id = book.nextOrderId then some (book.addedOrder side type price quantity now)
      else book.orderAt id := by
  unfold orderAt
  rw [orderLookup_addOrder]
  by_cases own : id = book.nextOrderId
  · subst own
    rw [if_pos rfl, Finmap.lookup_insert, Option.map_some, load_addOrder_self]
  · rw [if_neg own, Finmap.lookup_insert_of_ne _ own]
    cases found : book.orderLookup.lookup id with
    | none => rfl
    | some location =>
        rw [Option.map_some, Option.map_some,
          load_addOrder_of_ne _ _ _ _ _ _ (linked.ne_acquired found)]

end Add

/-! ### Unlinking an order -/

section Unlink

variable {book : OrderBook} {id : Nat} {location : OrderLocation}

/-- Cleaning up a level keeps the nodes. -/
theorem nodePtrs_cleanupPriceLevel (side : Side) (price : Price) (buy : Bool) :
    (book.cleanupPriceLevel side price).nodePtrs buy = book.nodePtrs buy := by
  unfold cleanupPriceLevel
  split
  · next empty =>
      unfold nodePtrs
      rw [levels_withLevels]
      split
      · next own =>
          rw [SortedMap.flatMap_erase_of_find?_nil empty, own]
      · rfl
  · rfl

theorem nodePtrs_unlink (linked : book.Linked) (ptr : Nat) (buy : Bool) :
    (book.unlink id location ptr).nodePtrs buy =
      if buy = location.side.isBuy then
        (book.nodePtrs buy).filter fun other => other ≠ location.iterator
      else book.nodePtrs buy := by
  have cleaned : (book.unlink id location ptr).nodePtrs buy =
      (book.eraseNode location).nodePtrs buy := by
    have unlinked : (book.unlink id location ptr).nodePtrs buy =
        ((book.eraseNode location).cleanupPriceLevel location.side
          location.price).nodePtrs buy := by
      cases buy <;> rfl
    rw [unlinked, nodePtrs_cleanupPriceLevel]
  rw [cleaned]
  by_cases own : buy = location.side.isBuy
  · subst own
    have nodup := linked.nodup location.side.isBuy
    have subscripted := SortedMap.flatMap_upsert_id (better location.side.isBuy) location.price
      (book.levels location.side.isBuy)
    unfold nodePtrs at nodup ⊢
    rw [← subscripted] at nodup
    rw [if_pos rfl, eraseNode, levels_withLevels_self, ← subscripted, List.flatMap_map,
      List.filter_flatMap]
    apply List.flatMap_congr
    intro entry member
    have entryNodup : entry.2.Nodup := (List.nodup_flatMap.mp nodup).1 entry member
    rw [entryNodup.erase_eq_filter]
    apply List.filter_congr
    intro other _
    rw [bne, decide_not]
    rfl
  · rw [if_neg own, eraseNode, nodePtrs, levels_withLevels, if_neg own, nodePtrs]

theorem Linked.unlink (linked : book.Linked)
    (found : book.orderLookup.lookup id = some location) :
    (book.unlink id location location.iterator).Linked := by
  have iterators : ∀ {other otherLocation}, other ≠ id →
      book.orderLookup.lookup other = some otherLocation →
        otherLocation.iterator ≠ location.iterator := by
    intro other otherLocation otherId otherFound same
    have idEq := (linked.indexed other otherLocation otherFound).2.1
    rw [same, (linked.indexed id location found).2.1] at idEq
    exact otherId idEq.symm
  have ptrs : ∀ buy ptr, ptr ∈ (book.unlink id location location.iterator).nodePtrs buy →
      ptr ∈ book.nodePtrs buy ∧ ptr ≠ location.iterator := by
    intro buy ptr member
    rw [nodePtrs_unlink linked] at member
    split at member
    · simpa using List.mem_filter.mp member
    · next otherSide =>
        refine ⟨member, ?_⟩
        rintro rfl
        have onSide := linked.side_of_mem member
        rw [(linked.indexed id location found).2.2] at onSide
        exact otherSide onSide.symm
  constructor
  case nodup =>
    intro buy
    rw [nodePtrs_unlink linked]
    split
    · exact (linked.nodup buy).filter _
    · exact linked.nodup buy
  case placed =>
    intro buy ptr member
    obtain ⟨old, different⟩ := ptrs buy ptr member
    obtain ⟨ownLocation, ownFound, iteratorEq, sideEq⟩ := linked.placed buy ptr old
    have otherId : (book.load ptr).id ≠ id := by
      intro same
      rw [same, found, Option.some.injEq] at ownFound
      rw [ownFound] at different
      exact different iteratorEq.symm
    rw [load_unlink, orderLookup_unlink, Finmap.lookup_erase_ne otherId]
    exact ⟨ownLocation, ownFound, iteratorEq, sideEq⟩
  case indexed =>
    intro other otherLocation otherFound
    obtain ⟨otherId, otherFound⟩ := lookup_unlink _ otherFound
    obtain ⟨member, idEq, sideEq⟩ := linked.indexed other otherLocation otherFound
    rw [load_unlink, nodePtrs_unlink linked]
    refine ⟨?_, idEq, sideEq⟩
    split
    · simpa using ⟨member, iterators otherId otherFound⟩
    · exact member
  case below =>
    intro other otherLocation otherFound
    rw [nextOrderId_unlink]
    exact linked.below other otherLocation (lookup_unlink _ otherFound).2
  case poolSound =>
    rw [orderPool_unlink]
    exact linked.poolSound.release (linked.inUse id location found)
  case inUse =>
    intro other otherLocation otherFound
    obtain ⟨otherId, otherFound⟩ := lookup_unlink _ otherFound
    rw [orderPool_unlink]
    exact (linked.inUse other otherLocation otherFound).release (iterators otherId otherFound)

theorem orderAt_unlink (ptr other : Nat) :
    (book.unlink id location ptr).orderAt other =
      if other = id then none else book.orderAt other := by
  unfold orderAt
  rw [orderLookup_unlink]
  by_cases same : other = id
  · rw [if_pos same, same, Finmap.lookup_erase, Option.map_none]
  · rw [if_neg same, Finmap.lookup_erase_ne same]
    simp

/-- Removing a live order unlinks it and nothing else. -/
theorem Linked.removeOrder (linked : book.Linked) {buy : Bool} {ptr : Nat}
    (member : ptr ∈ book.nodePtrs buy) :
    (book.removeOrder ptr).Linked ∧
      (book.removeOrder ptr).nextOrderId = book.nextOrderId ∧
      (∀ other, (book.removeOrder ptr).load other = book.load other) ∧
      (∀ otherBuy other, other ∈ (book.removeOrder ptr).nodePtrs otherBuy ↔
        other ∈ book.nodePtrs otherBuy ∧ other ≠ ptr) ∧
      ∀ other, (book.removeOrder ptr).orderAt other =
        if other = (book.load ptr).id then none else book.orderAt other := by
  obtain ⟨location, found, rfl, sideEq⟩ := linked.placed buy ptr member
  have unlinked : book.removeOrder location.iterator =
      book.unlink (book.load location.iterator).id location location.iterator := by
    rw [OrderBook.removeOrder, found]
  rw [unlinked]
  refine ⟨linked.unlink found, by simp, fun other => by simp, ?_, fun other => orderAt_unlink _ _⟩
  intro otherBuy other
  rw [nodePtrs_unlink linked]
  split
  · simp
  · next otherSide =>
      refine ⟨fun old => ⟨old, ?_⟩, And.left⟩
      rintro rfl
      rw [sideEq, ← linked.side_of_mem member] at otherSide
      exact otherSide (linked.side_of_mem old).symm

end Unlink

end OrderBook

end OrderBookExchange
