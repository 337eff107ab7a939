import OrderBookExchange.BookRuns
import Mathlib.Logic.Equiv.Basic

/-!
# Renaming the slots of a book

Which slot of the pool an order sits in is not observable.  Two books are
renamings of each other if a permutation of slots takes the queues and the index
of one to those of the other, and the orders in corresponding queue nodes are
equal.  Nothing is asked of slots outside the queues, so what a released slot
holds does not matter either.  Every operation of a book respects renamings.
-/

namespace OrderBookExchange

def OrderLocation.rename (rename : Equiv.Perm Nat) (location : OrderLocation) : OrderLocation :=
  { location with iterator := rename location.iterator }

namespace OrderBook

/-- The queues of the second book are those of the first with the slots
renamed. -/
def RenamedLevels (rename : Equiv.Perm Nat) (left right : OrderBook) : Prop :=
  ∀ buy, right.levels buy = (left.levels buy).map (Prod.map id (List.map rename))

/-- The second book is the first with the slots renamed. -/
structure Renamed (rename : Equiv.Perm Nat) (left right : OrderBook) : Prop where
  levels : RenamedLevels rename left right
  index : ∀ id, right.orderLookup.lookup id =
    (left.orderLookup.lookup id).map (OrderLocation.rename rename)
  loads : ∀ buy, ∀ ptr ∈ left.nodePtrs buy, right.load (rename ptr) = left.load ptr
  nextId : right.nextOrderId = left.nextOrderId
  bounded : ∀ buy, ∀ ptr ∈ left.nodePtrs buy, rename ptr < right.orderPool.capacity

variable {rename : Equiv.Perm Nat} {left right : OrderBook}

theorem renamed_new (symbol : Symbol) (poolSize otherSize : Nat) :
    Renamed rename (new symbol poolSize) (new symbol otherSize) where
  levels := by intro buy; cases buy <;> rfl
  index := by intro id; simp [new]
  loads := by intro buy ptr member; cases buy <;> simp [new, nodePtrs, OrderBook.levels] at member
  nextId := rfl
  bounded := by
    intro buy ptr member
    cases buy <;> simp [new, nodePtrs, OrderBook.levels] at member

namespace Renamed

theorem nodePtrs (renamed : Renamed rename left right) (buy : Bool) :
    right.nodePtrs buy = (left.nodePtrs buy).map rename := by
  rw [OrderBook.nodePtrs, renamed.levels, OrderBook.nodePtrs, List.map_flatMap, List.flatMap_map]
  rfl

theorem congr (renamed : Renamed rename left right) (linked : left.Linked)
    {other : Equiv.Perm Nat}
    (agree : ∀ buy, ∀ ptr ∈ left.nodePtrs buy, other ptr = rename ptr) :
    Renamed other left right where
  levels := by
    intro buy
    rw [renamed.levels buy]
    apply List.map_congr_left
    intro level member
    have renamedAlike : level.2.map rename = level.2.map other := by
      apply List.map_congr_left
      intro ptr onLevel
      exact (agree buy ptr (List.mem_flatMap.mpr ⟨level, member, onLevel⟩)).symm
    rw [Prod.map_apply', Prod.map_apply', renamedAlike]
  index := by
    intro id
    rw [renamed.index id]
    cases found : left.orderLookup.lookup id with
    | none => rfl
    | some location =>
        have onBook := (linked.indexed id location found).1
        rw [Option.map_some, Option.map_some, OrderLocation.rename, OrderLocation.rename,
          agree _ _ onBook]
  loads := by
    intro buy ptr member
    rw [agree buy ptr member]
    exact renamed.loads buy ptr member
  nextId := renamed.nextId
  bounded := by
    intro buy ptr member
    rw [agree buy ptr member]
    exact renamed.bounded buy ptr member

/-! ### Rewriting and adding orders -/

theorem store (renamed : Renamed rename left right) (ptr : Nat) (order : Order) :
    Renamed rename (left.store ptr order) (right.store (rename ptr) order) where
  levels := by
    intro buy
    rw [levels_store, levels_store]
    exact renamed.levels buy
  index := renamed.index
  loads := by
    intro buy other member
    rw [nodePtrs_store] at member
    by_cases same : other = ptr
    · subst same
      rw [load_store_self, load_store_self]
    · have renamedOther : rename other ≠ rename ptr := fun equal => same (rename.injective equal)
      rw [load_store_of_ne _ _ _ renamedOther, load_store_of_ne _ _ _ same]
      exact renamed.loads buy other member
  nextId := renamed.nextId
  bounded := by
    intro buy other member
    rw [nodePtrs_store] at member
    exact renamed.bounded buy other member

section Add

variable (side : Side) (type : OrderType) (price : Price) (quantity : Quantity) (now : Nat)

theorem addOrder (renamed : Renamed rename left right) (linked : left.Linked)
    (slot : rename left.orderPool.acquire.1 = right.orderPool.acquire.1)
    (empty : right.orderPool.freeList = []) :
    Renamed rename (left.addOrder side type price quantity now).1
      (right.addOrder side type price quantity now).1 := by
  have fresh := ObjectPool.acquire_of_empty empty
  have capacity : (right.addOrder side type price quantity now).1.orderPool.capacity =
      right.orderPool.capacity + 1 := fresh.2
  constructor
  case levels =>
    intro buy
    rw [levels_addOrder, levels_addOrder]
    by_cases own : buy = side.isBuy
    · rw [if_pos own, if_pos own, renamed.levels, ← slot]
      exact SortedMap.upsert_map (List.map rename) [] (fun level => by simp) (SortedMap.comparable_id _ _ _)
    · rw [if_neg own, if_neg own]
      exact renamed.levels buy
  case index =>
    intro id
    rw [orderLookup_addOrder, orderLookup_addOrder, renamed.nextId]
    by_cases own : id = left.nextOrderId
    · subst own
      rw [Finmap.lookup_insert, Finmap.lookup_insert, Option.map_some, ← slot]
      rfl
    · rw [Finmap.lookup_insert_of_ne _ own, Finmap.lookup_insert_of_ne _ own]
      exact renamed.index id
  case loads =>
    intro buy ptr member
    rcases (mem_nodePtrs_addOrder side type price quantity now).mp member with
      old | ⟨rfl, rfl⟩
    · have other := linked.ptr_ne_acquired old
      have renamedOther : rename ptr ≠ right.orderPool.acquire.1 := by
        rw [← slot]
        exact fun equal => other (rename.injective equal)
      rw [load_addOrder_of_ne _ _ _ _ _ _ renamedOther, load_addOrder_of_ne _ _ _ _ _ _ other]
      exact renamed.loads buy ptr old
    · rw [slot, load_addOrder_self, load_addOrder_self, addedOrder, renamed.nextId]
      rfl
  case nextId =>
    rw [nextOrderId_addOrder, nextOrderId_addOrder, renamed.nextId]
  case bounded =>
    intro buy ptr member
    rw [capacity]
    rcases (mem_nodePtrs_addOrder side type price quantity now).mp member with
      old | ⟨rfl, rfl⟩
    · exact (renamed.bounded buy ptr old).trans (Nat.lt_succ_self _)
    · rw [slot, fresh.1]
      exact Nat.lt_succ_self _

/-- A book that takes a recycled slot and one that takes a slot never used
before: the renaming is extended to the new slots. -/
theorem exists_addOrder (renamed : Renamed rename left right) (linked : left.Linked)
    (empty : right.orderPool.freeList = []) :
    ∃ extended : Equiv.Perm Nat,
      extended (left.addOrder side type price quantity now).2 =
          (right.addOrder side type price quantity now).2 ∧
        Renamed extended (left.addOrder side type price quantity now).1
          (right.addOrder side type price quantity now).1 := by
  have fresh := (ObjectPool.acquire_of_empty empty).1
  let extended := rename.trans
    (Equiv.swap (rename left.orderPool.acquire.1) right.orderPool.acquire.1)
  have slot : extended left.orderPool.acquire.1 = right.orderPool.acquire.1 :=
    Equiv.swap_apply_left _ _
  have agree : ∀ buy, ∀ ptr ∈ left.nodePtrs buy, extended ptr = rename ptr := by
    intro buy ptr member
    apply Equiv.swap_apply_of_ne_of_ne
    · exact fun equal => linked.ptr_ne_acquired member (rename.injective equal)
    · rw [fresh]
      exact Nat.ne_of_lt (renamed.bounded buy ptr member)
  refine ⟨extended, slot, ?_⟩
  exact (renamed.congr linked agree).addOrder side type price quantity now linked slot empty

end Add

/-! ### Unlinking orders -/

theorem eraseNode (levels : RenamedLevels rename left right) (location : OrderLocation) :
    RenamedLevels rename (left.eraseNode location)
      (right.eraseNode (location.rename rename)) := by
  intro buy
  unfold OrderBook.eraseNode OrderLocation.rename
  dsimp only
  rw [levels_withLevels, levels_withLevels]
  by_cases own : buy = location.side.isBuy
  · have subscripted : SortedMap.upsert (better location.side.isBuy) location.price [] id
          (right.levels location.side.isBuy) =
        (SortedMap.upsert (better location.side.isBuy) location.price [] id
          (left.levels location.side.isBuy)).map (Prod.map id (List.map rename)) := by
      have keeps (level : PriceLevel) : id (level.map rename) = (id level).map rename := rfl
      rw [levels]
      exact SortedMap.upsert_map (List.map rename) [] keeps (SortedMap.comparable_id _ _ _)
    rw [if_pos own, if_pos own, subscripted, List.map_map, List.map_map]
    apply List.map_congr_left
    intro level _
    simp [List.map_erase rename.injective]
  · rw [if_neg own, if_neg own]
    exact levels buy

theorem cleanupPriceLevel (levels : RenamedLevels rename left right) (side : Side)
    (price : Price) :
    RenamedLevels rename (left.cleanupPriceLevel side price)
      (right.cleanupPriceLevel side price) := by
  have found : SortedMap.find? (better side.isBuy) price (right.levels side.isBuy) =
      (SortedMap.find? (better side.isBuy) price (left.levels side.isBuy)).map
        (List.map rename) := by
    rw [levels]
    exact SortedMap.find?_map (List.map rename) (SortedMap.comparable_id _ _ _)
  unfold OrderBook.cleanupPriceLevel
  rw [found]
  cases SortedMap.find? (better side.isBuy) price (left.levels side.isBuy) with
  | none => exact levels
  | some level =>
      cases level with
      | nil =>
          rw [Option.map_some, List.map_nil]
          intro buy
          dsimp only
          rw [levels_withLevels, levels_withLevels]
          by_cases own : buy = side.isBuy
          · rw [if_pos own, if_pos own, levels]
            exact SortedMap.erase_map (List.map rename) (SortedMap.comparable_id _ _ _)
          · rw [if_neg own, if_neg own]
            exact levels buy
      | cons ptr rest => exact levels

theorem unlink (renamed : Renamed rename left right) (linked : left.Linked) (id : Nat)
    (location : OrderLocation) (ptr : Nat) :
    Renamed rename (left.unlink id location ptr)
      (right.unlink id (location.rename rename) (rename ptr)) := by
  have shrinks : ∀ buy, ∀ other ∈ (left.unlink id location ptr).nodePtrs buy,
      other ∈ left.nodePtrs buy := by
    intro buy other member
    rw [nodePtrs_unlink linked] at member
    split at member
    · exact List.mem_of_mem_filter member
    · exact member
  constructor
  case levels =>
    intro buy
    have cleaned := cleanupPriceLevel (eraseNode renamed.levels location) location.side
      location.price buy
    cases buy <;> exact cleaned
  case index =>
    intro other
    rw [orderLookup_unlink, orderLookup_unlink]
    by_cases same : other = id
    · rw [same, Finmap.lookup_erase, Finmap.lookup_erase]
      rfl
    · rw [Finmap.lookup_erase_ne same, Finmap.lookup_erase_ne same]
      exact renamed.index other
  case loads =>
    intro buy other member
    rw [load_unlink, load_unlink]
    exact renamed.loads buy other (shrinks buy other member)
  case nextId =>
    rw [nextOrderId_unlink, nextOrderId_unlink]
    exact renamed.nextId
  case bounded =>
    intro buy other member
    rw [orderPool_unlink]
    exact renamed.bounded buy other (shrinks buy other member)

theorem removeOrder (renamed : Renamed rename left right) (linked : left.Linked) {buy : Bool}
    {ptr : Nat} (member : ptr ∈ left.nodePtrs buy) :
    Renamed rename (left.removeOrder ptr) (right.removeOrder (rename ptr)) := by
  unfold OrderBook.removeOrder
  dsimp only
  rw [renamed.loads buy ptr member, renamed.index]
  cases left.orderLookup.lookup (left.load ptr).id with
  | none => exact renamed
  | some location => exact renamed.unlink linked _ location ptr

theorem cancelOrder (renamed : Renamed rename left right) (linked : left.Linked) (id : Nat) :
    Renamed rename (left.cancelOrder id).1 (right.cancelOrder id).1 ∧
      (right.cancelOrder id).2 = (left.cancelOrder id).2 := by
  unfold OrderBook.cancelOrder
  rw [renamed.index]
  cases found : left.orderLookup.lookup id with
  | none => exact ⟨renamed, rfl⟩
  | some location =>
      have onBook := (linked.indexed id location found).1
      have loadEq := renamed.loads _ _ onBook
      have marked := renamed.store location.iterator
        { left.load location.iterator with status := .cancelled }
      have markedLinked := linked.store location.iterator
        { left.load location.iterator with status := .cancelled } rfl rfl
      refine ⟨?_, rfl⟩
      dsimp only [Option.map_some, OrderLocation.rename]
      rw [loadEq]
      exact marked.unlink markedLinked id location location.iterator

theorem reduceOrder (renamed : Renamed rename left right) (linked : left.Linked) (id : Nat)
    (newQuantity : Quantity) :
    Renamed rename (left.reduceOrder id newQuantity).1 (right.reduceOrder id newQuantity).1 ∧
      (right.reduceOrder id newQuantity).2 = (left.reduceOrder id newQuantity).2 := by
  unfold OrderBook.reduceOrder
  rw [renamed.index]
  cases found : left.orderLookup.lookup id with
  | none => exact ⟨renamed, rfl⟩
  | some location =>
      have loadEq := renamed.loads _ _ (linked.indexed id location found).1
      dsimp only [Option.map_some, OrderLocation.rename]
      rw [loadEq]
      split
      · exact ⟨renamed, rfl⟩
      · split
        · exact renamed.cancelOrder linked id
        · exact ⟨renamed.store _ _, rfl⟩

/-! ### Matching -/

theorem bestLevel (renamed : Renamed rename left right) (buy : Bool) :
    right.bestLevel buy = (left.bestLevel buy).map (List.map rename) := by
  unfold OrderBook.bestLevel
  rw [renamed.levels]
  cases left.levels buy <;> rfl

theorem nodeCount (renamed : Renamed rename left right) (buy : Bool) :
    right.nodeCount buy = left.nodeCount buy := by
  unfold OrderBook.nodeCount
  rw [renamed.levels, List.map_map]
  congr 1
  apply List.map_congr_left
  intro level _
  simp

section Iteration

variable {buy : Bool} {incoming : Nat}

theorem nextMatch (renamed : Renamed rename left right) (live : incoming ∈ left.nodePtrs buy) :
    right.nextMatch (rename incoming) = (left.nextMatch incoming).map rename := by
  unfold OrderBook.nextMatch
  rw [renamed.loads buy incoming live, renamed.bestLevel]
  split
  · rfl
  · cases best : left.bestLevel (!(left.load incoming).side.isBuy) with
    | none => rfl
    | some level =>
        cases level with
        | nil => rfl
        | cons resting rest =>
            have restingLive := mem_nodePtrs_of_bestLevel best
            rw [Option.map_some, List.map_cons]
            dsimp only
            rw [renamed.loads _ resting restingLive]
            split <;> rfl

theorem matchAt (renamed : Renamed rename left right) (live : incoming ∈ left.nodePtrs buy)
    {resting : Nat} (restingLive : resting ∈ left.nodePtrs (!buy)) (now : Nat) :
    right.matchAt (rename incoming) (rename resting) now = left.matchAt incoming resting now := by
  rw [OrderBook.matchAt, renamed.loads buy incoming live, renamed.loads _ resting restingLive,
    OrderBook.matchAt]

theorem afterMatch (renamed : Renamed rename left right) (linked : left.Linked)
    (live : incoming ∈ left.nodePtrs buy) {resting : Nat}
    (restingLive : resting ∈ left.nodePtrs (!buy)) (now : Nat) :
    Renamed rename (left.afterMatch incoming resting now)
      (right.afterMatch (rename incoming) (rename resting) now) := by
  have written (order restingOrder : Order) :=
    (renamed.store incoming order).store resting restingOrder
  unfold OrderBook.afterMatch
  dsimp only
  rw [renamed.matchAt live restingLive]
  set result := left.matchAt incoming resting now
  split
  · rw [store_store, store_store]
    have bothLinked := (bothWritten_store linked live restingLive result.incoming
      { result.resting with status := .filled } ⟨rfl, rfl, rfl, rfl, rfl⟩
      ⟨rfl, rfl, rfl, rfl, rfl⟩).linked
    apply (written result.incoming { result.resting with status := .filled }).removeOrder
      bothLinked
    rw [nodePtrs_store, nodePtrs_store]
    exact restingLive
  · exact written result.incoming result.resting

theorem postMatch (renamed : Renamed rename left right) (linked : left.Linked)
    (live : incoming ∈ left.nodePtrs buy) (type : OrderType) :
    Renamed rename (left.postMatch incoming type) (right.postMatch (rename incoming) type) := by
  unfold OrderBook.postMatch
  dsimp only
  rw [renamed.loads buy incoming live]
  split
  · exact renamed.removeOrder linked live
  · split
    · have marked := renamed.store incoming
        { left.load incoming with
          status :=
            if 0 < (left.load incoming).filledQty then OrderStatus.partiallyFilled
            else .cancelled }
      apply marked.removeOrder (linked.store incoming _ rfl rfl)
      rw [nodePtrs_store]
      exact live
    · exact renamed

end Iteration

end Renamed

end OrderBook

end OrderBookExchange
