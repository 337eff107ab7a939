import OrderBookExchange.FreshObjects
import OrderBookExchange.MatchWalk

/-!
# A side of the book as a ladder of orders

A ladder is the map of a side with the orders themselves in place of the
pointers to them.  Adding, rewriting and unlinking an order act on the ladder
alone, so two books with equal ladders stay equal under equal calls, whatever
slots their orders are in.

Prices may be NaN.  A NaN key is equivalent to every key, so an order need not
lie in the level of its own price.  `Shelved` says how far it can be away: its
level has the price of the order unless one of the two is NaN.
-/

namespace OrderBookExchange

/-- The levels of a side, each with its orders. -/
abbrev Ladder := List (Price × List Order)

theorem better_irrefl (buy : Bool) (price : Price) : better buy price price = false := by
  cases price with
  | nan => cases buy <;> rfl
  | negInf => exact (better_strictOn buy).irrefl (by simp)
  | finite value => exact (better_strictOn buy).irrefl (by simp)
  | posInf => exact (better_strictOn buy).irrefl (by simp)

theorem ne_nan_of_better {buy : Bool} {first second : Price}
    (ahead : better buy first second = true) : first ≠ .nan ∧ second ≠ .nan := by
  refine ⟨?_, ?_⟩
  · rintro rfl
    cases buy <;> cases second <;> exact absurd ahead Bool.false_ne_true
  · rintro rfl
    cases buy <;> cases first <;> exact absurd ahead Bool.false_ne_true

theorem better_nan (buy : Bool) (price : Price) :
    better buy .nan price = false ∧ better buy price .nan = false := by
  refine ⟨?_, ?_⟩
  · exact Bool.eq_false_of_not_eq_true fun ahead => (ne_nan_of_better ahead).1 rfl
  · exact Bool.eq_false_of_not_eq_true fun ahead => (ne_nan_of_better ahead).2 rfl

namespace Ladder

/-- Append an order to the level of its price. -/
def add (buy : Bool) (order : Order) (ladder : Ladder) : Ladder :=
  SortedMap.upsert (better buy) order.price [] (· ++ [order]) ladder

/-- Write an order over the one with its identifier. -/
def rewrite (order : Order) (ladder : Ladder) : Ladder :=
  ladder.map (Prod.map id (replaceOrder order))

/-- Take an order out and clean up the level of the given price. -/
def remove (buy : Bool) (price : Price) (orderId : Nat) (ladder : Ladder) : Ladder :=
  SortedMap.cleanup (better buy) price (ladder.map (Prod.map id (dropOrder orderId)))

/-- The orders of a ladder, best first. -/
def orders (ladder : Ladder) : List Order :=
  ladder.flatMap Prod.snd

/-- No two orders have one identifier. -/
def Distinct (ladder : Ladder) : Prop :=
  ladder.orders.Pairwise fun first second => first.id ≠ second.id

variable {buy : Bool} {price : Price} {order : Order} {ladder : Ladder}

theorem rewrite_of_absent (absent : ∀ other ∈ ladder.orders, other.id ≠ order.id) :
    ladder.rewrite order = ladder := by
  unfold rewrite
  conv_rhs => rw [← List.map_id ladder]
  apply List.map_congr_left
  intro level member
  rw [Prod.map_apply', replaceOrder_of_absent]
  · rfl
  · intro other inLevel
    exact absent other (List.mem_flatMap.mpr ⟨level, member, inLevel⟩)

theorem map_dropOrder_of_absent {orderId : Nat}
    (absent : ∀ other ∈ ladder.orders, other.id ≠ orderId) :
    ladder.map (Prod.map id (dropOrder orderId)) = ladder := by
  conv_rhs => rw [← List.map_id ladder]
  apply List.map_congr_left
  intro level member
  rw [Prod.map_apply', dropOrder_of_absent]
  · rfl
  · intro other inLevel
    exact absent other (List.mem_flatMap.mpr ⟨level, member, inLevel⟩)

/-- What an order looked like does not matter once it is gone. -/
theorem remove_rewrite : (ladder.rewrite order).remove buy price order.id =
    ladder.remove buy price order.id := by
  unfold remove rewrite
  rw [List.map_map]
  congr 1
  apply List.map_congr_left
  intro level _
  rw [Function.comp_apply, Prod.map_apply', Prod.map_apply', Prod.map_apply',
    dropOrder_replaceOrder rfl]
  rfl

/-- An order that comes and goes leaves behind that its level was cleaned up. -/
theorem remove_add (fresh : ∀ other ∈ ladder.orders, other.id ≠ order.id) :
    (ladder.add buy order).remove buy order.price order.id =
      SortedMap.cleanup (better buy) order.price ladder := by
  have updates : ∀ level, id (dropOrder order.id level) =
      dropOrder order.id (level ++ [order]) := by
    intro level
    simp [dropOrder]
  have dropped := SortedMap.upsert_map (dropOrder order.id) [] updates
    (SortedMap.comparable_id (better buy) order.price ladder)
  unfold remove add
  rw [← dropped, map_dropOrder_of_absent fresh, id_eq]
  exact SortedMap.cleanup_upsert_id (better_irrefl buy order.price) ladder

/-! ### The front of a ladder -/

/-- A level in front of others, unless it has become empty. -/
def shelve (key : Price) (level : List Order) (levels : Ladder) : Ladder :=
  if level = [] then levels else (key, level) :: levels

/-- A key is where a price belongs, up to NaN. -/
def Fits (key price : Price) : Prop :=
  key = .nan ∨ price = .nan ∨ price = key

variable {key : Price} {rest : List Order} {levels : Ladder}

theorem fits_iff (buy : Bool) (key price : Price) :
    Fits key price ↔ better buy key price = false ∧ better buy price key = false := by
  constructor
  · rintro (rfl | rfl | rfl)
    · exact better_nan buy price
    · exact (better_nan buy key).symm
    · exact ⟨better_irrefl buy price, better_irrefl buy price⟩
  · rintro ⟨notAhead, notBehind⟩
    by_cases keyNum : key = .nan
    · exact Or.inl keyNum
    by_cases priceNum : price = .nan
    · exact Or.inr (Or.inl priceNum)
    exact Or.inr (Or.inr ((better_strictOn buy).eq_of_unordered priceNum keyNum notBehind notAhead))

theorem Distinct.tail_id_ne (distinct : Distinct ((key, order :: rest) :: levels)) :
    (∀ other ∈ rest, other.id ≠ order.id) ∧ ∀ other ∈ orders levels, other.id ≠ order.id := by
  have apart := (List.pairwise_cons.mp distinct).1
  refine ⟨?_, ?_⟩
  · intro other inRest
    exact (apart other (List.mem_append_left _ inRest)).symm
  · intro other behind
    exact (apart other (List.mem_append_right _ behind)).symm

/-- Removing the first order of the first level. -/
theorem remove_front (fits : Fits key order.price)
    (distinct : Distinct ((key, order :: rest) :: levels)) :
    remove buy order.price order.id ((key, order :: rest) :: levels) =
      shelve key rest levels := by
  obtain ⟨inLevel, behind⟩ := distinct.tail_id_ne
  obtain ⟨notAhead, notBehind⟩ := (fits_iff buy key order.price).mp fits
  unfold remove
  rw [List.map_cons, map_dropOrder_of_absent behind, Prod.map_apply, dropOrder_cons_self rfl inLevel,
    id_eq, SortedMap.cleanup_cons notAhead notBehind]
  rfl

theorem rewrite_front {written : Order} (idEq : written.id = order.id)
    (distinct : Distinct ((key, order :: rest) :: levels)) :
    rewrite written ((key, order :: rest) :: levels) = (key, written :: rest) :: levels := by
  obtain ⟨inLevel, behind⟩ := distinct.tail_id_ne
  have rewritten := rewrite_of_absent (fun other member => idEq ▸ behind other member :
    ∀ other ∈ orders levels, other.id ≠ written.id)
  unfold rewrite at rewritten ⊢
  rw [List.map_cons, rewritten, Prod.map_apply,
    replaceOrder_cons_self idEq.symm fun other member => idEq ▸ inLevel other member]
  rfl

end Ladder

namespace OrderBook

/-- A side of the book with its orders in place of the pointers. -/
def ladder (book : OrderBook) (buy : Bool) : Ladder :=
  book.contents.levels buy

variable {book : OrderBook} {buy : Bool} {ptr : Nat}

theorem ladder_eq_map (book : OrderBook) (buy : Bool) :
    book.ladder buy = (book.levels buy).map (Prod.map id (List.map book.load)) :=
  rfl

theorem orders_ladder (book : OrderBook) (buy : Bool) :
    (book.ladder buy).orders = (book.nodePtrs buy).map book.load := by
  rw [Ladder.orders, ladder_eq_map, nodePtrs, List.flatMap_map, List.map_flatMap]
  rfl

theorem Linked.distinct_ladder (linked : book.Linked) (buy : Bool) :
    (book.ladder buy).Distinct := by
  rw [Ladder.Distinct, orders_ladder, List.pairwise_map]
  apply (linked.nodup buy).imp_of_mem
  intro first second firstLive secondLive different
  exact linked.id_ne_of_ptr_ne firstLive secondLive different

theorem map_levels_congr {first second : Nat → Order}
    (agree : ∀ ptr ∈ book.nodePtrs buy, first ptr = second ptr) :
    (book.levels buy).map (Prod.map id (List.map first)) =
      (book.levels buy).map (Prod.map id (List.map second)) := by
  apply List.map_congr_left
  intro level member
  rw [Prod.map_apply', Prod.map_apply']
  congr 1
  apply List.map_congr_left
  intro ptr onLevel
  exact agree ptr (List.mem_flatMap.mpr ⟨level, member, onLevel⟩)

theorem ladder_addOrder (linked : book.Linked) (side : Side) (type : OrderType) (price : Price)
    (quantity : Quantity) (now : Nat) (buy : Bool) :
    (book.addOrder side type price quantity now).1.ladder buy =
      if buy = side.isBuy then
        (book.ladder buy).add buy (book.addedOrder side type price quantity now)
      else book.ladder buy := by
  have loads : ∀ ptr ∈ book.nodePtrs buy,
      (book.addOrder side type price quantity now).1.load ptr = book.load ptr := by
    intro ptr member
    exact load_addOrder_of_ne book side type price quantity now (linked.ptr_ne_acquired member)
  rw [ladder_eq_map, levels_addOrder]
  by_cases own : buy = side.isBuy
  · subst own
    rw [if_pos rfl, if_pos rfl, Ladder.add, ladder_eq_map, ← map_levels_congr loads]
    refine (SortedMap.upsert_map _ [] ?_ (SortedMap.comparable_id _ _ _)).symm
    intro level
    rw [List.map_append, List.map_singleton, load_addOrder_self]
  · rw [if_neg own, if_neg own, map_levels_congr loads, ladder_eq_map]

theorem ladder_store (linked : book.Linked) (live : ptr ∈ book.nodePtrs buy) {order : Order}
    (idEq : order.id = (book.load ptr).id) (other : Bool) :
    (book.store ptr order).ladder other = (book.ladder other).rewrite order := by
  rw [ladder_eq_map, ladder_eq_map, levels_store, Ladder.rewrite, List.map_map]
  apply List.map_congr_left
  intro level member
  rw [Function.comp_apply, Prod.map_apply', Prod.map_apply', Prod.map_apply', replaceOrder,
    List.map_map]
  congr 1
  apply List.map_congr_left
  intro otherPtr onLevel
  have otherLive : otherPtr ∈ book.nodePtrs other :=
    List.mem_flatMap.mpr ⟨level, member, onLevel⟩
  rw [Function.comp_apply, idEq]
  by_cases same : otherPtr = ptr
  · rw [same, load_store_self, if_pos rfl]
  · rw [load_store_of_ne _ _ _ same, if_neg (linked.id_ne_of_ptr_ne otherLive live same)]

/-- The map of a side after an order of it was unlinked. -/
theorem levels_unlink (orderId : Nat) (location : OrderLocation) (ptr : Nat) :
    (book.unlink orderId location ptr).levels location.side.isBuy =
      SortedMap.cleanup (better location.side.isBuy) location.price
        ((SortedMap.upsert (better location.side.isBuy) location.price [] id
          (book.levels location.side.isBuy)).map
            (Prod.map id fun level => level.erase location.iterator)) := by
  have cleaned : (book.unlink orderId location ptr).levels location.side.isBuy =
      ((book.eraseNode location).cleanupPriceLevel location.side
        location.price).levels location.side.isBuy := by
    cases location.side.isBuy <;> rfl
  have erased : (book.eraseNode location).levels location.side.isBuy =
      (SortedMap.upsert (better location.side.isBuy) location.price [] id
        (book.levels location.side.isBuy)).map
          (Prod.map id fun level => level.erase location.iterator) := by
    rw [eraseNode, levels_withLevels_self]
    rfl
  rw [cleaned, cleanupPriceLevel, SortedMap.cleanup, erased]
  generalize SortedMap.find? (better location.side.isBuy) location.price _ = found
  cases found with
  | none => exact erased
  | some level =>
      cases level with
      | nil => exact levels_withLevels_self _ _ _
      | cons ptr level => exact erased

theorem ladder_unlink (linked : book.Linked) {orderId : Nat} {location : OrderLocation}
    (found : book.orderLookup.lookup orderId = some location) (ptr : Nat) (buy : Bool) :
    (book.unlink orderId location ptr).ladder buy =
      if buy = location.side.isBuy then (book.ladder buy).remove buy location.price orderId
      else book.ladder buy := by
  have sameLoads : (book.unlink orderId location ptr).load = book.load := by
    funext other
    rw [load_unlink]
  rw [ladder_eq_map, sameLoads]
  by_cases own : buy = location.side.isBuy
  · subst own
    obtain ⟨live, idEq, -⟩ := linked.indexed orderId location found
    -- erasing the node from a level drops the order with its identifier
    have dropped : ∀ level ∈ SortedMap.upsert (better location.side.isBuy) location.price [] id
        (book.levels location.side.isBuy),
        (level.2.erase location.iterator).map book.load =
          dropOrder orderId (level.2.map book.load) := by
      intro level member
      have onSide : ∀ other ∈ level.2, other ∈ book.nodePtrs location.side.isBuy := by
        intro other onLevel
        rw [nodePtrs, ← SortedMap.flatMap_upsert_id (better location.side.isBuy) location.price]
        exact List.mem_flatMap.mpr ⟨level, member, onLevel⟩
      have nodup := linked.nodup location.side.isBuy
      rw [nodePtrs, ← SortedMap.flatMap_upsert_id (better location.side.isBuy) location.price]
        at nodup
      rw [((List.nodup_flatMap.mp nodup).1 level member).erase_eq_filter, dropOrder,
        List.filter_map]
      congr 1
      apply List.filter_congr
      intro other onLevel
      by_cases same : other = location.iterator
      · simp [same, idEq]
      · have different := linked.id_ne_of_ptr_ne (onSide other onLevel) live same
        rw [idEq] at different
        simp [same, different]
    have droppedAll : ((SortedMap.upsert (better location.side.isBuy) location.price [] id
        (book.levels location.side.isBuy)).map
          (Prod.map id fun level => level.erase location.iterator)).map
            (Prod.map id (List.map book.load)) =
        SortedMap.upsert (better location.side.isBuy) location.price [] id
          ((book.ladder location.side.isBuy).map (Prod.map id (dropOrder orderId))) := by
      rw [SortedMap.upsert_id_map rfl, ladder_eq_map, SortedMap.upsert_id_map rfl, List.map_map,
        List.map_map]
      apply List.map_congr_left
      intro level member
      exact congrArg (Prod.mk level.1) (dropped level member)
    rw [if_pos rfl, levels_unlink, ← SortedMap.cleanup_map, droppedAll,
      SortedMap.cleanup_upsert_id (better_irrefl _ _), Ladder.remove]
  · rw [if_neg own, levels_unlink_other _ _ _ _ own, ladder_eq_map]

/-! ### Levels and queues -/

theorem flatMap_levels (book : OrderBook) (buy : Bool) :
    (book.contents.levels buy).flatMap Prod.snd = book.queue buy :=
  List.flatMap_map _ _ _

theorem Valid.grouped (valid : book.Valid) (buy : Bool) :
    SortedMap.Grouped Order.price (book.contents.levels buy) where
  distinct := by
    refine List.pairwise_map.mpr ((valid.sorted buy).imp_of_mem ?_)
    intro first second firstMem _ ahead same
    have notAhead := (better_strictOn buy).irrefl (valid.keysValid buy first firstMem)
    change first.1 = second.1 at same
    rw [← same, notAhead] at ahead
    cases ahead
  nonempty := by
    intro entry member
    obtain ⟨level, onLevels, rfl⟩ := List.mem_map.mp member
    simpa using valid.nonempty buy level onLevels
  keyed := by
    intro entry member order inEntry
    obtain ⟨level, onLevels, rfl⟩ := List.mem_map.mp member
    obtain ⟨ptr, onLevel, rfl⟩ := List.mem_map.mp inEntry
    exact (valid.placed buy level.1 ptr ⟨level.2, onLevels, onLevel⟩).1

theorem Valid.levels_of_queue {left right : OrderBook} (leftValid : left.Valid)
    (rightValid : right.Valid) {onPrice : Price → Price} {onOrder : Order → Order}
    (injective : Function.Injective onPrice)
    (prices : ∀ order, (onOrder order).price = onPrice order.price) {leftBuy rightBuy : Bool}
    (queues : right.queue rightBuy = (left.queue leftBuy).map onOrder) :
    right.contents.levels rightBuy =
      (left.contents.levels leftBuy).map (Prod.map onPrice (List.map onOrder)) := by
  refine (rightValid.grouped rightBuy).ext ((leftValid.grouped leftBuy).map injective prices) ?_
  rw [flatMap_levels, queues, ← flatMap_levels, List.flatMap_map, List.map_flatMap]
  rfl

end OrderBook

end OrderBookExchange
