import OrderBookExchange.OrderBookUnlink
import OrderBookExchange.PriorityQueue

/-!
# The queue a side of the book represents

Reading the levels of a side best price first and front to back gives its
priority queue.  For a valid book the queue is in strict price-time priority,
its identifiers are distinct, and every update of the book is the matching
update of the queue.
-/

namespace OrderBookExchange.OrderBook

/-- The orders of a side, best price first and front to back. -/
def queue (book : OrderBook) (buy : Bool) : List Order :=
  (book.levels buy).flatMap fun level => level.2.map book.load

theorem mem_queue {book : OrderBook} {buy : Bool} {order : Order} :
    order ∈ book.queue buy ↔
      ∃ price ptr, book.OnLevel buy price ptr ∧ book.load ptr = order := by
  simp only [queue, List.mem_flatMap, List.mem_map, OnLevel, Prod.exists]
  constructor
  · rintro ⟨price, level, member, ptr, ptrMem, rfl⟩
    exact ⟨price, ptr, ⟨level, member, ptrMem⟩, rfl⟩
  · rintro ⟨price, ptr, ⟨level, member, ptrMem⟩, rfl⟩
    exact ⟨price, level, member, ptr, ptrMem, rfl⟩

namespace Valid

variable {book : OrderBook}

theorem mem_queue_iff_live (valid : book.Valid) {buy : Bool} {order : Order} :
    order ∈ book.queue buy ↔
      ∃ ptr, book.Live ptr ∧ book.load ptr = order ∧ order.side.isBuy = buy := by
  rw [mem_queue]
  constructor
  · rintro ⟨price, ptr, onLevel, rfl⟩
    exact ⟨ptr, valid.live_of_onLevel onLevel, rfl, (valid.placed _ _ _ onLevel).2.1⟩
  · rintro ⟨ptr, live, rfl, sideEq⟩
    subst sideEq
    exact ⟨_, ptr, valid.onLevel_of_live live, rfl⟩

theorem side_of_mem_queue (valid : book.Valid) {buy : Bool} {order : Order}
    (member : order ∈ book.queue buy) : order.side.isBuy = buy := by
  obtain ⟨-, -, -, sideEq⟩ := valid.mem_queue_iff_live.mp member
  exact sideEq

theorem price_num_of_mem_queue (valid : book.Valid) {buy : Bool} {order : Order}
    (member : order ∈ book.queue buy) : order.price ≠ .nan := by
  obtain ⟨price, ptr, onLevel, rfl⟩ := mem_queue.mp member
  rw [(valid.placed _ _ _ onLevel).1]
  exact valid.key_num onLevel

theorem eq_of_id_eq (valid : book.Valid) {firstBuy secondBuy : Bool}
    {first second : Order} (firstMem : first ∈ book.queue firstBuy)
    (secondMem : second ∈ book.queue secondBuy) (same : first.id = second.id) :
    first = second := by
  obtain ⟨firstPtr, firstLive, rfl, -⟩ := valid.mem_queue_iff_live.mp firstMem
  obtain ⟨secondPtr, secondLive, rfl, -⟩ := valid.mem_queue_iff_live.mp secondMem
  rw [ptr_eq_of_id_eq firstLive secondLive same]

theorem id_ne_of_opposite (valid : book.Valid) {buy : Bool} {first second : Order}
    (firstMem : first ∈ book.queue buy) (secondMem : second ∈ book.queue (!buy)) :
    first.id ≠ second.id := by
  intro same
  have firstSide := valid.side_of_mem_queue firstMem
  have secondSide := valid.side_of_mem_queue secondMem
  rw [valid.eq_of_id_eq firstMem secondMem same, secondSide] at firstSide
  cases buy <;> simp at firstSide

theorem id_bounds_of_mem_queue (valid : book.Valid) {buy : Bool} {order : Order}
    (member : order ∈ book.queue buy) : 1 ≤ order.id ∧ order.id < book.nextOrderId := by
  obtain ⟨ptr, live, rfl, -⟩ := valid.mem_queue_iff_live.mp member
  exact valid.idBounds _ _ live

theorem queue_prior (valid : book.Valid) (buy : Bool) :
    (book.queue buy).Pairwise (Prior buy) := by
  have priceOf : ∀ level ∈ book.levels buy, ∀ ptr ∈ level.2,
      (book.load ptr).price = level.1 :=
    fun level levelMem ptr ptrMem =>
      (valid.placed buy level.1 ptr ⟨level.2, levelMem, ptrMem⟩).1
  rw [queue, List.pairwise_flatMap]
  constructor
  · intro level levelMem
    rw [List.pairwise_map]
    refine (valid.fifo buy level levelMem).imp_of_mem ?_
    intro first second firstMem secondMem less
    right
    rw [priceOf level levelMem first firstMem, priceOf level levelMem second secondMem]
    exact ⟨rfl, less⟩
  · refine (valid.sorted buy).imp_of_mem ?_
    intro first second firstMem secondMem firstBetter order orderMem other otherMem
    obtain ⟨ptr, ptrMem, rfl⟩ := List.mem_map.mp orderMem
    obtain ⟨otherPtr, otherPtrMem, rfl⟩ := List.mem_map.mp otherMem
    left
    rw [priceOf first firstMem ptr ptrMem, priceOf second secondMem otherPtr otherPtrMem]
    exact firstBetter

theorem queue_ids_ne (valid : book.Valid) (buy : Bool) :
    (book.queue buy).Pairwise fun first second => first.id ≠ second.id := by
  refine (valid.queue_prior buy).imp_of_mem ?_
  intro first second firstMem secondMem prior same
  have equal := valid.eq_of_id_eq firstMem secondMem same
  subst equal
  rcases prior with selfBetter | ⟨-, less⟩
  · rw [(better_strictOn buy).irrefl (valid.price_num_of_mem_queue firstMem)] at selfBetter
    exact Bool.noConfusion selfBetter
  · exact lt_irrefl _ less

theorem lookup_isSome_iff (valid : book.Valid) {id : Nat} :
    (∃ location, book.orderLookup.lookup id = some location) ↔
      ∃ buy, ∃ order ∈ book.queue buy, order.id = id := by
  constructor
  · rintro ⟨location, found⟩
    obtain ⟨onLevel, idEq⟩ := valid.indexed id location found
    exact ⟨_, _, mem_queue.mpr ⟨_, _, onLevel, rfl⟩, idEq⟩
  · rintro ⟨buy, order, member, rfl⟩
    obtain ⟨ptr, live, rfl, -⟩ := valid.mem_queue_iff_live.mp member
    exact ⟨_, live⟩

theorem queue_eq_nil_iff (valid : book.Valid) (buy : Bool) :
    book.queue buy = [] ↔ book.levels buy = [] := by
  unfold queue
  constructor
  · intro empty
    cases shape : book.levels buy with
    | nil => rfl
    | cons level rest =>
        rw [shape, List.flatMap_cons, List.append_eq_nil_iff, List.map_eq_nil_iff] at empty
        exact absurd empty.1 (valid.nonempty buy level (by simp [shape]))
  · intro empty
    rw [empty]
    rfl

theorem queue_of_bestLevel (valid : book.Valid) {buy : Bool} {ptr : Nat} {rest : List Nat}
    (best : book.bestLevel buy = some (ptr :: rest)) :
    book.Live ptr ∧ ∃ tail, book.queue buy = book.load ptr :: tail := by
  unfold bestLevel at best
  cases shape : book.levels buy with
  | nil => simp [shape] at best
  | cons level levels =>
      simp only [shape, Option.some.injEq] at best
      have levelMem : (level.1, level.2) ∈ book.levels buy := by simp [shape]
      constructor
      · exact valid.live_of_onLevel ⟨level.2, levelMem, by simp [best]⟩
      · rw [queue, shape, List.flatMap_cons, best]
        exact ⟨_, rfl⟩

theorem bestLevel_of_queue (valid : book.Valid) {buy : Bool} {order : Order}
    {tail : List Order} (shape : book.queue buy = order :: tail) :
    ∃ ptr rest, book.bestLevel buy = some (ptr :: rest) ∧ book.load ptr = order := by
  unfold bestLevel
  cases levelsShape : book.levels buy with
  | nil =>
      rw [(valid.queue_eq_nil_iff buy).mpr levelsShape] at shape
      cases shape
  | cons level levels =>
      cases levelShape : level.2 with
      | nil => exact absurd levelShape (valid.nonempty buy level (by simp [levelsShape]))
      | cons ptr rest =>
          refine ⟨ptr, rest, by simp [levelShape], ?_⟩
          rw [queue, levelsShape, List.flatMap_cons, levelShape] at shape
          exact (List.cons.inj shape).1

end Valid

/-! ### Updates of the book as updates of the queue -/

section Updates

variable {book : OrderBook}

theorem queue_store {ptr : Nat} (valid : book.Valid) (live : book.Live ptr)
    (order : Order) (idEq : order.id = (book.load ptr).id) (buy : Bool) :
    (book.store ptr order).queue buy = replaceOrder order (book.queue buy) := by
  unfold queue replaceOrder
  rw [List.map_flatMap, levels_store]
  apply List.flatMap_congr
  intro level levelMem
  rw [List.map_map]
  apply List.map_congr_left
  intro other otherMem
  have otherLive := valid.live_of_onLevel ⟨level.2, levelMem, otherMem⟩
  by_cases same : other = ptr
  · subst same
    simp [idEq]
  · rw [load_store_of_ne _ _ _ same, Function.comp_apply, if_neg]
    intro sameId
    exact same (Valid.ptr_eq_of_id_eq otherLive live (sameId.trans idEq))

theorem flatMap_load_addOrder (valid : book.Valid) (side : Side) (type : OrderType)
    (price : Price) (quantity : Quantity) (now : Nat) {buy : Bool}
    {entries : List (Price × PriceLevel)}
    (within : ∀ level ∈ entries, level ∈ book.levels buy) :
    (entries.flatMap fun level =>
        level.2.map (book.addOrder side type price quantity now).1.load) =
      entries.flatMap fun level => level.2.map book.load := by
  apply List.flatMap_congr
  intro level levelMem
  apply List.map_congr_left
  intro ptr ptrMem
  exact load_addOrder_of_ne _ _ _ _ _ _
    (valid.ne_acquired ⟨level.2, within level levelMem, ptrMem⟩)

theorem queue_addOrder (valid : book.Valid) (side : Side) (type : OrderType)
    {price : Price} (quantity : Quantity) (now : Nat) (priceNum : price ≠ .nan)
    (buy : Bool) :
    (book.addOrder side type price quantity now).1.queue buy =
      if buy = side.isBuy then
        insertOrder buy (book.addedOrder side type price quantity now) (book.queue buy)
      else book.queue buy := by
  by_cases own : buy = side.isBuy
  · subst own
    rw [if_pos rfl]
    obtain ⟨front, level, back, shape, frontBefore, backAfter, before⟩ :=
      valid.addOrder_split side type quantity now priceNum
    have strict := better_strictOn side.isBuy
    have frontMem : ∀ entry ∈ front, entry ∈ book.levels side.isBuy := by
      intro entry member
      rcases before with ⟨-, before⟩ | before <;> simp [before, member]
    have backMem : ∀ entry ∈ back, entry ∈ book.levels side.isBuy := by
      intro entry member
      rcases before with ⟨-, before⟩ | before <;> simp [before, member]
    have levelLoad : level.map (book.addOrder side type price quantity now).1.load =
        level.map book.load := by
      rcases before with ⟨rfl, -⟩ | before
      · rfl
      · have joined : ∀ entry ∈ [(price, level)], entry ∈ book.levels side.isBuy := by
          simp [before]
        simpa using flatMap_load_addOrder valid side type price quantity now joined
    have queueShape : book.queue side.isBuy =
        ((front.flatMap fun entry => entry.2.map book.load) ++ level.map book.load) ++
          back.flatMap fun entry => entry.2.map book.load := by
      rcases before with ⟨rfl, before⟩ | before
      · rw [queue, before]
        simp
      · rw [queue, before]
        simp
    rw [queue, shape, queueShape, insertOrder_append]
    · simp only [List.flatMap_append, List.flatMap_cons, List.map_append, List.map_cons,
        List.map_nil, levelLoad, load_addOrder_self,
        flatMap_load_addOrder valid side type price quantity now frontMem,
        flatMap_load_addOrder valid side type price quantity now backMem]
      simp
    · -- everything up to the joined level has a price at least as good
      intro other otherMem
      rw [List.mem_append, List.mem_flatMap, List.mem_map] at otherMem
      rcases otherMem with ⟨entry, entryMem, otherMem⟩ | ⟨ptr, ptrMem, rfl⟩
      · obtain ⟨ptr, ptrMem, rfl⟩ := List.mem_map.mp otherMem
        have onLevel : book.OnLevel side.isBuy entry.1 ptr :=
          ⟨entry.2, frontMem entry entryMem, ptrMem⟩
        rw [(valid.placed _ _ _ onLevel).1]
        exact strict.asymm (valid.key_num onLevel) priceNum (frontBefore entry entryMem)
      · rcases before with ⟨rfl, -⟩ | before
        · simp at ptrMem
        · have onLevel : book.OnLevel side.isBuy price ptr :=
            ⟨level, by simp [before], ptrMem⟩
          rw [(valid.placed _ _ _ onLevel).1]
          exact strict.irrefl priceNum
    · intro other otherMem
      obtain ⟨entry, entryMem, otherMem⟩ := List.mem_flatMap.mp otherMem
      obtain ⟨ptr, ptrMem, rfl⟩ := List.mem_map.mp otherMem
      have onLevel : book.OnLevel side.isBuy entry.1 ptr :=
        ⟨entry.2, backMem entry entryMem, ptrMem⟩
      rw [(valid.placed _ _ _ onLevel).1]
      exact backAfter entry entryMem
  · rw [if_neg own, queue, levels_addOrder, if_neg own]
    exact flatMap_load_addOrder valid side type price quantity now fun _ levelMem => levelMem

theorem queue_unlink {id : Nat} {location : OrderLocation} (valid : book.Valid)
    (found : book.orderLookup.lookup id = some location) (ptr : Nat) (buy : Bool) :
    (book.unlink id location ptr).queue buy = dropOrder id (book.queue buy) := by
  have idEq := (valid.indexed id location found).2
  have locationLive := valid.live_of_lookup found
  -- on a level, the orders with another identifier are the other nodes
  have filterLevel : ∀ level ∈ book.levels buy,
      (level.2.map book.load).filter (fun other => other.id ≠ id) =
        (level.2.erase location.iterator).map book.load := by
    intro level levelMem
    rw [(valid.level_nodup levelMem).erase_eq_filter, List.filter_map]
    congr 1
    apply List.filter_congr
    intro other otherMem
    have otherLive := valid.live_of_onLevel ⟨level.2, levelMem, otherMem⟩
    have sameIff : (book.load other).id = id ↔ other = location.iterator := by
      constructor
      · intro same
        exact Valid.ptr_eq_of_id_eq otherLive locationLive (same.trans idEq.symm)
      · rintro rfl
        exact idEq
    rw [Function.comp_apply, Bool.eq_iff_iff]
    simp [sameIff]
  have loadEq : (book.unlink id location ptr).load = book.load :=
    funext fun other => load_unlink _ _ _ _ other
  rw [dropOrder, queue, queue, List.filter_flatMap, List.flatMap_congr filterLevel, loadEq]
  by_cases own : buy = location.side.isBuy
  · subst own
    obtain ⟨front, level, back, shape, -, elsewhere, after⟩ := valid.unlink_split ptr found
    have unchanged : ∀ entries : List (Price × PriceLevel),
        (∀ entry ∈ entries, location.iterator ∉ entry.2) →
        (entries.flatMap fun entry => (entry.2.erase location.iterator).map book.load) =
          entries.flatMap fun entry => entry.2.map book.load := by
      intro entries absent
      apply List.flatMap_congr
      intro entry member
      rw [List.erase_of_not_mem (absent entry member)]
    rw [after, shape]
    simp only [List.flatMap_append, List.flatMap_cons]
    rw [unchanged front fun entry member => elsewhere entry (by simp [member]),
      unchanged back fun entry member => elsewhere entry (by simp [member])]
    unfold keptLevel
    split
    · next empty => simp [empty]
    · simp
  · rw [levels_unlink_other _ _ _ _ own]
    apply List.flatMap_congr
    intro level levelMem
    rw [List.erase_of_not_mem]
    intro iteratorMem
    have levelSide := (valid.placed buy level.1 _ ⟨level.2, levelMem, iteratorMem⟩).2.1
    have locationSide := (valid.placed _ _ _ (valid.indexed id location found).1).2.1
    exact own (levelSide.symm.trans locationSide)

end Updates

end OrderBookExchange.OrderBook
