import OrderBookExchange.OrderBook

/-!
# The representation invariant of the order book

The price maps, the index and the pool are updated separately.  `Valid` ties
them together: the index and the queue nodes name each other, levels are
nonempty and sorted, and every queue is in identifier order.  This file proves
that rewriting an order in place and adding one both keep it.
-/

namespace OrderBookExchange

theorem better_strictOn (buy : Bool) :
    SortedMap.StrictOn (· ≠ Double.nan) (better buy) where
  asymm := by
    intro first second firstNum secondNum firstBetter
    cases buy
    · simp only [better] at firstBetter ⊢
      rw [Double.lt_eq_true_iff firstNum secondNum] at firstBetter
      rw [Double.lt_eq_false_iff secondNum firstNum]
      exact le_of_lt firstBetter
    · simp only [better] at firstBetter ⊢
      rw [Double.lt_eq_true_iff secondNum firstNum] at firstBetter
      rw [Double.lt_eq_false_iff firstNum secondNum]
      exact le_of_lt firstBetter
  trans := by
    intro first second third firstNum secondNum thirdNum firstBetter secondBetter
    cases buy
    · simp only [better] at firstBetter secondBetter ⊢
      rw [Double.lt_eq_true_iff] at * <;> try assumption
      exact lt_trans firstBetter secondBetter
    · simp only [better] at firstBetter secondBetter ⊢
      rw [Double.lt_eq_true_iff] at * <;> try assumption
      exact lt_trans secondBetter firstBetter
  eq_of_unordered := by
    intro first second firstNum secondNum firstNot secondNot
    cases buy
    · simp only [better] at firstNot secondNot
      rw [Double.lt_eq_false_iff] at * <;> try assumption
      exact le_antisymm secondNot firstNot
    · simp only [better] at firstNot secondNot
      rw [Double.lt_eq_false_iff] at * <;> try assumption
      exact le_antisymm firstNot secondNot

namespace OrderBook

/-- A queue node holding `ptr` lies in the level at `price` on a side. -/
def OnLevel (book : OrderBook) (buy : Bool) (price : Price) (ptr : Nat) : Prop :=
  ∃ level, (price, level) ∈ book.levels buy ∧ ptr ∈ level

/-- The representation invariant. -/
structure Valid (book : OrderBook) : Prop where
  sorted : ∀ buy, SortedMap.Sorted (better buy) (book.levels buy)
  keysValid : ∀ buy, SortedMap.KeysValid (· ≠ Double.nan) (book.levels buy)
  nonempty : ∀ buy, ∀ level ∈ book.levels buy, level.2 ≠ []
  fifo : ∀ buy, ∀ level ∈ book.levels buy,
    level.2.Pairwise fun first second => (book.load first).id < (book.load second).id
  placed : ∀ buy price ptr, book.OnLevel buy price ptr →
    (book.load ptr).price = price ∧ (book.load ptr).side.isBuy = buy ∧
      book.orderLookup.lookup (book.load ptr).id =
        some ⟨(book.load ptr).side, price, ptr⟩
  indexed : ∀ id location, book.orderLookup.lookup id = some location →
    book.OnLevel location.side.isBuy location.price location.iterator ∧
      (book.load location.iterator).id = id
  idBounds : ∀ id location, book.orderLookup.lookup id = some location →
    1 ≤ id ∧ id < book.nextOrderId
  nextPositive : 1 ≤ book.nextOrderId
  poolSound : book.orderPool.Sound
  inUse : ∀ id location, book.orderLookup.lookup id = some location →
    book.orderPool.InUse location.iterator

/-- A pointer the index refers to under the identifier of its order. -/
def Live (book : OrderBook) (ptr : Nat) : Prop :=
  book.orderLookup.lookup (book.load ptr).id =
    some ⟨(book.load ptr).side, (book.load ptr).price, ptr⟩

namespace Valid

variable {book : OrderBook}

theorem live_of_onLevel (valid : book.Valid) {buy : Bool} {price : Price} {ptr : Nat}
    (onLevel : book.OnLevel buy price ptr) : book.Live ptr := by
  obtain ⟨priceEq, -, found⟩ := valid.placed buy price ptr onLevel
  rw [Live, priceEq]
  exact found

theorem lookup_location (valid : book.Valid) {id : Nat} {location : OrderLocation}
    (found : book.orderLookup.lookup id = some location) :
    (book.load location.iterator).id = id ∧
      (book.load location.iterator).side = location.side ∧
      (book.load location.iterator).price = location.price := by
  obtain ⟨onLevel, idEq⟩ := valid.indexed id location found
  obtain ⟨priceEq, -, back⟩ := valid.placed _ _ _ onLevel
  rw [idEq, found] at back
  have sideEq := congrArg OrderLocation.side (Option.some.inj back)
  exact ⟨idEq, sideEq.symm, priceEq⟩

theorem live_of_lookup (valid : book.Valid) {id : Nat} {location : OrderLocation}
    (found : book.orderLookup.lookup id = some location) :
    book.Live location.iterator :=
  valid.live_of_onLevel (valid.indexed id location found).1

theorem onLevel_of_live (valid : book.Valid) {ptr : Nat} (live : book.Live ptr) :
    book.OnLevel (book.load ptr).side.isBuy (book.load ptr).price ptr :=
  (valid.indexed _ _ live).1

theorem ptr_eq_of_id_eq {first second : Nat}
    (firstLive : book.Live first) (secondLive : book.Live second)
    (same : (book.load first).id = (book.load second).id) : first = second := by
  rw [Live, same] at firstLive
  exact congrArg OrderLocation.iterator
    (Option.some.inj (firstLive.symm.trans secondLive))

theorem level_nodup (valid : book.Valid) {buy : Bool} {level : Price × PriceLevel}
    (member : level ∈ book.levels buy) : level.2.Nodup := by
  refine (valid.fifo buy level member).imp ?_
  intro first second less same
  rw [same] at less
  exact lt_irrefl _ less

theorem key_num (valid : book.Valid) {buy : Bool} {price : Price} {ptr : Nat}
    (onLevel : book.OnLevel buy price ptr) : price ≠ .nan := by
  obtain ⟨level, member, -⟩ := onLevel
  exact valid.keysValid buy _ member

theorem exists_level (valid : book.Valid) {buy : Bool} {price : Price} {ptr : Nat}
    (onLevel : book.OnLevel buy price ptr) :
    ∃ front level back, book.levels buy = front ++ (price, level) :: back ∧
      ptr ∈ level ∧ (∀ entry ∈ front, better buy entry.1 price = true) ∧
      (∀ entry ∈ back, better buy price entry.1 = true) ∧
      (∀ entry ∈ front ++ back, ptr ∉ entry.2) := by
  have priceNum := valid.key_num onLevel
  obtain ⟨priceEq, -, -⟩ := valid.placed _ _ _ onLevel
  obtain ⟨level, member, ptrMem⟩ := onLevel
  obtain ⟨front, back, shape⟩ := List.append_of_mem member
  have sorted := valid.sorted buy
  rw [shape, SortedMap.sorted_split_iff] at sorted
  obtain ⟨-, -, frontBefore, backAfter, -⟩ := sorted
  refine ⟨front, level, back, shape, ptrMem, frontBefore, backAfter, ?_⟩
  intro entry entryMem ptrIn
  have entryOn : book.OnLevel buy entry.1 ptr := by
    refine ⟨entry.2, ?_, ptrIn⟩
    rw [shape]
    rcases List.mem_append.mp entryMem with inFront | inBack
    · simp [inFront]
    · simp [inBack]
  have keyEq : entry.1 = price := by
    rw [← (valid.placed _ _ _ entryOn).1, priceEq]
  have irrefl := (better_strictOn buy).irrefl priceNum
  rcases List.mem_append.mp entryMem with inFront | inBack
  · have := frontBefore entry inFront
    rw [keyEq, irrefl] at this
    exact Bool.noConfusion this
  · have := backAfter entry inBack
    rw [keyEq, irrefl] at this
    exact Bool.noConfusion this

end Valid

theorem valid_new (symbol : Symbol) (poolSize : Nat) : (new symbol poolSize).Valid where
  sorted := by intro buy; cases buy <;> exact List.Pairwise.nil
  keysValid := by
    intro buy entry member
    cases buy <;> simp [new, levels] at member
  nonempty := by
    intro buy level member
    cases buy <;> simp [new, levels] at member
  fifo := by
    intro buy level member
    cases buy <;> simp [new, levels] at member
  placed := by
    rintro buy price ptr ⟨level, member, -⟩
    cases buy <;> simp [new, levels] at member
  indexed := by
    intro id location found
    simp [new] at found
  idBounds := by
    intro id location found
    simp [new] at found
  nextPositive := le_rfl
  poolSound := ObjectPool.sound_new poolSize
  inUse := by
    intro id location found
    simp [new] at found

/-! ### Rewriting an order in place -/

section Store

variable {book : OrderBook} {ptr : Nat} {order : Order}

theorem onLevel_store {buy : Bool} {price : Price} {other : Nat} :
    (book.store ptr order).OnLevel buy price other ↔ book.OnLevel buy price other := by
  simp [OnLevel]

/-- A rewrite that keeps identifier, side and price keeps them for every
pointer. -/
theorem load_store_key (idEq : order.id = (book.load ptr).id)
    (sideEq : order.side = (book.load ptr).side)
    (priceEq : order.price = (book.load ptr).price) (other : Nat) :
    ((book.store ptr order).load other).id = (book.load other).id ∧
      ((book.store ptr order).load other).side = (book.load other).side ∧
      ((book.store ptr order).load other).price = (book.load other).price := by
  by_cases same : other = ptr
  · subst same
    simp [idEq, sideEq, priceEq]
  · simp [load_store_of_ne _ _ _ same]

theorem Valid.store (valid : book.Valid) (ptr : Nat) (order : Order)
    (idEq : order.id = (book.load ptr).id) (sideEq : order.side = (book.load ptr).side)
    (priceEq : order.price = (book.load ptr).price) :
    (book.store ptr order).Valid := by
  have key := load_store_key idEq sideEq priceEq
  constructor
  case sorted => simpa using valid.sorted
  case keysValid => simpa using valid.keysValid
  case nonempty => simpa only [levels_store] using valid.nonempty
  case fifo =>
    intro buy level member
    rw [levels_store] at member
    refine (valid.fifo buy level member).imp ?_
    intro first second less
    rwa [(key first).1, (key second).1]
  case placed =>
    intro buy price other onLevel
    rw [onLevel_store] at onLevel
    rw [(key other).1, (key other).2.1, (key other).2.2]
    exact valid.placed buy price other onLevel
  case indexed =>
    intro id location found
    rw [onLevel_store, (key location.iterator).1]
    exact valid.indexed id location found
  case idBounds => exact valid.idBounds
  case nextPositive => exact valid.nextPositive
  case poolSound => exact ⟨valid.poolSound.free_nodup, valid.poolSound.free_lt⟩
  case inUse => exact valid.inUse

theorem live_store (ptr : Nat) (order : Order) (idEq : order.id = (book.load ptr).id)
    (sideEq : order.side = (book.load ptr).side)
    (priceEq : order.price = (book.load ptr).price) {other : Nat}
    (otherLive : book.Live other) : (book.store ptr order).Live other := by
  obtain ⟨otherId, otherSide, otherPrice⟩ := load_store_key idEq sideEq priceEq other
  rw [Live, otherId, otherSide, otherPrice]
  exact otherLive

end Store

/-! ### Adding an order -/

section Add

variable (book : OrderBook) (side : Side) (type : OrderType) (price : Price)
  (quantity : Quantity) (now : Nat)

/-- The order `add_order` writes into the pool. -/
def addedOrder : Order :=
  Order.new book.nextOrderId side type price quantity now

theorem addOrder_ptr :
    (book.addOrder side type price quantity now).2 = book.orderPool.acquire.1 :=
  rfl

theorem levels_addOrder (buy : Bool) :
    (book.addOrder side type price quantity now).1.levels buy =
      if buy = side.isBuy then
        SortedMap.upsert (better side.isBuy) price []
          (· ++ [book.orderPool.acquire.1]) (book.levels side.isBuy)
      else book.levels buy := by
  rw [← levels_withLevels]
  cases buy <;> rfl

theorem orderLookup_addOrder :
    (book.addOrder side type price quantity now).1.orderLookup =
      book.orderLookup.insert book.nextOrderId
        ⟨side, price, book.orderPool.acquire.1⟩ :=
  rfl

@[simp]
theorem nextOrderId_addOrder :
    (book.addOrder side type price quantity now).1.nextOrderId = book.nextOrderId + 1 :=
  rfl

theorem load_addOrder_self :
    (book.addOrder side type price quantity now).1.load book.orderPool.acquire.1 =
      book.addedOrder side type price quantity now := by
  simp [addOrder, load, addedOrder]

theorem load_addOrder_of_ne {ptr : Nat} (different : ptr ≠ book.orderPool.acquire.1) :
    (book.addOrder side type price quantity now).1.load ptr = book.load ptr := by
  simp [addOrder, load, ObjectPool.load_store_of_ne _ _ different]

variable {book price}

/-- The map of the order's own side after `add_order`: the level it joins, or
a new level holding it alone. -/
theorem Valid.addOrder_split (valid : book.Valid) (priceNum : price ≠ .nan) :
    ∃ front level back,
      (book.addOrder side type price quantity now).1.levels side.isBuy =
        front ++ (price, level ++ [book.orderPool.acquire.1]) :: back ∧
      (∀ entry ∈ front, better side.isBuy entry.1 price = true) ∧
      (∀ entry ∈ back, better side.isBuy price entry.1 = true) ∧
      (level = [] ∧ book.levels side.isBuy = front ++ back ∨
        book.levels side.isBuy = front ++ (price, level) :: back) := by
  have strict := better_strictOn side.isBuy
  rw [levels_addOrder, if_pos rfl]
  obtain ⟨front, back, frontBefore, backAfter, absent | ⟨level, present⟩⟩ :=
    SortedMap.exists_split strict (valid.sorted side.isBuy)
      (valid.keysValid side.isBuy) priceNum
  · refine ⟨front, [], back, ?_, frontBefore, backAfter, Or.inl ⟨rfl, absent⟩⟩
    have backValid : SortedMap.KeysValid (· ≠ Double.nan) back :=
      fun entry member => valid.keysValid side.isBuy entry (by simp [absent, member])
    rw [absent, SortedMap.upsert_of_absent strict priceNum backValid frontBefore
      backAfter]
  · refine ⟨front, level, back, ?_, frontBefore, backAfter, Or.inr present⟩
    rw [present, SortedMap.upsert_of_present strict priceNum frontBefore]

theorem exists_level_split {front back : List (Price × PriceLevel)} {key atPrice : Price}
    {level : PriceLevel} {ptr : Nat} :
    (∃ nodes, (atPrice, nodes) ∈ front ++ (key, level) :: back ∧ ptr ∈ nodes) ↔
      (∃ nodes, (atPrice, nodes) ∈ front ++ back ∧ ptr ∈ nodes) ∨
        (atPrice = key ∧ ptr ∈ level) := by
  constructor
  · rintro ⟨nodes, member, onNodes⟩
    rcases List.mem_append.mp member with inFront | inRest
    · exact Or.inl ⟨nodes, List.mem_append_left _ inFront, onNodes⟩
    · rcases List.mem_cons.mp inRest with isLevel | inBack
      · obtain ⟨rfl, rfl⟩ := Prod.mk.inj isLevel
        exact Or.inr ⟨rfl, onNodes⟩
      · exact Or.inl ⟨nodes, List.mem_append_right _ inBack, onNodes⟩
  · rintro (⟨nodes, member, onNodes⟩ | ⟨rfl, onLevel⟩)
    · refine ⟨nodes, ?_, onNodes⟩
      rcases List.mem_append.mp member with inFront | inBack
      · exact List.mem_append_left _ inFront
      · exact List.mem_append_right _ (List.mem_cons_of_mem _ inBack)
    · exact ⟨level, List.mem_append_right _ List.mem_cons_self, onLevel⟩

theorem Valid.onLevel_addOrder (valid : book.Valid) (priceNum : price ≠ .nan)
    {buy : Bool} {atPrice : Price} {ptr : Nat} :
    (book.addOrder side type price quantity now).1.OnLevel buy atPrice ptr ↔
      book.OnLevel buy atPrice ptr ∨
        (buy = side.isBuy ∧ atPrice = price ∧ ptr = book.orderPool.acquire.1) := by
  by_cases own : buy = side.isBuy
  · subst own
    obtain ⟨front, level, back, shape, -, -, before⟩ :=
      valid.addOrder_split side type quantity now priceNum
    unfold OnLevel
    rw [shape, exists_level_split]
    rcases before with ⟨rfl, before⟩ | before
    · simp [before]
    · rw [before, exists_level_split, List.mem_append, List.mem_singleton, and_or_left, or_assoc]
      simp
  · simp [OnLevel, levels_addOrder, own]

theorem Valid.ne_acquired (valid : book.Valid) {buy : Bool} {atPrice : Price} {ptr : Nat}
    (onLevel : book.OnLevel buy atPrice ptr) : ptr ≠ book.orderPool.acquire.1 := by
  rintro rfl
  have found := (valid.placed _ _ _ onLevel).2.2
  exact valid.poolSound.acquired_inUse.2 (valid.inUse _ _ found)

theorem Valid.sorted_addOrder (valid : book.Valid) (priceNum : price ≠ .nan) (buy : Bool) :
    SortedMap.Sorted (better buy)
      ((book.addOrder side type price quantity now).1.levels buy) := by
  by_cases own : buy = side.isBuy
  · subst own
    obtain ⟨front, level, back, shape, frontBefore, backAfter, before⟩ :=
      valid.addOrder_split side type quantity now priceNum
    have sorted := valid.sorted side.isBuy
    rw [shape, SortedMap.sorted_split_iff]
    rcases before with ⟨-, before⟩ | before
    · rw [before, SortedMap.Sorted, List.pairwise_append] at sorted
      exact ⟨sorted.1, sorted.2.1, frontBefore, backAfter, sorted.2.2⟩
    · rw [before, SortedMap.sorted_split_iff] at sorted
      exact sorted
  · simpa [levels_addOrder, own] using valid.sorted buy

theorem Valid.mem_levels_addOrder (valid : book.Valid) (priceNum : price ≠ .nan)
    {buy : Bool} {entry : Price × PriceLevel}
    (member : entry ∈ (book.addOrder side type price quantity now).1.levels buy) :
    entry ∈ book.levels buy ∨
      ∃ level, entry = (price, level ++ [book.orderPool.acquire.1]) ∧
        (level = [] ∨ (price, level) ∈ book.levels buy) := by
  by_cases own : buy = side.isBuy
  · subst own
    obtain ⟨front, level, back, shape, -, -, before⟩ :=
      valid.addOrder_split side type quantity now priceNum
    rw [shape] at member
    have cases : entry ∈ front ++ back ∨
        entry = (price, level ++ [book.orderPool.acquire.1]) := by
      simp only [List.mem_append, List.mem_cons] at member ⊢
      tauto
    rcases cases with old | rfl
    · left
      rcases before with ⟨-, before⟩ | before
      · rwa [before]
      · rw [before]
        simp only [List.mem_append, List.mem_cons] at old ⊢
        tauto
    · right
      refine ⟨level, rfl, ?_⟩
      rcases before with ⟨empty, -⟩ | before
      · exact Or.inl empty
      · exact Or.inr (by simp [before])
  · rw [levels_addOrder, if_neg own] at member
    exact Or.inl member

theorem Valid.fifo_addOrder (valid : book.Valid) (priceNum : price ≠ .nan) {buy : Bool}
    {entry : Price × PriceLevel}
    (member : entry ∈ (book.addOrder side type price quantity now).1.levels buy) :
    entry.2.Pairwise fun first second =>
      ((book.addOrder side type price quantity now).1.load first).id <
        ((book.addOrder side type price quantity now).1.load second).id := by
  have loadOld : ∀ {atPrice level ptr}, (atPrice, level) ∈ book.levels buy →
      ptr ∈ level →
        (book.addOrder side type price quantity now).1.load ptr = book.load ptr := by
    intro atPrice level ptr levelMem ptrMem
    exact load_addOrder_of_ne _ _ _ _ _ _ (valid.ne_acquired ⟨level, levelMem, ptrMem⟩)
  have oldFifo : ∀ {atPrice level}, (atPrice, level) ∈ book.levels buy →
      level.Pairwise fun first second =>
        ((book.addOrder side type price quantity now).1.load first).id <
          ((book.addOrder side type price quantity now).1.load second).id := by
    intro atPrice level levelMem
    refine (valid.fifo buy _ levelMem).imp_of_mem ?_
    intro first second firstMem secondMem less
    rwa [loadOld levelMem firstMem, loadOld levelMem secondMem]
  rcases valid.mem_levels_addOrder side type quantity now priceNum member with
    old | ⟨level, rfl, joined⟩
  · exact oldFifo old
  · rcases joined with rfl | levelMem
    · simp
    · rw [List.pairwise_append]
      refine ⟨oldFifo levelMem, by simp, ?_⟩
      intro first firstMem second secondMem
      rw [List.mem_singleton.mp secondMem, load_addOrder_self,
        loadOld levelMem firstMem]
      have found := (valid.placed _ _ _ ⟨level, levelMem, firstMem⟩).2.2
      exact (valid.idBounds _ _ found).2

theorem Valid.addOrder (valid : book.Valid) (priceNum : price ≠ .nan) :
    (book.addOrder side type price quantity now).1.Valid := by
  constructor
  case sorted => exact valid.sorted_addOrder side type quantity now priceNum
  case keysValid =>
    intro buy entry member
    rcases valid.mem_levels_addOrder side type quantity now priceNum member with
      old | ⟨level, rfl, -⟩
    · exact valid.keysValid buy entry old
    · exact priceNum
  case nonempty =>
    intro buy entry member
    rcases valid.mem_levels_addOrder side type quantity now priceNum member with
      old | ⟨level, rfl, -⟩
    · exact valid.nonempty buy entry old
    · simp
  case fifo =>
    intro buy entry member
    exact valid.fifo_addOrder side type quantity now priceNum member
  case placed =>
    intro buy atPrice ptr onLevel
    rw [valid.onLevel_addOrder side type quantity now priceNum] at onLevel
    rcases onLevel with old | ⟨rfl, rfl, rfl⟩
    · rw [load_addOrder_of_ne _ _ _ _ _ _ (valid.ne_acquired old)]
      obtain ⟨priceEq, sideEq, found⟩ := valid.placed buy atPrice ptr old
      refine ⟨priceEq, sideEq, ?_⟩
      have below := (valid.idBounds _ _ found).2
      rw [orderLookup_addOrder, Finmap.lookup_insert_of_ne _ (by omega)]
      exact found
    · rw [load_addOrder_self, orderLookup_addOrder]
      exact ⟨rfl, rfl, Finmap.lookup_insert _⟩
  case indexed =>
    intro id location found
    rw [valid.onLevel_addOrder side type quantity now priceNum]
    rw [orderLookup_addOrder] at found
    by_cases fresh : id = book.nextOrderId
    · subst fresh
      rw [Finmap.lookup_insert] at found
      cases found
      rw [load_addOrder_self]
      exact ⟨Or.inr ⟨rfl, rfl, rfl⟩, rfl⟩
    · rw [Finmap.lookup_insert_of_ne _ fresh] at found
      obtain ⟨onLevel, idEq⟩ := valid.indexed id location found
      rw [load_addOrder_of_ne _ _ _ _ _ _ (valid.ne_acquired onLevel)]
      exact ⟨Or.inl onLevel, idEq⟩
  case idBounds =>
    intro id location found
    rw [nextOrderId_addOrder]
    rw [orderLookup_addOrder] at found
    by_cases fresh : id = book.nextOrderId
    · have := valid.nextPositive
      omega
    · rw [Finmap.lookup_insert_of_ne _ fresh] at found
      have := valid.idBounds id location found
      omega
  case nextPositive =>
    have := valid.nextPositive
    rw [nextOrderId_addOrder]
    omega
  case poolSound =>
    exact ⟨valid.poolSound.acquire.free_nodup, valid.poolSound.acquire.free_lt⟩
  case inUse =>
    intro id location found
    rw [orderLookup_addOrder] at found
    by_cases fresh : id = book.nextOrderId
    · subst fresh
      rw [Finmap.lookup_insert] at found
      cases found
      exact valid.poolSound.acquired_inUse.1
    · rw [Finmap.lookup_insert_of_ne _ fresh] at found
      exact (valid.inUse id location found).acquire

end Add

end OrderBook

end OrderBookExchange
