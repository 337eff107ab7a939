import OrderBookExchange.Ladder

/-!
# Orders lie where their prices lead

With a NaN among the prices a side need not be sorted, and a level can be left
empty.  Three facts remain true of every book the engine can reach: the keys of
a side are sorted numbers unless there is only one, an order's level has its
price up to NaN, and the index records the price of the order.
-/

namespace OrderBookExchange

namespace OrderBook

/-- Keys, levels and index agree on the prices of the orders. -/
structure Shelved (book : OrderBook) : Prop where
  lined : ∀ buy, SortedMap.Lined (· ≠ Double.nan) (better buy) (book.levels buy)
  fits : ∀ buy, ∀ level ∈ book.levels buy, ∀ ptr ∈ level.2,
    Ladder.Fits level.1 (book.load ptr).price
  priced : ∀ orderId location, book.orderLookup.lookup orderId = some location →
    location.price = (book.load location.iterator).price

theorem shelved_new (symbol : Symbol) (poolSize : Nat) : (new symbol poolSize).Shelved where
  lined := by intro buy; cases buy <;> exact Or.inr (Nat.zero_le 1)
  fits := by
    intro buy level member
    cases buy <;> simp [new, levels] at member
  priced := by
    intro orderId location found
    simp [new] at found

variable {book : OrderBook}

/-! ### Books without NaN -/

theorem Valid.linked (valid : book.Valid) : book.Linked where
  nodup := by
    intro buy
    have distinct := valid.queue_ids_ne buy
    rw [queue_eq_map, List.pairwise_map] at distinct
    exact distinct.imp fun idNe same => idNe (by rw [same])
  placed := by
    intro buy ptr member
    obtain ⟨level, levelMem, onLevel⟩ := List.mem_flatMap.mp member
    obtain ⟨-, side, found⟩ := valid.placed buy level.1 ptr ⟨level.2, levelMem, onLevel⟩
    exact ⟨_, found, rfl, side⟩
  indexed := by
    intro id location found
    obtain ⟨level, levelMem, onLevel⟩ := (valid.indexed id location found).1
    obtain ⟨idEq, sideEq, -⟩ := valid.lookup_location found
    exact ⟨List.mem_flatMap.mpr ⟨_, levelMem, onLevel⟩, idEq, sideEq⟩
  below := fun id location found => (valid.idBounds id location found).2
  poolSound := valid.poolSound
  inUse := valid.inUse

theorem Valid.mem_queue_iff (valid : book.Valid) {buy : Bool} {order : Order} :
    order ∈ book.queue buy ↔ book.orderAt order.id = some order ∧ order.side.isBuy = buy := by
  rw [queue_eq_map, List.mem_map]
  constructor
  · rintro ⟨ptr, live, rfl⟩
    exact ⟨valid.linked.orderAt_of_mem live, valid.linked.side_of_mem live⟩
  · rintro ⟨present, sideEq⟩
    obtain ⟨location, found, loadEq⟩ := Option.map_eq_some_iff.mp present
    obtain ⟨live, -, locationSide⟩ := valid.linked.indexed order.id location found
    rw [loadEq] at locationSide
    rw [← locationSide, sideEq] at live
    exact ⟨location.iterator, live, loadEq⟩

theorem Valid.shelved (valid : book.Valid) : book.Shelved where
  lined := fun buy => Or.inl ⟨valid.sorted buy, valid.keysValid buy⟩
  fits := fun buy level levelMem ptr onLevel =>
    Or.inr (Or.inr (valid.placed buy level.1 ptr ⟨level.2, levelMem, onLevel⟩).1)
  priced := fun _ _ found => (valid.lookup_location found).2.2.symm

namespace Shelved

theorem store (shelved : book.Shelved) (ptr : Nat) (order : Order)
    (priceEq : order.price = (book.load ptr).price) : (book.store ptr order).Shelved := by
  have samePrice : ∀ other, ((book.store ptr order).load other).price = (book.load other).price := by
    intro other
    by_cases same : other = ptr
    · rw [same, load_store_self, priceEq]
    · rw [load_store_of_ne _ _ _ same]
  constructor
  case lined =>
    intro buy
    rw [levels_store]
    exact shelved.lined buy
  case fits =>
    intro buy level member ptr onLevel
    rw [levels_store] at member
    rw [samePrice]
    exact shelved.fits buy level member ptr onLevel
  case priced =>
    intro orderId location found
    rw [samePrice]
    exact shelved.priced orderId location found

theorem addOrder (shelved : book.Shelved) (linked : book.Linked) (side : Side) (type : OrderType)
    (price : Price) (quantity : Quantity) (now : Nat) :
    (book.addOrder side type price quantity now).1.Shelved := by
  have keptLoad : ∀ {buy ptr}, ptr ∈ book.nodePtrs buy →
      (book.addOrder side type price quantity now).1.load ptr = book.load ptr :=
    fun member => load_addOrder_of_ne book side type price quantity now
      (linked.ptr_ne_acquired member)
  have keptFits : ∀ buy, ∀ level ∈ book.levels buy, ∀ ptr ∈ level.2,
      Ladder.Fits level.1 ((book.addOrder side type price quantity now).1.load ptr).price := by
    intro buy level member ptr onLevel
    rw [keptLoad (List.mem_flatMap.mpr ⟨level, member, onLevel⟩)]
    exact shelved.fits buy level member ptr onLevel
  constructor
  case lined =>
    intro buy
    rw [levels_addOrder]
    split
    · next own =>
        subst own
        exact (shelved.lined side.isBuy).upsert (better_strictOn side.isBuy) ne_nan_of_better
          price [] _
    · exact shelved.lined buy
  case fits =>
    intro buy level member ptr onLevel
    rw [levels_addOrder] at member
    split at member
    · next own =>
        subst own
        rcases SortedMap.mem_upsert member with old | rfl | ⟨older, old, notAhead, notBehind, rfl⟩
        · exact keptFits _ level old ptr onLevel
        · obtain rfl := List.mem_singleton.mp onLevel
          rw [load_addOrder_self]
          exact Or.inr (Or.inr rfl)
        · rcases List.mem_append.mp onLevel with onOlder | isNew
          · exact keptFits _ older old ptr onOlder
          · obtain rfl := List.mem_singleton.mp isNew
            rw [load_addOrder_self]
            exact (Ladder.fits_iff side.isBuy older.1 price).mpr ⟨notAhead, notBehind⟩
    · exact keptFits buy level member ptr onLevel
  case priced =>
    intro orderId location found
    rw [orderLookup_addOrder] at found
    by_cases own : orderId = book.nextOrderId
    · subst own
      rw [Finmap.lookup_insert, Option.some.injEq] at found
      subst found
      rw [load_addOrder_self]
      rfl
    · rw [Finmap.lookup_insert_of_ne _ own] at found
      rw [keptLoad (linked.indexed orderId location found).1]
      exact shelved.priced orderId location found

theorem unlink (shelved : book.Shelved) (orderId : Nat) (location : OrderLocation) (ptr : Nat) :
    (book.unlink orderId location ptr).Shelved := by
  constructor
  case lined =>
    intro buy
    by_cases own : buy = location.side.isBuy
    · subst own
      rw [levels_unlink]
      have subscripted := (shelved.lined location.side.isBuy).upsert
        (better_strictOn location.side.isBuy) ne_nan_of_better location.price [] id
      exact (subscripted.map _).sublist (SortedMap.cleanup_sublist _ _ _)
    · rw [levels_unlink_other _ _ _ _ own]
      exact shelved.lined buy
  case fits =>
    intro buy level member other onLevel
    rw [load_unlink]
    by_cases own : buy = location.side.isBuy
    · subst own
      rw [levels_unlink] at member
      obtain ⟨older, subscripted, rfl⟩ :=
        List.mem_map.mp ((SortedMap.cleanup_sublist _ _ _).subset member)
      have onOlder : other ∈ older.2 := List.mem_of_mem_erase onLevel
      rcases SortedMap.mem_upsert subscripted with old | rfl | ⟨oldest, old, -, -, rfl⟩
      · exact shelved.fits _ older old other onOlder
      · simp at onOlder
      · exact shelved.fits _ oldest old other onOlder
    · rw [levels_unlink_other _ _ _ _ own] at member
      exact shelved.fits buy level member other onLevel
  case priced =>
    intro other otherLocation found
    rw [load_unlink]
    exact shelved.priced other otherLocation (lookup_unlink _ found).2

theorem removeOrder (shelved : book.Shelved) (ptr : Nat) : (book.removeOrder ptr).Shelved := by
  unfold OrderBook.removeOrder
  dsimp only
  split
  · exact shelved
  · exact shelved.unlink _ _ _

theorem cancelOrder (shelved : book.Shelved) (orderId : Nat) :
    (book.cancelOrder orderId).1.Shelved := by
  unfold OrderBook.cancelOrder
  split
  · exact shelved
  · refine (shelved.store _ _ ?_).unlink _ _ _
    rfl

theorem reduceOrder (shelved : book.Shelved) (orderId : Nat) (newQuantity : Quantity) :
    (book.reduceOrder orderId newQuantity).1.Shelved := by
  unfold OrderBook.reduceOrder
  split
  · exact shelved
  · dsimp only
    split
    · exact shelved
    · split
      · exact shelved.cancelOrder orderId
      · refine shelved.store _ _ ?_
        rfl

theorem afterMatch (shelved : book.Shelved) {incoming resting : Nat}
    (different : incoming ≠ resting) (now : Nat) :
    (book.afterMatch incoming resting now).Shelved := by
  have written : ((book.store incoming (book.matchAt incoming resting now).incoming).store
      resting (book.matchAt incoming resting now).resting).Shelved := by
    refine (shelved.store incoming _ ?_).store resting _ ?_
    · rfl
    · rw [load_store_of_ne _ _ _ different.symm]
      rfl
  unfold OrderBook.afterMatch
  dsimp only
  split
  · refine (written.store resting _ ?_).removeOrder resting
    rw [load_store_self]
  · exact written

theorem postMatch (shelved : book.Shelved) (incoming : Nat) (type : OrderType) :
    (book.postMatch incoming type).Shelved := by
  unfold OrderBook.postMatch
  dsimp only
  split
  · exact shelved.removeOrder incoming
  · split
    · refine (shelved.store incoming _ ?_).removeOrder incoming
      rfl
    · exact shelved

end Shelved

end OrderBook

end OrderBookExchange
