import OrderBookExchange.BookRefinement

/-!
# What the book's parts say about each other

A book reached by its own operations keeps its index and its queue nodes in
bijection, its levels nonempty and sorted, and its queues in identifier order.
The accessors then report what a reader expects of them: the best prices are
extreme resting prices, the depths count prices and the order count counts
nodes.
-/

namespace OrderBookExchange.OrderBook

/-- The states a book passes through.  `remove_order` is called on the pointer
of some queue node. -/
inductive Reachable : OrderBook → Prop
  | new (symbol : Symbol) (poolSize : Nat) : Reachable (.new symbol poolSize)
  | addOrder {book : OrderBook} (side : Side) (type : OrderType) (price : Price)
      (quantity : Quantity) (now : Nat) (priceNum : price ≠ .nan)
      (reached : Reachable book) :
      Reachable (book.addOrder side type price quantity now).1
  | cancelOrder {book : OrderBook} (id : Nat) (reached : Reachable book) :
      Reachable (book.cancelOrder id).1
  | reduceOrder {book : OrderBook} (id : Nat) (newQuantity : Quantity)
      (reached : Reachable book) : Reachable (book.reduceOrder id newQuantity).1
  | removeOrder {book : OrderBook} {buy : Bool} {price : Price} {ptr : Nat}
      (onLevel : book.OnLevel buy price ptr) (reached : Reachable book) :
      Reachable (book.removeOrder ptr)

theorem Reachable.valid {book : OrderBook} (reached : book.Reachable) : book.Valid := by
  induction reached with
  | new symbol poolSize => exact valid_new symbol poolSize
  | addOrder side type price quantity now priceNum _ valid =>
      exact valid.addOrder side type quantity now priceNum
  | cancelOrder id _ valid => exact (cancelOrder_refines valid id).1
  | reduceOrder id newQuantity _ valid =>
      exact (reduceOrder_refines valid id newQuantity).1
  | removeOrder onLevel _ valid => exact valid.removeOrder (valid.live_of_onLevel onLevel)

/-- The queue nodes of one side, each with the key of its level and the
pointer it holds, best level first and front to back. -/
def nodes (book : OrderBook) (buy : Bool) : List (Price × Nat) :=
  (book.levels buy).flatMap fun level => level.2.map (level.1, ·)

/-- The identifiers carried by the nodes of both sides. -/
def nodeIds (book : OrderBook) : List Nat :=
  (book.nodes true ++ book.nodes false).map fun node => (book.load node.2).id

theorem mem_nodes {book : OrderBook} {buy : Bool} {price : Price} {ptr : Nat} :
    (price, ptr) ∈ book.nodes buy ↔ book.OnLevel buy price ptr := by
  simp [nodes, OnLevel]

theorem queue_eq_map_nodes (book : OrderBook) (buy : Bool) :
    book.queue buy = (book.nodes buy).map fun node => book.load node.2 := by
  simp [queue, nodes, List.map_flatMap, Function.comp_def]

theorem nodeIds_eq (book : OrderBook) :
    book.nodeIds = (book.queue true ++ book.queue false).map Order.id := by
  simp [nodeIds, queue_eq_map_nodes, Function.comp_def]

namespace Valid

variable {book : OrderBook}

theorem nodeIds_nodup (valid : book.Valid) : book.nodeIds.Nodup := by
  rw [nodeIds_eq, List.Nodup, List.pairwise_map, List.pairwise_append]
  refine ⟨valid.queue_ids_ne true, valid.queue_ids_ne false, ?_⟩
  intro bid bidMem ask askMem
  exact valid.id_ne_of_opposite bidMem askMem

theorem nodeIds_toFinset (valid : book.Valid) :
    book.nodeIds.toFinset = book.orderLookup.keys := by
  ext id
  rw [List.mem_toFinset, nodeIds_eq, Finmap.mem_keys, ← Finmap.lookup_isSome,
    Option.isSome_iff_exists, valid.lookup_isSome_iff]
  simp only [List.map_append, List.mem_append, List.mem_map, Bool.exists_bool]
  exact Or.comm

theorem orderCount_eq (valid : book.Valid) :
    book.orderCount = (book.nodes true).length + (book.nodes false).length := by
  rw [orderCount, ← valid.nodeIds_toFinset, List.toFinset_card_of_nodup valid.nodeIds_nodup,
    nodeIds, List.length_map, List.length_append]

theorem exists_price_iff (valid : book.Valid) {buy : Bool} {price : Price} :
    (∃ order ∈ book.queue buy, order.price = price) ↔
      ∃ level, (price, level) ∈ book.levels buy := by
  constructor
  · rintro ⟨order, member, rfl⟩
    obtain ⟨price, ptr, onLevel, rfl⟩ := mem_queue.mp member
    rw [(valid.placed _ _ _ onLevel).1]
    obtain ⟨level, levelMem, -⟩ := onLevel
    exact ⟨level, levelMem⟩
  · rintro ⟨level, levelMem⟩
    obtain ⟨ptr, ptrMem⟩ := List.exists_mem_of_ne_nil _ (valid.nonempty buy _ levelMem)
    have onLevel : book.OnLevel buy price ptr := ⟨level, levelMem, ptrMem⟩
    exact ⟨_, mem_queue.mpr ⟨price, ptr, onLevel, rfl⟩, (valid.placed _ _ _ onLevel).1⟩

theorem bestPrice_extreme (valid : book.Valid) {buy : Bool} (nonempty : book.queue buy ≠ []) :
    (∃ order ∈ book.queue buy, order.price = book.bestPrice buy) ∧
      ∀ order ∈ book.queue buy, better buy order.price (book.bestPrice buy) = false := by
  have sorted := valid.sorted buy
  have keysValid := valid.keysValid buy
  cases shape : book.levels buy with
  | nil => exact absurd ((valid.queue_eq_nil_iff buy).mpr shape) nonempty
  | cons first rest =>
      have bestEq : book.bestPrice buy = first.1 := by
        rw [bestPrice, shape]
      rw [shape] at sorted keysValid
      rw [SortedMap.Sorted, List.pairwise_cons] at sorted
      have firstNum : first.1 ≠ .nan := keysValid first (by simp)
      rw [bestEq]
      refine ⟨valid.exists_price_iff.mpr ⟨first.2, by rw [shape]; simp⟩, ?_⟩
      intro order member
      obtain ⟨level, levelMem⟩ := valid.exists_price_iff.mp ⟨order, member, rfl⟩
      rw [shape, List.mem_cons] at levelMem
      rcases levelMem with isFirst | inRest
      · rw [← isFirst] at firstNum ⊢
        exact (better_strictOn buy).irrefl firstNum
      · have orderNum : order.price ≠ .nan := keysValid (order.price, level) (by simp [inRest])
        exact (better_strictOn buy).asymm firstNum orderNum (sorted.1 _ inRest)

theorem card_prices (valid : book.Valid) (buy : Bool) :
    ((book.queue buy).map Order.price).toFinset.card = (book.levels buy).length := by
  have keysEq : ((book.queue buy).map Order.price).toFinset =
      ((book.levels buy).map Prod.fst).toFinset := by
    ext price
    have pricesIff : (∃ order ∈ book.queue buy, order.price = price) ↔
        ∃ level, (price, level) ∈ book.levels buy := valid.exists_price_iff
    simpa using pricesIff
  have keysNodup : ((book.levels buy).map Prod.fst).Nodup := by
    rw [List.Nodup, List.pairwise_map]
    refine (valid.sorted buy).imp_of_mem ?_
    intro first second firstMem secondMem before same
    rw [← same, (better_strictOn buy).irrefl (valid.keysValid buy first firstMem)] at before
    exact Bool.noConfusion before
  rw [keysEq, List.toFinset_card_of_nodup keysNodup, List.length_map]

theorem bestBid_isGreatest (valid : book.Valid) (nonempty : book.queue true ≠ []) :
    IsGreatest {price | ∃ order ∈ book.queue true, order.price = price} book.bestBid := by
  obtain ⟨attained, extreme⟩ := valid.bestPrice_extreme nonempty
  refine ⟨attained, ?_⟩
  rintro price ⟨order, member, rfl⟩
  obtain ⟨best, bestMem, bestEq⟩ := attained
  have bestNum : book.bestPrice true ≠ .nan := by
    rw [← bestEq]
    exact valid.price_num_of_mem_queue bestMem
  have notBetter := extreme order member
  rw [better, Double.lt_eq_false_iff bestNum (valid.price_num_of_mem_queue member)] at notBetter
  exact notBetter

theorem bestAsk_isLeast (valid : book.Valid) (nonempty : book.queue false ≠ []) :
    IsLeast {price | ∃ order ∈ book.queue false, order.price = price} book.bestAsk := by
  obtain ⟨attained, extreme⟩ := valid.bestPrice_extreme nonempty
  refine ⟨attained, ?_⟩
  rintro price ⟨order, member, rfl⟩
  obtain ⟨best, bestMem, bestEq⟩ := attained
  have bestNum : book.bestPrice false ≠ .nan := by
    rw [← bestEq]
    exact valid.price_num_of_mem_queue bestMem
  have notBetter := extreme order member
  rw [better, Double.lt_eq_false_iff (valid.price_num_of_mem_queue member) bestNum] at notBetter
  exact notBetter

end Valid

/-- Index and nodes name each other, and each identifier has one node. -/
structure Bijective (book : OrderBook) : Prop where
  nodeOfIndex : ∀ id location, book.orderLookup.lookup id = some location →
    (location.price, location.iterator) ∈ book.nodes location.side.isBuy ∧
      (book.load location.iterator).id = id ∧
      (book.load location.iterator).side = location.side ∧
      (book.load location.iterator).price = location.price
  indexOfNode : ∀ buy, ∀ node ∈ book.nodes buy,
    (book.load node.2).side.isBuy = buy ∧
      book.orderLookup.lookup (book.load node.2).id =
        some ⟨(book.load node.2).side, node.1, node.2⟩
  oneNodeEach : ∀ id ∈ book.orderLookup, book.nodeIds.count id = 1

theorem Valid.bijective {book : OrderBook} (valid : book.Valid) : book.Bijective where
  nodeOfIndex := by
    intro id location found
    exact ⟨mem_nodes.mpr (valid.indexed id location found).1, valid.lookup_location found⟩
  indexOfNode := by
    rintro buy ⟨price, ptr⟩ member
    exact (valid.placed buy price ptr (mem_nodes.mp member)).2
  oneNodeEach := by
    intro id indexed
    apply List.count_eq_one_of_mem valid.nodeIds_nodup
    rw [← List.mem_toFinset, valid.nodeIds_toFinset, Finmap.mem_keys]
    exact indexed

/-- The representation invariant holds in every reachable state, and the
accessors mean what they say. -/
theorem reachable_representation {book : OrderBook} (reached : book.Reachable) :
    book.Bijective ∧
      (∀ buy, ∀ level ∈ book.levels buy, level.2 ≠ []) ∧
      book.bids.Pairwise (fun first second => second.1.lt first.1 = true) ∧
      book.asks.Pairwise (fun first second => first.1.lt second.1 = true) ∧
      (∀ buy, ∀ level ∈ book.levels buy,
        level.2.Pairwise fun first second => (book.load first).id < (book.load second).id) ∧
      (∀ id ∈ book.orderLookup, 1 ≤ id ∧ id < book.nextOrderId) ∧
      book.orderCount = (book.nodes true).length + (book.nodes false).length ∧
      (book.queue true ≠ [] →
        IsGreatest {price | ∃ order ∈ book.queue true, order.price = price} book.bestBid) ∧
      (book.queue false ≠ [] →
        IsLeast {price | ∃ order ∈ book.queue false, order.price = price} book.bestAsk) ∧
      book.bidDepth = ((book.queue true).map Order.price).toFinset.card ∧
      book.askDepth = ((book.queue false).map Order.price).toFinset.card := by
  have valid := reached.valid
  refine ⟨valid.bijective, valid.nonempty, valid.sorted true, valid.sorted false,
    valid.fifo, ?_, valid.orderCount_eq, valid.bestBid_isGreatest, valid.bestAsk_isLeast,
    (valid.card_prices true).symm, (valid.card_prices false).symm⟩
  intro id indexed
  obtain ⟨location, found⟩ := Option.isSome_iff_exists.mp (Finmap.lookup_isSome.mpr indexed)
  exact valid.idBounds id location found

/-- A bid, an ask and the cancellation of the bid. -/
theorem reachable_representation_after_cancel :
    let bid := ((new [65] 0).addOrder .buy .limit (.finite 100) 10 0).1
    let crossed := (bid.addOrder .sell .limit (.finite 101) 5 1).1
    let book := (crossed.cancelOrder 1).1
    book.Bijective ∧ book.orderCount = (book.nodes true).length + (book.nodes false).length ∧
      (book.nodes true, book.nodes false) = ([], [(.finite 101, 1)]) := by
  have representation := reachable_representation
    (.cancelOrder 1 (.addOrder .sell .limit (.finite 101) 5 1 (by simp)
      (.addOrder .buy .limit (.finite 100) 10 0 (by simp) (.new [65] 0))))
  exact ⟨representation.1, representation.2.2.2.2.2.2.1, by decide +kernel⟩

end OrderBookExchange.OrderBook
