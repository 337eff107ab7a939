import OrderBookExchange.ReferenceSimulation

/-!
# The engine simulates the reference exchange

Every call keeps the flat list and the queues descriptions of one state, so a
run of the engine and a run of the reference return the same values and the
same trades, and the engine's levels read as the reference's sorted list.
-/

namespace OrderBookExchange

/-- A priority book and a reference book describe one state. -/
structure Simulates (book : PriorityBook) (reference : ReferenceBook) : Prop where
  nextEq : reference.nextOrderId = book.nextOrderId
  arrival : reference.live.Pairwise fun first second => first.id < second.id
  bounded : ∀ order ∈ reference.live, order.id < reference.nextOrderId
  sides : ∀ buy, (reference.live.filter fun order => order.buy = buy).Perm
    ((book.queue buy).map Order.live)

namespace Simulates

variable {book : PriorityBook} {reference : ReferenceBook}

theorem simulates_empty : Simulates PriorityBook.empty ReferenceBook.empty where
  nextEq := rfl
  arrival := List.Pairwise.nil
  bounded := by simp [ReferenceBook.empty]
  sides := fun _ => List.Perm.nil

theorem ids_nodup (simulates : Simulates book reference) :
    (reference.live.map LiveOrder.id).Nodup := by
  rw [List.Nodup, List.pairwise_map]
  exact simulates.arrival.imp Nat.ne_of_lt

theorem mem_live_iff (simulates : Simulates book reference) {live : LiveOrder} :
    live ∈ reference.live ↔ ∃ order ∈ book.queue live.buy, order.live = live := by
  have onSide := (simulates.sides live.buy).mem_iff (a := live)
  simpa using onSide

theorem found_iff (simulates : Simulates book reference) (ordered : book.Ordered) (id : Nat)
    (test : Nat → Prop) :
    (∃ live ∈ reference.live, live.id = id ∧ test live.remaining) ↔
      ∃ order, book.find? id = some order ∧ test order.remainingQty.toNat := by
  constructor
  · rintro ⟨live, liveMem, idEq, passes⟩
    obtain ⟨order, orderMem, rfl⟩ := simulates.mem_live_iff.mp liveMem
    have onBook : order ∈ book.queue true ++ book.queue false := by
      cases buy : order.live.buy <;> simp [buy] at orderMem <;> simp [orderMem]
    obtain ⟨other, found⟩ : ∃ other, book.find? id = some other := by
      rw [← Option.isSome_iff_exists, PriorityBook.find?, List.find?_isSome]
      exact ⟨order, onBook, decide_eq_true idEq⟩
    obtain ⟨otherId, otherBuy, otherMem⟩ := PriorityBook.mem_of_find? found
    have same := ordered.unique _ _ other otherMem order orderMem (otherId.trans idEq.symm)
    exact ⟨other, found, same ▸ passes⟩
  · rintro ⟨order, found, passes⟩
    obtain ⟨idEq, buy, member⟩ := PriorityBook.mem_of_find? found
    have sideEq : order.live.buy = buy := ordered.side buy order member
    exact ⟨order.live, simulates.mem_live_iff.mpr ⟨order, sideEq ▸ member, rfl⟩, idEq, passes⟩

theorem drop (simulates : Simulates book reference) (id : Nat) :
    Simulates (book.drop id)
      { reference with live := reference.live.filter fun order => order.id ≠ id } where
  nextEq := simulates.nextEq
  arrival := simulates.arrival.sublist List.filter_sublist
  bounded := fun order member => simulates.bounded order (List.mem_filter.mp member).1
  sides := by
    intro buy
    have queueEq : ((book.drop id).queue buy).map Order.live =
        ((book.queue buy).map Order.live).filter fun order => order.id ≠ id := by
      rw [List.filter_map]
      rfl
    rw [queueEq, List.filter_comm]
    exact (simulates.sides buy).filter _

theorem replace (simulates : Simulates book reference) (ordered : book.Ordered) {id : Nat}
    {order : Order} (found : book.find? id = some order) (newQuantity : Quantity) :
    Simulates (book.replace { order with remainingQty := newQuantity })
      { reference with
        live := reference.live.map fun live =>
          if live.id = id then { live with remaining := newQuantity.toNat } else live } := by
  obtain ⟨idEq, orderBuy, orderMem⟩ := PriorityBook.mem_of_find? found
  refine ⟨simulates.nextEq, ?_, ?_, ?_⟩
  · rw [List.pairwise_map]
    refine simulates.arrival.imp ?_
    intro first second less
    split <;> split <;> exact less
  · intro live member
    obtain ⟨older, olderMem, rfl⟩ := List.mem_map.mp member
    have bound := simulates.bounded older olderMem
    split <;> exact bound
  · intro buy
    have queueEq : ((book.replace { order with remainingQty := newQuantity }).queue buy).map
        Order.live = ((book.queue buy).map Order.live).map fun live =>
          if live.id = id then { live with remaining := newQuantity.toNat } else live := by
      change (replaceOrder _ (book.queue buy)).map Order.live = _
      rw [replaceOrder, List.map_map, List.map_map]
      apply List.map_congr_left
      intro other otherMem
      by_cases same : other.id = id
      · have otherEq := ordered.unique _ _ other otherMem order orderMem (same.trans idEq.symm)
        subst otherEq
        simp [Order.live, same]
      · simp [Order.live, same, idEq]
    have liveEq : (reference.live.map fun live =>
          if live.id = id then { live with remaining := newQuantity.toNat } else live).filter
          (fun live => live.buy = buy) =
        (reference.live.filter fun live => live.buy = buy).map fun live =>
          if live.id = id then { live with remaining := newQuantity.toNat } else live := by
      rw [List.filter_map]
      congr 1
      apply List.filter_congr
      intro live _
      by_cases named : live.id = id <;> simp [named]
    rw [queueEq]
    dsimp only
    rw [liveEq]
    exact (simulates.sides buy).map _

theorem cancelOrder (simulates : Simulates book reference) (ordered : book.Ordered) (id : Nat) :
    Simulates (book.cancelOrder id).1 (reference.cancel id).1 ∧
      (book.cancelOrder id).2 = (reference.cancel id).2 := by
  have foundIff := simulates.found_iff ordered id fun _ => True
  simp only [and_true] at foundIff
  unfold PriorityBook.cancelOrder ReferenceBook.cancel
  cases found : book.find? id with
  | none =>
      have absent : ¬∃ order ∈ reference.live, order.id = id := by
        rw [foundIff, found]
        simp
      rw [if_neg absent]
      exact ⟨simulates, rfl⟩
  | some order =>
      rw [if_pos (foundIff.mpr ⟨order, found⟩)]
      exact ⟨simulates.drop id, rfl⟩

theorem reduceOrder (simulates : Simulates book reference) (ordered : book.Ordered) (id : Nat)
    (newQuantity : Quantity) :
    Simulates (book.reduceOrder id newQuantity).1 (reference.reduce id newQuantity.toNat).1 ∧
      (book.reduceOrder id newQuantity).2 = (reference.reduce id newQuantity.toNat).2 := by
  have foundIff := simulates.found_iff ordered id fun remaining => newQuantity.toNat < remaining
  unfold PriorityBook.reduceOrder ReferenceBook.reduce
  cases found : book.find? id with
  | none =>
      have absent : ¬∃ live ∈ reference.live,
          live.id = id ∧ newQuantity.toNat < live.remaining := by
        rw [foundIff, found]
        simp
      rw [if_neg absent]
      exact ⟨simulates, rfl⟩
  | some order =>
      rw [found] at foundIff
      simp only [Option.some.injEq, exists_eq_left'] at foundIff
      dsimp only
      by_cases grows : order.remainingQty ≤ newQuantity
      · have notSmaller : ¬∃ live ∈ reference.live,
            live.id = id ∧ newQuantity.toNat < live.remaining := by
          rw [foundIff, not_lt, ← UInt32.le_iff_toNat_le]
          exact grows
        rw [if_pos grows, if_neg notSmaller]
        exact ⟨simulates, rfl⟩
      · have smaller : newQuantity.toNat < order.remainingQty.toNat := by
          rw [UInt32.le_iff_toNat_le, not_le] at grows
          exact grows
        rw [if_neg grows, if_pos (foundIff.mpr smaller)]
        by_cases zero : newQuantity = 0
        · rw [if_pos zero, if_pos (by rw [zero]; rfl)]
          exact ⟨simulates.drop id, rfl⟩
        · have nonzero : newQuantity.toNat ≠ 0 := fun eq => zero (UInt32.toNat_inj.mp eq)
          rw [if_neg zero, if_neg nonzero]
          exact ⟨simulates.replace ordered found newQuantity, rfl⟩

/-- Whether an incoming order reaches a resting one, as the reference sees it.
The price a market order is given reaches every price that may rest. -/
theorem priceMatch_iff_crosses {side : Side} {type : OrderType} {price : Price}
    {quantity : Quantity} {id now : Nat} (priceNum : price ≠ .nan) {resting : Order}
    (clean : resting.Clean) :
    priceMatch (Order.new id side type (effectivePrice side type price) quantity now) resting =
        true ↔
      Request.Crosses ⟨id, side.isBuy, type = .market, price⟩ resting.price := by
  have restingNum := Double.ne_nan_of_isFinite clean.finite
  by_cases market : type = .market
  · have positive := clean.positive
    have finite := clean.finite
    cases priceShape : resting.price with
    | finite value =>
        rw [priceShape, Double.zero_def, Double.finite_lt_finite] at positive
        simp only [priceShape, Double.isFinite, decide_eq_true_eq] at finite
        cases buy : side.isBuy <;>
          simp [priceMatch, Order.new, effectivePrice, market, buy, Request.Crosses, priceShape,
            Double.le, finite.2, positive.le]
    | nan => simp [priceShape, Double.isFinite] at finite
    | negInf => simp [priceShape, Double.isFinite] at finite
    | posInf => simp [priceShape, Double.isFinite] at finite
  · cases buy : side.isBuy
    · simp only [priceMatch, Order.new, effectivePrice, market, buy, Request.Crosses]
      simpa using Double.le_eq_true_iff priceNum restingNum
    · simp only [priceMatch, Order.new, effectivePrice, market, buy, Request.Crosses]
      simpa using Double.le_eq_true_iff restingNum priceNum

section Submit

variable {side : Side} {type : OrderType} {price : Price} {quantity : Quantity}

theorem matched (simulates : Simulates book reference) (ordered : book.Ordered)
    (clean : book.Clean) (clock : Clock) (side : Side) (type : OrderType)
    (quantity : Quantity) (priceNum : price ≠ .nan) :
    MatchedLive ⟨reference.nextOrderId, side.isBuy, type = .market, price⟩ reference.live
      (book.matching clock side type (effectivePrice side type price) quantity)
      (reference.matching side type price quantity) := by
  apply matchLive_simulates
  · exact simulates.nextEq.symm
  · rfl
  · have lengthEq := (simulates.sides (!side.isBuy)).length_eq
    rw [List.length_map] at lengthEq
    rw [← lengthEq]
    exact Nat.lt_succ_of_le (List.length_filter_le _ _)
  · exact simulates.sides (!side.isBuy)
  · exact simulates.ids_nodup
  · refine (ordered.prior (!side.isBuy)).imp_of_mem ?_
    intro first second firstMem secondMem prior
    exact prior.before (ordered.num _ first firstMem) (ordered.num _ second secondMem)
  · intro resting member
    rw [simulates.nextEq]
    exact priceMatch_iff_crosses priceNum (clean.orders _ resting member)

theorem rests_iff (declared : type.Declared) (order : Order) :
    PriorityBook.rests type order = true ↔ order.remainingQty.toNat ≠ 0 ∧ type = .limit := by
  rw [PriorityBook.rests, Bool.and_eq_true, Bool.not_eq_true', ← Bool.not_eq_true, isFilled_iff]
  refine and_congr_right fun _ => ?_
  rcases declared with rfl | rfl | rfl <;> decide

theorem remainder_live (book : PriorityBook) (clock : Clock) (side : Side) (price : Price)
    (quantity : Quantity) :
    (book.remainder clock side .limit price quantity).live =
      ⟨book.nextOrderId, side.isBuy, price,
        (book.matching clock side .limit price quantity).incoming.remainingQty.toNat⟩ := by
  rw [PriorityBook.remainder, PriorityBook.matching_incoming]
  rfl

/-- What matching leaves of the reference's list is in arrival order and below
the next identifier. -/
theorem arrival_of_ids (simulates : Simulates book reference) {live : List LiveOrder}
    (ids : (live.map LiveOrder.id).Sublist (reference.live.map LiveOrder.id)) :
    (live.Pairwise fun first second => first.id < second.id) ∧
      ∀ order ∈ live, order.id < reference.nextOrderId := by
  constructor
  · have sorted : (reference.live.map LiveOrder.id).Pairwise (· < ·) :=
      List.pairwise_map.mpr simulates.arrival
    exact List.pairwise_map.mp (sorted.sublist ids)
  · intro order member
    obtain ⟨older, olderMem, idEq⟩ :=
      List.mem_map.mp (ids.subset (List.mem_map_of_mem member))
    rw [← idEq]
    exact simulates.bounded older olderMem

theorem acceptOrder (simulates : Simulates book reference) (ordered : book.Ordered)
    (clean : book.Clean) (clock : Clock) (side : Side) (declared : type.Declared)
    (finite : price.isFinite = true) (accepted : ¬rejects type price quantity = true) :
    Simulates
        (book.acceptOrder clock side type (effectivePrice side type price) quantity).1
        (reference.submit side type price quantity).1 ∧
      (reference.submit side type price quantity).2.1 =
        (book.acceptOrder clock side type (effectivePrice side type price) quantity).2.1 ∧
      (reference.submit side type price quantity).2.2 =
        (book.acceptOrder clock side type
          (effectivePrice side type price) quantity).2.2.map Trade.reference := by
  have matched := simulates.matched ordered clean clock side type quantity
    (Double.ne_nan_of_isFinite finite)
  have restsIff := rests_iff declared (book.matching clock side type
    (effectivePrice side type price) quantity).incoming
  obtain ⟨arrival, bounded⟩ := simulates.arrival_of_ids matched.ids
  rw [← matched.remaining] at restsIff
  simp only [ReferenceBook.submit, accepted, if_false, Bool.false_eq_true]
  refine ⟨?_, simulates.nextEq, matched.trades⟩
  by_cases resting : (reference.matching side type price quantity).2.1 ≠ 0 ∧ type = .limit
  · have rests := restsIff.mpr resting
    rw [if_pos resting]
    refine ⟨congrArg (· + 1) simulates.nextEq, ?_, ?_, ?_⟩
    · rw [List.pairwise_append]
      refine ⟨arrival, by simp, ?_⟩
      intro order member last lastMem
      rw [List.mem_singleton] at lastMem
      rw [lastMem]
      exact bounded order member
    · intro order member
      rcases List.mem_append.mp member with old | new
      · exact (bounded order old).trans (Nat.lt_succ_self _)
      · rw [List.mem_singleton] at new
        rw [new]
        exact Nat.lt_succ_self _
    · intro buy
      obtain ⟨-, rfl⟩ := resting
      rw [List.filter_append]
      by_cases own : buy = side.isBuy
      · subst own
        have queueEq : (book.acceptOrder clock side .limit
            (effectivePrice side .limit price) quantity).1.queue side.isBuy =
              insertOrder side.isBuy (book.remainder clock side .limit
                (effectivePrice side .limit price) quantity) (book.queue side.isBuy) := by
          simp only [PriorityBook.acceptOrder, if_true, rests]
          rfl
        have inserted := (insertOrder_perm side.isBuy (book.remainder clock side .limit
          (effectivePrice side .limit price) quantity) (book.queue side.isBuy)).map Order.live
        rw [List.map_cons, remainder_live, ← matched.remaining, ← simulates.nextEq] at inserted
        rw [queueEq, matched.own]
        refine List.Perm.trans ?_ inserted.symm
        simp only [decide_true, List.filter_cons_of_pos, List.filter_nil]
        exact (List.perm_append_singleton _ _).trans ((simulates.sides side.isBuy).cons _)
      · obtain rfl := Bool.eq_not_of_ne own
        simpa [PriorityBook.acceptOrder] using matched.opposite
  · have gone : PriorityBook.rests type (book.matching clock side type
        (effectivePrice side type price) quantity).incoming ≠ true :=
      fun rests => resting (restsIff.mp rests)
    rw [if_neg resting]
    refine ⟨congrArg (· + 1) simulates.nextEq, arrival,
      fun order member => (bounded order member).trans (Nat.lt_succ_self _), ?_⟩
    intro buy
    by_cases own : buy = side.isBuy
    · subst own
      have queueEq : (book.acceptOrder clock side type
          (effectivePrice side type price) quantity).1.queue side.isBuy =
            book.queue side.isBuy := by
        simp only [PriorityBook.acceptOrder, if_true, gone]
        rfl
      rw [queueEq, matched.own]
      exact simulates.sides side.isBuy
    · obtain rfl := Bool.eq_not_of_ne own
      simpa [PriorityBook.acceptOrder] using matched.opposite

end Submit

theorem queue_eq_sorted (simulates : Simulates book reference) (ordered : book.Ordered)
    (buy : Bool) :
    (book.queue buy).map Order.live =
      (reference.live.filter fun order => order.buy = buy).insertionSort
        (LiveOrder.AtOrBefore buy) := by
  have sides := simulates.sides buy
  have queueSorted : ((book.queue buy).map Order.live).Pairwise (LiveOrder.AtOrBefore buy) := by
    rw [List.pairwise_map]
    refine (ordered.prior buy).imp_of_mem ?_
    intro first second firstMem secondMem prior
    exact (prior.before (ordered.num _ first firstMem) (ordered.num _ second secondMem)).atOrBefore
  refine List.Perm.eq_of_pairwise ?_ queueSorted
    (List.pairwise_insertionSort (LiveOrder.AtOrBefore buy) _)
    (sides.symm.trans (List.perm_insertionSort _ _).symm)
  intro first second firstMem secondMem forward backward
  have firstLive : first ∈ reference.live := (List.mem_filter.mp (sides.mem_iff.mpr firstMem)).1
  have secondLive : second ∈ reference.live :=
    (List.mem_filter.mp ((List.mem_insertionSort _).mp secondMem)).1
  exact List.inj_on_of_nodup_map simulates.ids_nodup firstLive secondLive
    (forward.id_eq backward)

end Simulates

/-- The engine and the reference describe one state for every symbol. -/
structure EngineSimulates (engine : MatchingEngine) (books : ReferenceExchange) : Prop where
  sound : engine.Sound
  simulates : ∀ symbol, Simulates (engine.view symbol) (books symbol)

namespace EngineSimulates

theorem simulates_update {views : PriorityExchange} {books : ReferenceExchange}
    (simulates : ∀ symbol, Simulates (views symbol) (books symbol)) {symbol : Symbol}
    {book : PriorityBook} {reference : ReferenceBook} (updated : Simulates book reference)
    (other : Symbol) :
    Simulates (Function.update views symbol book other)
      (Function.update books symbol reference other) := by
  by_cases same : other = symbol
  · subst same
    rw [Function.update_self, Function.update_self]
    exact updated
  · rw [Function.update_of_ne same, Function.update_of_ne same]
    exact simulates other

theorem simulates_new : EngineSimulates .new .empty where
  sound := MatchingEngine.sound_new
  simulates := by
    intro symbol
    rw [MatchingEngine.view_new]
    exact Simulates.simulates_empty

variable {engine : MatchingEngine} {books : ReferenceExchange}

/-- One call keeps the simulation and returns what the reference returns. -/
theorem step (related : EngineSimulates engine books) {op : EngineOp} (regular : op.Regular) :
    EngineSimulates (engine.step op).1 (books.step op).1 ∧
      (engine.step op).2.reference = (books.step op).2 := by
  have sound := related.sound
  obtain ⟨-, viewEq, outputEq⟩ := MatchingEngine.step_refines sound.valid regular.nanFree
  have nextSound := sound.step regular
  rw [outputEq]
  suffices stepped : (∀ symbol, Simulates ((engine.view.step op).1 symbol)
      ((books.step op).1 symbol)) ∧
      (engine.view.step op).2.reference = (books.step op).2 from
    ⟨⟨nextSound, fun symbol => viewEq ▸ stepped.1 symbol⟩, stepped.2⟩
  cases op with
  | submit clock symbol side type price quantity =>
      by_cases rejected : rejects type price quantity = true
      · rw [PriorityExchange.step_submit_of_rejects _ _ _ _ rejected]
        simp only [ReferenceExchange.step, ReferenceBook.submit, rejected, if_true,
          Function.update_eq_self]
        exact ⟨related.simulates, rfl⟩
      · rw [PriorityExchange.step_submit_of_accepts _ _ _ _ rejected]
        obtain ⟨updated, idEq, tradesEq⟩ := (related.simulates symbol).acceptOrder
          (sound.valid.ordered symbol) (sound.clean symbol) clock side regular.1 regular.2 rejected
        refine ⟨simulates_update related.simulates updated, ?_⟩
        rw [EngineOutput.reference, ← tradesEq, ← idEq]
        rfl
  | cancel symbol orderId =>
      obtain ⟨updated, resultEq⟩ := (related.simulates symbol).cancelOrder
        (sound.valid.ordered symbol) orderId
      rw [PriorityExchange.step_cancel]
      refine ⟨simulates_update related.simulates updated, ?_⟩
      rw [EngineOutput.reference, resultEq]
      rfl
  | reduce symbol orderId newQuantity =>
      obtain ⟨updated, resultEq⟩ := (related.simulates symbol).reduceOrder
        (sound.valid.ordered symbol) orderId newQuantity
      rw [PriorityExchange.step_reduce]
      refine ⟨simulates_update related.simulates updated, ?_⟩
      rw [EngineOutput.reference, resultEq]
      rfl

end EngineSimulates

/-- Every run of the engine returns what the reference exchange returns, and
its books read as the reference's live orders in priority order. -/
theorem run_simulates_reference {ops : List EngineOp} (regular : ∀ op ∈ ops, op.Regular) :
    (Transition.run MatchingEngine.step .new ops).2.map EngineOutput.reference =
        (Transition.run ReferenceExchange.step .empty ops).2 ∧
      ∀ symbol buy,
        (((Transition.run MatchingEngine.step .new ops).1.book symbol).queue buy).map Order.live =
          (((Transition.run ReferenceExchange.step .empty ops).1 symbol).live.filter
            fun order => order.buy = buy).insertionSort (LiveOrder.AtOrBefore buy) := by
  have simulates : ∀ (engine : MatchingEngine) (books : ReferenceExchange) (op : EngineOp),
      EngineSimulates engine books → op.Regular →
        EngineSimulates (engine.step op).1 (books.step op).1 ∧
          (engine.step op).2.reference = id (books.step op).2 :=
    fun _ _ _ related regular => related.step regular
  obtain ⟨related, outputsEq⟩ := Transition.run_simulation simulates
    EngineSimulates.simulates_new (Transition.along_of_forall regular MatchingEngine.new)
  rw [List.map_id] at outputsEq
  refine ⟨outputsEq, ?_⟩
  intro symbol buy
  exact (related.simulates symbol).queue_eq_sorted (related.sound.valid.ordered symbol) buy

/-- A sell that sweeps two bids and rests, and the cancellation of what is
left. -/
theorem run_simulates_reference_sweep :
    let ops : List EngineOp :=
      [.submit id [65] .buy .limit (.finite 100) 10, .submit id [65] .buy .limit (.finite 101) 5,
        .submit id [65] .sell .limit (.finite 100) 20, .cancel [65] 3]
    (Transition.run MatchingEngine.step .new ops).2.map EngineOutput.reference =
        (Transition.run ReferenceExchange.step .empty ops).2 ∧
      (Transition.run ReferenceExchange.step .empty ops).2 =
        [.submitted 1 [], .submitted 2 [],
          .submitted 3 [⟨2, 3, .finite 101, 5⟩, ⟨1, 3, .finite 100, 10⟩], .cancelled true] := by
  intro ops
  have regular : ∀ op ∈ ops, op.Regular := by decide +kernel
  exact ⟨(run_simulates_reference regular).1, by decide +kernel⟩

end OrderBookExchange
