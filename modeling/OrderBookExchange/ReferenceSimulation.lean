import OrderBookExchange.CleanRuns
import OrderBookExchange.ReferenceExchange

/-!
# The sweep simulates the search

The live orders of the reference on one side are a rearrangement of the
priority queue of that side.  The order the reference finds by searching is
then the head of the queue, so one trade of the reference is one step of the
sweep.  By induction on the queue the whole matching agrees.
-/

namespace OrderBookExchange

def Order.live (order : Order) : LiveOrder :=
  ⟨order.id, order.side.isBuy, order.price, order.remainingQty.toNat⟩

def Trade.reference (trade : Trade) : ReferenceTrade :=
  ⟨trade.buyOrderId, trade.sellOrderId, trade.price, trade.quantity.toNat⟩

/-- What the reference shows of an output: everything but the timestamps. -/
def EngineOutput.reference : EngineOutput → ReferenceOutput
  | .submitted id trades => .submitted id (trades.map Trade.reference)
  | .cancelled found => .cancelled found
  | .reduced done => .reduced done

theorem better_iff {buy : Bool} {first second : Price} (firstNum : first ≠ .nan)
    (secondNum : second ≠ .nan) :
    better buy first second = true ↔ BetterPrice buy first second := by
  cases buy
  · exact Double.lt_eq_true_iff firstNum secondNum
  · exact Double.lt_eq_true_iff secondNum firstNum

theorem Prior.before {buy : Bool} {first second : Order} (firstNum : first.price ≠ .nan)
    (secondNum : second.price ≠ .nan) (prior : Prior buy first second) :
    LiveOrder.Before buy first.live second.live := by
  rcases prior with firstBetter | sameLess
  · exact Or.inl ((better_iff firstNum secondNum).mp firstBetter)
  · exact Or.inr sameLess

theorem isFilled_iff {order : Order} :
    order.isFilled = true ↔ order.remainingQty.toNat = 0 := by
  rw [Order.isFilled_eq_true, ← UInt32.toNat_inj]
  rfl

/-! ### Filling an order of the flat list -/

section Fill

variable {id quantity : Nat} {live : List LiveOrder}

theorem fill_of_absent (absent : ∀ order ∈ live, order.id ≠ id) :
    fill id quantity live = live := by
  induction live with
  | nil => rfl
  | cons order rest ih =>
      have restAbsent : fill id quantity rest = rest :=
        ih fun other member => absent other (by simp [member])
      unfold fill at restAbsent ⊢
      rw [List.filterMap_cons, if_neg (absent order (by simp)), restAbsent]

theorem fill_filter (buy : Bool) :
    (fill id quantity live).filter (fun order => order.buy = buy) =
      fill id quantity (live.filter fun order => order.buy = buy) := by
  induction live with
  | nil => rfl
  | cons order rest ih =>
      unfold fill at ih ⊢
      by_cases named : order.id = id <;> by_cases all : order.remaining = quantity <;>
        by_cases own : order.buy = buy <;>
        simp [named, all, own, ih]

theorem fill_ids_sublist :
    ((fill id quantity live).map LiveOrder.id).Sublist (live.map LiveOrder.id) := by
  induction live with
  | nil => exact List.Sublist.slnil
  | cons order rest ih =>
      unfold fill at ih ⊢
      by_cases named : order.id = id
      · by_cases all : order.remaining = quantity
        · simpa [named, all] using ih.cons id
        · simpa [named, all] using ih
      · simpa [named] using ih

theorem fill_cons_self {order : LiveOrder} (idEq : order.id = id)
    (others : ∀ other ∈ live, other.id ≠ id) :
    fill id quantity (order :: live) =
      if order.remaining = quantity then live
      else { order with remaining := order.remaining - quantity } :: live := by
  have unchanged : fill id quantity live = live := fill_of_absent others
  unfold fill at unchanged ⊢
  rw [List.filterMap_cons, if_pos idEq, unchanged]
  split <;> simp_all

end Fill

/-! ### One submission -/

/-- The reference's matching result is the sweep's: the same trades and
remainder, the opposite side rearranged and the own side untouched. -/
structure MatchedLive (request : Request) (live : List LiveOrder) (swept : Sweep)
    (result : List ReferenceTrade × Nat × List LiveOrder) : Prop where
  trades : result.1 = swept.trades.map Trade.reference
  remaining : result.2.1 = swept.incoming.remainingQty.toNat
  opposite : (result.2.2.filter fun order => order.buy = !request.buy).Perm
    (swept.queue.map Order.live)
  own : (result.2.2.filter fun order => order.buy = request.buy) =
    live.filter fun order => order.buy = request.buy
  ids : (result.2.2.map LiveOrder.id).Sublist (live.map LiveOrder.id)

theorem matchLive_of_none {request : Request} {fuel : Nat} (live : List LiveOrder) :
    request.matchLive fuel 0 live = ([], 0, live) := by
  cases fuel with
  | zero => rfl
  | succ fuel => simp [Request.matchLive]

section Loop

variable {clock : Clock} {request : Request} {live : List LiveOrder}

/-- A trade with a live opposite order, in front of the matching of the list
that it leaves. -/
theorem MatchedLive.afterTrade {resting : LiveOrder} {quantity : Nat} {trade : Trade}
    {swept : Sweep} {later : List ReferenceTrade × Nat × List LiveOrder}
    (matched : MatchedLive request (fill resting.id quantity live) swept later)
    (distinct : (live.map LiveOrder.id).Nodup) (member : resting ∈ live)
    (opposite : resting.buy = !request.buy) :
    MatchedLive request live ⟨trade :: swept.trades, swept.incoming, swept.queue⟩
      (trade.reference :: later.1, later.2) where
  trades := by rw [matched.trades, List.map_cons]
  remaining := matched.remaining
  opposite := matched.opposite
  own := by
    rw [matched.own, fill_filter]
    -- identifiers are unique, so no order of the own side was filled
    apply fill_of_absent
    intro order orderMem same
    obtain ⟨orderLive, ownSide⟩ := List.mem_filter.mp orderMem
    have orderEq := List.inj_on_of_nodup_map distinct orderLive member same
    rw [orderEq, opposite] at ownSide
    simp at ownSide
  ids := matched.ids.trans fill_ids_sublist

/-- One trade of the reference is the match of the engine. -/
theorem trade_reference {incoming : Order} (resting : Order) (now : Nat)
    (idEq : incoming.id = request.id) (buyEq : incoming.side.isBuy = request.buy) :
    (executeMatch incoming resting now).trade.reference =
      request.trade resting.live (min incoming.remainingQty.toNat resting.live.remaining) := by
  simp [executeMatch, Trade.reference, Request.trade, idEq, buyEq, minQuantity_toNat, Order.live]

theorem resting_live (incoming resting : Order) (now : Nat) :
    (executeMatch incoming resting now).resting.live =
      { resting.live with
        remaining := resting.live.remaining -
          min incoming.remainingQty.toNat resting.live.remaining } := by
  have balance := (executeMatch_balance incoming resting now).2
  have quantityEq : (executeMatch incoming resting now).trade.quantity.toNat =
      min incoming.remainingQty.toNat resting.live.remaining := minQuantity_toNat _ _
  have left : (executeMatch incoming resting now).resting.remainingQty.toNat =
      resting.live.remaining - min incoming.remainingQty.toNat resting.live.remaining := by
    rw [← quantityEq]
    exact Nat.eq_sub_of_add_eq balance
  rw [← left]
  rfl

/-- The opposite side after one trade with the head of its queue. -/
theorem fill_opposite (incoming : Order) {resting : Order} {rest : List Order} (now : Nat)
    (opposite : (live.filter fun order => order.buy = !request.buy).Perm
      ((resting :: rest).map Order.live))
    (restIds : ∀ other ∈ rest.map Order.live, other.id ≠ resting.live.id) :
    ((fill resting.live.id (min incoming.remainingQty.toNat resting.live.remaining)
        live).filter fun order => order.buy = !request.buy).Perm
      ((if (executeMatch incoming resting now).resting.isFilled then rest
        else (executeMatch incoming resting now).resting :: rest).map Order.live) := by
  have filled := opposite.filterMap fun order =>
    if order.id = resting.live.id then
      if order.remaining = min incoming.remainingQty.toNat resting.live.remaining then none
      else some { order with
        remaining := order.remaining - min incoming.remainingQty.toNat resting.live.remaining }
    else some order
  have head := resting_live incoming resting now
  have headLeft : (executeMatch incoming resting now).resting.remainingQty.toNat =
      resting.live.remaining - min incoming.remainingQty.toNat resting.live.remaining :=
    congrArg LiveOrder.remaining head
  rw [fill_filter]
  refine filled.trans (List.Perm.of_eq ?_)
  change fill _ _ (resting.live :: rest.map Order.live) = _
  rw [fill_cons_self rfl restIds]
  by_cases gone : (executeMatch incoming resting now).resting.isFilled = true
  · have allTaken : resting.live.remaining =
        min incoming.remainingQty.toNat resting.live.remaining := by
      have zero := isFilled_iff.mp gone
      omega
    rw [if_pos allTaken, if_pos gone]
  · have someLeft : resting.live.remaining ≠
        min incoming.remainingQty.toNat resting.live.remaining := by
      intro all
      apply gone
      rw [isFilled_iff]
      omega
    rw [if_neg someLeft, if_neg gone, List.map_cons, head]

/-- The search of the reference finds the head of the opposite queue. -/
theorem best?_opposite {resting : Order} {rest : List Order}
    (opposite : (live.filter fun order => order.buy = !request.buy).Perm
      ((resting :: rest).map Order.live))
    (before : ∀ later ∈ rest, LiveOrder.Before (!request.buy) resting.live later.live) :
    best? (!request.buy) (live.filter fun order => order.buy = !request.buy) =
      some resting.live := by
  apply best?_of_before (opposite.mem_iff.mpr (by simp))
  intro other otherMem different
  rcases List.mem_cons.mp (opposite.mem_iff.mp otherMem) with same | inRest
  · exact absurd same different
  · obtain ⟨later, laterMem, rfl⟩ := List.mem_map.mp inRest
    exact before later laterMem

theorem opposite_tail_id_ne {resting : Order} {rest : List Order}
    (opposite : (live.filter fun order => order.buy = !request.buy).Perm
      ((resting :: rest).map Order.live))
    (distinct : (live.map LiveOrder.id).Nodup) :
    ∀ other ∈ rest.map Order.live, other.id ≠ resting.live.id := by
  have oppositeDistinct := ((List.filter_sublist
    (p := fun order : LiveOrder => order.buy = !request.buy)).map LiveOrder.id).nodup distinct
  rw [(opposite.map LiveOrder.id).nodup_iff, List.map_cons, List.map_cons,
    List.nodup_cons] at oppositeDistinct
  intro other otherMem same
  exact oppositeDistinct.1 (same ▸ List.mem_map_of_mem otherMem)

theorem matchLive_simulates (queue : List Order) :
    ∀ (count : Nat) (incoming : Order) (fuel : Nat) (live : List LiveOrder),
      incoming.id = request.id → incoming.side.isBuy = request.buy →
      queue.length < fuel →
      (live.filter fun order => order.buy = !request.buy).Perm (queue.map Order.live) →
      (live.map LiveOrder.id).Nodup →
      (queue.Pairwise fun first second =>
        LiveOrder.Before (!request.buy) first.live second.live) →
      (∀ resting ∈ queue, priceMatch incoming resting = true ↔
        request.Crosses resting.price) →
      MatchedLive request live (sweep clock count incoming queue)
        (request.matchLive fuel incoming.remainingQty.toNat live) := by
  induction queue with
  | nil =>
      intro count incoming fuel live _ _ enough opposite _ _ _
      obtain ⟨fuel, rfl⟩ := Nat.exists_eq_succ_of_ne_zero (Nat.ne_of_gt enough)
      have none : (live.filter fun order => order.buy = !request.buy) = [] :=
        List.Perm.eq_nil opposite
      have stopped : request.matchLive (fuel + 1) incoming.remainingQty.toNat live =
          ([], incoming.remainingQty.toNat, live) := by
        rw [Request.matchLive, none]
        split
        · next zero => rw [zero]
        · rfl
      rw [Nat.succ_eq_add_one, stopped]
      exact ⟨rfl, rfl, opposite, rfl, List.Sublist.refl _⟩
  | cons resting rest ih =>
      intro count incoming fuel live idEq buyEq enough opposite distinct before crosses
      obtain ⟨fuel, rfl⟩ := Nat.exists_eq_succ_of_ne_zero (Nat.ne_of_gt (Nat.zero_lt_of_lt enough))
      rw [List.length_cons, Nat.succ_lt_succ_iff] at enough
      rw [List.pairwise_cons] at before
      have onSide : resting.live ∈ live.filter fun order => order.buy = !request.buy :=
        opposite.mem_iff.mpr (by simp)
      obtain ⟨onList, sideEq⟩ := List.mem_filter.mp onSide
      rw [decide_eq_true_eq] at sideEq
      have found := best?_opposite opposite before.1
      have headCrosses := crosses resting (by simp)
      have restIds := opposite_tail_id_ne opposite distinct
      rw [Nat.succ_eq_add_one, Request.matchLive, sweep, found]
      by_cases filled : incoming.remainingQty = 0
      · simp only [filled, if_true]
        exact ⟨rfl, by simp [filled], opposite, rfl, List.Sublist.refl _⟩
      · have notFilled : incoming.remainingQty.toNat ≠ 0 := by
          intro zero
          exact filled (UInt32.toNat_inj.mp zero)
        rw [if_neg filled, if_neg notFilled]
        by_cases reached : priceMatch incoming resting = true
        · have crossed : request.Crosses resting.live.price := headCrosses.mp reached
          have balance := (executeMatch_balance incoming resting (clock count)).1
          have quantityEq : (executeMatch incoming resting (clock count)).trade.quantity.toNat =
              min incoming.remainingQty.toNat resting.live.remaining := minQuantity_toNat _ _
          have leftEq : incoming.remainingQty.toNat -
              min incoming.remainingQty.toNat resting.live.remaining =
                (executeMatch incoming resting (clock count)).incoming.remainingQty.toNat := by
            omega
          have filledOpposite := fill_opposite incoming (clock count) opposite restIds
          simp only [reached, if_true, crossed]
          rw [leftEq, ← trade_reference resting (clock count) idEq buyEq]
          by_cases gone : (executeMatch incoming resting (clock count)).resting.isFilled = true
          · rw [if_pos gone] at filledOpposite ⊢
            have later := ih (count + 1) (executeMatch incoming resting (clock count)).incoming
              fuel _ idEq buyEq enough filledOpposite (fill_ids_sublist.nodup distinct) before.2
              (fun other member => crosses other (by simp [member]))
            exact later.afterTrade distinct onList sideEq
          · have spent : (executeMatch incoming resting
                (clock count)).incoming.remainingQty.toNat = 0 := by
              rw [executeMatch_fills gone]
              rfl
            rw [if_neg gone] at filledOpposite ⊢
            rw [spent, matchLive_of_none]
            have stopped : MatchedLive request _
                ⟨[], (executeMatch incoming resting (clock count)).incoming,
                  (executeMatch incoming resting (clock count)).resting :: rest⟩ ([], 0, _) :=
              ⟨rfl, spent.symm, filledOpposite, rfl, List.Sublist.refl _⟩
            exact stopped.afterTrade distinct onList sideEq
        · have apart : ¬request.Crosses resting.live.price :=
            fun crossed => reached (headCrosses.mpr crossed)
          simp only [reached, if_false, apart, Bool.false_eq_true]
          exact ⟨rfl, rfl, opposite, rfl, List.Sublist.refl _⟩

end Loop

end OrderBookExchange
