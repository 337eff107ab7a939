import OrderBookExchange.ShelvedBook

/-!
# Matching as a walk up the opposite ladder

The matching loop takes the first order of the best level over and over.  What
it takes, and what it leaves of the opposite side, is a function of the ladder
of that side, the quantity to trade and the prices in reach.  `Ladder.walk` is
that function.  It stops at an empty level, as the loop does.
-/

namespace OrderBookExchange

/-- What an aggressor takes from one resting order. -/
structure RestingFill where
  restingId : Nat
  price : Price
  quantity : Nat
  deriving DecidableEq

/-- A trade as its resting party sees it; the aggressor is the buyer or the
seller. -/
def Trade.fill (buyAggressor : Bool) (trade : Trade) : RestingFill where
  restingId := if buyAggressor then trade.sellOrderId else trade.buyOrderId
  price := trade.price
  quantity := trade.quantity.toNat

/-- Whether a limit on one side reaches a price on the other. -/
def reaches (buy : Bool) (limit price : Price) : Bool :=
  if buy then price.le limit else limit.le price

/-- The outcome of a walk: what was taken, what is still wanted, and the
ladder that is left. -/
structure Walk where
  fills : List RestingFill
  left : Nat
  ladder : Ladder

namespace Ladder

theorem orders_shelve (key : Price) (level : List Order) (levels : Ladder) :
    orders (shelve key level levels) = level ++ orders levels := by
  unfold shelve
  split
  · next empty => rw [empty, List.nil_append]
  · rfl

/-- Take from the front of the ladder until nothing is wanted, a level is
empty or a price is out of reach. -/
def walk (reach : Price → Bool) (left : Nat) : Ladder → Walk
  | (key, order :: rest) :: levels =>
      if left = 0 ∨ reach order.price = false then ⟨[], left, (key, order :: rest) :: levels⟩
      else if order.remainingQty.toNat ≤ left then
        let later := walk reach (left - order.remainingQty.toNat) (shelve key rest levels)
        ⟨⟨order.id, order.price, order.remainingQty.toNat⟩ :: later.fills, later.left, later.ladder⟩
      else
        let shrunk := { order with remainingQty := order.remainingQty - UInt32.ofNat left }
        ⟨[⟨order.id, order.price, left⟩], 0, (key, shrunk :: rest) :: levels⟩
  | ladder => ⟨[], left, ladder⟩
termination_by ladder => ladder.orders.length
decreasing_by
  rw [orders_shelve]
  simp [orders]

/-- A ladder with no order at its front. -/
def Bare (ladder : Ladder) : Prop :=
  ∀ key order rest levels, ladder ≠ (key, order :: rest) :: levels

/-- Induction along the front of a ladder. -/
theorem front_induction {motive : Ladder → Prop} (bare : ∀ ladder, Bare ladder → motive ladder)
    (front : ∀ key order rest levels, motive (shelve key rest levels) →
      motive ((key, order :: rest) :: levels)) (ladder : Ladder) : motive ladder := by
  generalize countEq : ladder.orders.length = count
  induction count using Nat.strong_induction_on generalizing ladder with
  | _ count ih =>
      by_cases isBare : Bare ladder
      · exact bare ladder isBare
      · simp only [Bare, ne_eq, not_forall, not_not] at isBare
        obtain ⟨key, order, rest, levels, rfl⟩ := isBare
        apply front
        apply ih (orders (shelve key rest levels)).length _ _ rfl
        rw [← countEq, orders_shelve]
        simp [orders]

variable {reach : Price → Bool} {left : Nat} {key : Price} {order : Order} {rest : List Order}
  {levels ladder : Ladder}

theorem walk_of_bare (bare : Bare ladder) : ladder.walk reach left = ⟨[], left, ladder⟩ := by
  unfold walk
  split
  · next key order rest levels => exact absurd rfl (bare key order rest levels)
  · rfl

theorem walk_stop (stop : left = 0 ∨ reach order.price = false) :
    walk reach left ((key, order :: rest) :: levels) =
      ⟨[], left, (key, order :: rest) :: levels⟩ := by
  rw [walk, if_pos stop]

theorem walk_take (wanted : left ≠ 0) (inReach : reach order.price = true)
    (enough : order.remainingQty.toNat ≤ left) :
    walk reach left ((key, order :: rest) :: levels) =
      let later := walk reach (left - order.remainingQty.toNat) (shelve key rest levels)
      ⟨⟨order.id, order.price, order.remainingQty.toNat⟩ :: later.fills, later.left,
        later.ladder⟩ := by
  rw [walk, if_neg (by simp [wanted, inReach]), if_pos enough]

theorem walk_part (wanted : left ≠ 0) (inReach : reach order.price = true)
    (more : left < order.remainingQty.toNat) :
    walk reach left ((key, order :: rest) :: levels) =
      ⟨[⟨order.id, order.price, left⟩], 0,
        (key, { order with remainingQty := order.remainingQty - UInt32.ofNat left } :: rest) ::
          levels⟩ := by
  rw [walk, if_neg (by simp [wanted, inReach]), if_neg (by omega)]

theorem walk_zero (reach : Price → Bool) (ladder : Ladder) :
    ladder.walk reach 0 = ⟨[], 0, ladder⟩ := by
  by_cases bare : Bare ladder
  · exact walk_of_bare bare
  · simp only [Bare, ne_eq, not_forall, not_not] at bare
    obtain ⟨key, order, rest, levels, rfl⟩ := bare
    exact walk_stop (Or.inl rfl)

theorem toNat_sub_ofNat {quantity : Quantity} (atMost : left ≤ quantity.toNat) :
    (quantity - UInt32.ofNat left).toNat = quantity.toNat - left := by
  have leftQty : (UInt32.ofNat left).toNat = left :=
    UInt32.toNat_ofNat_of_lt' (atMost.trans_lt (UInt32.toNat_lt_size quantity))
  rw [UInt32.toNat_sub_of_le, leftQty]
  rw [UInt32.le_iff_toNat_le, leftQty]
  exact atMost

/-- The shares the orders of a ladder have left. -/
def shares (ladder : Ladder) : Nat :=
  (ladder.orders.map fun order => order.remainingQty.toNat).sum

theorem shares_cons (key : Price) (order : Order) (rest : List Order) (levels : Ladder) :
    shares ((key, order :: rest) :: levels) =
      order.remainingQty.toNat + shares (shelve key rest levels) := by
  rw [shares, shares, orders_shelve]
  rfl

/-- What a walk takes is what the ladder loses. -/
theorem walk_shares (reach : Price → Bool) (left : Nat) (ladder : Ladder) :
    (ladder.walk reach left).ladder.shares +
        ((ladder.walk reach left).fills.map RestingFill.quantity).sum = ladder.shares := by
  induction ladder using front_induction generalizing left with
  | bare ladder bare => simp [walk_of_bare bare]
  | front key order rest levels induction =>
      by_cases stop : left = 0 ∨ reach order.price = false
      · simp [walk_stop stop]
      · simp only [not_or, Bool.not_eq_false] at stop
        by_cases enough : order.remainingQty.toNat ≤ left
        · have later := induction (left - order.remainingQty.toNat)
          rw [walk_take stop.1 stop.2 enough, shares_cons]
          simp only [List.map_cons, List.sum_cons]
          omega
        · have shrunk := toNat_sub_ofNat (Nat.le_of_lt (Nat.lt_of_not_le enough))
          rw [walk_part stop.1 stop.2 (by omega), shares_cons, shares_cons]
          dsimp only
          rw [shrunk]
          simp only [List.map_cons, List.map_nil, List.sum_cons, List.sum_nil]
          omega

theorem rewrite_rewrite {first second : Order} (idEq : first.id = second.id) :
    (ladder.rewrite first).rewrite second = ladder.rewrite second := by
  unfold rewrite
  rw [List.map_map]
  apply List.map_congr_left
  intro level _
  rw [Function.comp_apply, Prod.map_apply', Prod.map_apply', Prod.map_apply',
    replaceOrder_replaceOrder idEq]
  rfl

theorem rewrite_self (unique : ∀ other ∈ ladder.orders, other.id = order.id → other = order) :
    ladder.rewrite order = ladder := by
  unfold rewrite
  conv_rhs => rw [← List.map_id ladder]
  apply List.map_congr_left
  intro level member
  rw [Prod.map_apply', replaceOrder_self]
  · rfl
  · intro other inLevel
    exact unique other (List.mem_flatMap.mpr ⟨level, member, inLevel⟩)

end Ladder

namespace OrderBook

variable {book : OrderBook} {buy : Bool} {incoming resting : Nat}

theorem ladder_store_opposite (linked : book.Linked) (live : incoming ∈ book.nodePtrs buy)
    {order : Order} (idEq : order.id = (book.load incoming).id) :
    (book.store incoming order).ladder (!buy) = book.ladder (!buy) := by
  rw [ladder_store linked live idEq, Ladder.rewrite_of_absent]
  intro other member
  rw [orders_ladder, List.mem_map] at member
  obtain ⟨ptr, otherLive, rfl⟩ := member
  rw [idEq]
  exact linked.id_ne_of_ptr_ne otherLive live (linked.ptr_ne_of_opposite live otherLive).symm

theorem ladder_removeOrder (linked : book.Linked) (shelved : book.Shelved)
    (live : incoming ∈ book.nodePtrs buy) (other : Bool) :
    (book.removeOrder incoming).ladder other =
      if other = buy then
        (book.ladder other).remove other (book.load incoming).price (book.load incoming).id
      else book.ladder other := by
  obtain ⟨location, found, iteratorEq, sideEq⟩ := linked.placed buy incoming live
  have priceEq := shelved.priced _ location found
  rw [iteratorEq] at priceEq
  rw [removeOrder, found]
  dsimp only
  rw [ladder_unlink linked found, sideEq, priceEq]

/-- The first order of a side in the map and on the ladder. -/
theorem ladder_of_bestLevel {ptrs : List Nat} (best : book.bestLevel buy = some (resting :: ptrs)) :
    ∃ key more, book.levels buy = (key, resting :: ptrs) :: more ∧
      book.ladder buy = (key, book.load resting :: ptrs.map book.load) ::
        more.map (Prod.map id (List.map book.load)) := by
  unfold bestLevel at best
  cases shape : book.levels buy with
  | nil => simp [shape] at best
  | cons level more =>
      obtain ⟨key, nodes⟩ := level
      rw [shape] at best
      obtain rfl := Option.some.inj best
      exact ⟨key, more, rfl, by rw [ladder_eq_map, shape]; rfl⟩

/-- An iteration that trades, seen on both ladders. -/
theorem ladder_afterMatch (linked : book.Linked) (shelved : book.Shelved)
    (live : incoming ∈ book.nodePtrs buy) (restingLive : resting ∈ book.nodePtrs (!buy))
    {key : Price} {rest : List Order} {levels : Ladder} (now : Nat)
    (fits : Ladder.Fits key (book.load resting).price)
    (front : book.ladder (!buy) = (key, book.load resting :: rest) :: levels) :
    (book.afterMatch incoming resting now).ladder buy =
        (book.ladder buy).rewrite (book.matchAt incoming resting now).incoming ∧
      (book.afterMatch incoming resting now).ladder (!buy) =
        if (book.matchAt incoming resting now).resting.isFilled then
          Ladder.shelve key rest levels
        else (key, (book.matchAt incoming resting now).resting :: rest) :: levels := by
  have different := linked.ptr_ne_of_opposite live restingLive
  set result := book.matchAt incoming resting now
  have incomingId : result.incoming.id = (book.load incoming).id := rfl
  -- both parties are written before the resting one may be removed
  have written : ∀ final : Order, (book.load resting).SameTerms final →
      ((book.store incoming result.incoming).store resting final).ladder buy =
          (book.ladder buy).rewrite result.incoming ∧
        ((book.store incoming result.incoming).store resting final).ladder (!buy) =
          (key, final :: rest) :: levels := by
    intro final terms
    have firstLinked := linked.store incoming result.incoming rfl rfl
    have restingKept : (book.store incoming result.incoming).load resting = book.load resting :=
      load_store_of_ne _ _ _ different.symm
    have restingOn : resting ∈ (book.store incoming result.incoming).nodePtrs (!buy) := by
      rw [nodePtrs_store]
      exact restingLive
    have finalId : final.id = ((book.store incoming result.incoming).load resting).id := by
      rw [restingKept, terms.id]
    refine ⟨?_, ?_⟩
    · have kept := ladder_store_opposite firstLinked restingOn finalId
      rw [Bool.not_not] at kept
      rw [kept, ladder_store linked live incomingId]
    · have distinct := linked.distinct_ladder (!buy)
      rw [front] at distinct
      rw [ladder_store firstLinked restingOn finalId, ladder_store_opposite linked live incomingId,
        front,
        Ladder.rewrite_front terms.id.symm distinct]
  unfold afterMatch
  dsimp only
  by_cases gone : result.resting.isFilled = true
  · rw [if_pos gone, if_pos gone, store_store]
    have both := bothWritten_store linked live restingLive result.incoming
      { result.resting with status := .filled } ⟨rfl, rfl, rfl, rfl, rfl⟩ ⟨rfl, rfl, rfl, rfl, rfl⟩
    obtain ⟨ownEq, oppositeEq⟩ := written { result.resting with status := .filled }
      ⟨rfl, rfl, rfl, rfl, rfl⟩
    have bothShelved : ((book.store incoming result.incoming).store resting
        { result.resting with status := .filled }).Shelved := by
      refine (shelved.store incoming _ ?_).store resting _ ?_
      · rfl
      · rw [load_store_of_ne _ _ _ different.symm]
        rfl
    have distinct := both.linked.distinct_ladder (!buy)
    rw [oppositeEq] at distinct
    have removed := ladder_removeOrder both.linked bothShelved
      (by rw [both.nodePtrs]; exact restingLive)
    refine ⟨?_, ?_⟩
    · rw [removed, if_neg (by simp), ownEq]
    · rw [removed, if_pos rfl, oppositeEq, both.restingEq]
      exact Ladder.remove_front fits distinct
  · rw [if_neg gone, if_neg gone]
    exact written result.resting ⟨rfl, rfl, rfl, rfl, rfl⟩

/-! ### The whole loop -/

theorem matchLoop_of_nextMatch_none (clock : Clock) (fuel : Nat) (trades : List Trade)
    (stops : book.nextMatch incoming = none) :
    matchLoop clock incoming fuel book trades = (book, trades) := by
  cases fuel with
  | zero => rfl
  | succ fuel => rw [matchLoop_succ, stops]

/-- Where the loop stops, so does the walk. -/
theorem walk_of_nextMatch_none (linked : book.Linked) (live : incoming ∈ book.nodePtrs buy)
    (stops : book.nextMatch incoming = none) :
    (book.ladder (!buy)).walk (reaches buy (book.load incoming).price)
        (book.load incoming).remainingQty.toNat =
      ⟨[], (book.load incoming).remainingQty.toNat, book.ladder (!buy)⟩ := by
  unfold nextMatch at stops
  rw [linked.side_of_mem live] at stops
  split at stops
  · next filled =>
      rw [filled]
      exact Ladder.walk_zero _ _
  · next active =>
      split at stops
      · next resting ptrs best =>
          obtain ⟨key, more, -, front⟩ := ladder_of_bestLevel best
          rw [front]
          apply Ladder.walk_stop
          right
          by_contra inReach
          rw [if_pos] at stops
          · simp at stops
          · rw [priceMatch, linked.side_of_mem live]
            exact Bool.eq_true_of_not_eq_false inReach
      · next noFront =>
          apply Ladder.walk_of_bare
          intro key order rest levels front
          unfold bestLevel at noFront
          rw [ladder_eq_map] at front
          cases shape : book.levels (!buy) with
          | nil => simp [shape] at front
          | cons level more =>
              obtain ⟨levelKey, nodes⟩ := level
              cases nodes with
              | nil => simp [shape] at front
              | cons ptr ptrs =>
                  rw [shape] at noFront
                  exact noFront ptr ptrs rfl

/-- `next` is `book` after the order at `incoming` walked up the other side. -/
structure WalkedTo (book next : OrderBook) (buy : Bool) (incoming : Nat) (trades : List Trade)
    (walk : Walk) : Prop where
  linked : next.Linked
  shelved : next.Shelved
  live : incoming ∈ next.nodePtrs buy
  nextEq : next.nextOrderId = book.nextOrderId
  incomingEq : next.load incoming =
    { book.load incoming with
      remainingQty := UInt32.ofNat walk.left
      status := (next.load incoming).status }
  own : next.ladder buy = (book.ladder buy).rewrite (next.load incoming)
  opposite : next.ladder (!buy) = walk.ladder
  fills : trades.map (Trade.fill buy) = walk.fills

theorem WalkedTo.refl (linked : book.Linked) (shelved : book.Shelved)
    (live : incoming ∈ book.nodePtrs buy) :
    WalkedTo book book buy incoming []
      ⟨[], (book.load incoming).remainingQty.toNat, book.ladder (!buy)⟩ where
  linked := linked
  shelved := shelved
  live := live
  nextEq := rfl
  incomingEq := by rw [UInt32.ofNat_toNat]
  own := by
    rw [Ladder.rewrite_self]
    intro other member same
    rw [orders_ladder, List.mem_map] at member
    obtain ⟨ptr, otherLive, rfl⟩ := member
    by_contra different
    exact linked.id_ne_of_ptr_ne otherLive live (fun ptrEq => different (by rw [ptrEq])) same
  opposite := rfl
  fills := rfl

theorem WalkedTo.trans {middle next : OrderBook} {first second : List Trade}
    {firstWalk secondWalk : Walk} (earlier : WalkedTo book middle buy incoming first firstWalk)
    (later : WalkedTo middle next buy incoming second secondWalk) :
    WalkedTo book next buy incoming (first ++ second)
      ⟨firstWalk.fills ++ secondWalk.fills, secondWalk.left, secondWalk.ladder⟩ where
  linked := later.linked
  shelved := later.shelved
  live := later.live
  nextEq := later.nextEq.trans earlier.nextEq
  incomingEq := by
    refine later.incomingEq.trans ?_
    rw [earlier.incomingEq]
  own := by
    rw [later.own, earlier.own, Ladder.rewrite_rewrite]
    rw [later.incomingEq]
  opposite := later.opposite
  fills := by rw [List.map_append, earlier.fills, later.fills]

/-- A match takes the smaller of the two quantities, and the resting order is
filled exactly if that is its own. -/
theorem matchAt_quantity (book : OrderBook) (incoming resting now : Nat) :
    (book.matchAt incoming resting now).trade.quantity.toNat =
        min (book.load incoming).remainingQty.toNat (book.load resting).remainingQty.toNat ∧
      ((book.matchAt incoming resting now).resting.isFilled = true ↔
        (book.load resting).remainingQty.toNat ≤ (book.load incoming).remainingQty.toNat) := by
  have traded : (book.matchAt incoming resting now).trade.quantity.toNat =
      min (book.load incoming).remainingQty.toNat (book.load resting).remainingQty.toNat :=
    minQuantity_toNat _ _
  have balance := (executeMatch_balance (book.load incoming) (book.load resting) now).2
  rw [← matchAt, traded] at balance
  refine ⟨traded, ?_⟩
  rw [Order.isFilled_eq_true, ← UInt32.toNat_inj]
  change (book.matchAt incoming resting now).resting.remainingQty.toNat = 0 ↔ _
  omega

/-- The walk along one match. -/
def matchWalk (book : OrderBook) (incoming resting : Nat) (key : Price) (rest : List Order)
    (levels : Ladder) : Walk :=
  let order := book.load resting
  let left := (book.load incoming).remainingQty.toNat
  if order.remainingQty.toNat ≤ left then
    ⟨[⟨order.id, order.price, order.remainingQty.toNat⟩], left - order.remainingQty.toNat,
      Ladder.shelve key rest levels⟩
  else
    ⟨[⟨order.id, order.price, left⟩], 0,
      (key, { order with remainingQty := order.remainingQty - UInt32.ofNat left } :: rest) :: levels⟩

theorem walkedTo_afterMatch (linked : book.Linked) (shelved : book.Shelved)
    (live : incoming ∈ book.nodePtrs buy) (restingLive : resting ∈ book.nodePtrs (!buy))
    {key : Price} {rest : List Order} {levels : Ladder} (now : Nat)
    (fits : Ladder.Fits key (book.load resting).price)
    (front : book.ladder (!buy) = (key, book.load resting :: rest) :: levels) :
    WalkedTo book (book.afterMatch incoming resting now) buy incoming
      [(book.matchAt incoming resting now).trade]
      (book.matchWalk incoming resting key rest levels) := by
  have different := linked.ptr_ne_of_opposite live restingLive
  have frame := frame_afterMatch linked live restingLive now
  obtain ⟨ownEq, oppositeEq⟩ := ladder_afterMatch linked shelved live restingLive now fits front
  obtain ⟨traded, filledIff⟩ := matchAt_quantity book incoming resting now
  have balance := (executeMatch_balance (book.load incoming) (book.load resting) now).1
  rw [← matchAt, traded] at balance
  have side := linked.side_of_mem live
  -- what the incoming order has left, as a number
  have leftEq : (book.matchAt incoming resting now).incoming.remainingQty =
      UInt32.ofNat (book.matchWalk incoming resting key rest levels).left := by
    rw [← UInt32.ofNat_toNat (x := (book.matchAt incoming resting now).incoming.remainingQty)]
    congr 1
    unfold matchWalk
    dsimp only
    split
    · dsimp only
      omega
    · dsimp only
      omega
  constructor
  case linked => exact frame.linked
  case shelved => exact shelved.afterMatch different now
  case live => exact frame.live
  case nextEq => exact frame.nextEq
  case incomingEq =>
    rw [frame.incomingEq, ← leftEq]
    rfl
  case own => rw [ownEq, frame.incomingEq]
  case opposite =>
    rw [oppositeEq]
    unfold matchWalk
    dsimp only
    by_cases enough : (book.load resting).remainingQty.toNat ≤
        (book.load incoming).remainingQty.toNat
    · rw [if_pos (filledIff.mpr enough), if_pos enough]
    · have fillEq : minQuantity (book.load incoming).remainingQty (book.load resting).remainingQty =
          UInt32.ofNat (book.load incoming).remainingQty.toNat := by
        rw [UInt32.ofNat_toNat, ← UInt32.toNat_inj, minQuantity_toNat]
        omega
      rw [if_neg fun filled => enough (filledIff.mp filled), if_neg enough, ← fillEq]
      rfl
  case fills =>
    have fillEq : (book.matchAt incoming resting now).trade.fill buy =
        ⟨(book.load resting).id, (book.load resting).price,
          min (book.load incoming).remainingQty.toNat (book.load resting).remainingQty.toNat⟩ := by
      unfold Trade.fill
      rw [traded]
      cases buy
      · simp [matchAt, executeMatch, side]
      · simp [matchAt, executeMatch, side]
    rw [List.map_singleton, fillEq]
    unfold matchWalk
    dsimp only
    split
    · next enough => rw [Nat.min_eq_right enough]
    · next more => rw [Nat.min_eq_left (by omega)]

/-- The matching loop walks up the opposite ladder. -/
theorem matchLoop_walkedTo (clock : Clock) {fuel : Nat} (trades : List Trade)
    (linked : book.Linked) (shelved : book.Shelved) (live : incoming ∈ book.nodePtrs buy)
    (enough : (book.ladder (!buy)).orders.length ≤ fuel) :
    ∃ new, (matchLoop clock incoming fuel book trades).2 = trades ++ new ∧
      WalkedTo book (matchLoop clock incoming fuel book trades).1 buy incoming new
        ((book.ladder (!buy)).walk (reaches buy (book.load incoming).price)
          (book.load incoming).remainingQty.toNat) := by
  induction fuel generalizing book trades with
  | zero =>
      have bare : (book.ladder (!buy)).Bare := by
        intro key order rest levels front
        simp [front, Ladder.orders] at enough
      rw [Ladder.walk_of_bare bare]
      exact ⟨[], (List.append_nil trades).symm, .refl linked shelved live⟩
  | succ fuel ih =>
      cases next : book.nextMatch incoming with
      | none =>
          rw [matchLoop_of_nextMatch_none clock _ trades next,
            walk_of_nextMatch_none linked live next]
          exact ⟨[], (List.append_nil trades).symm, .refl linked shelved live⟩
      | some resting =>
          obtain ⟨active, ⟨ptrs, best⟩, crosses⟩ := nextMatch_eq_some next
          rw [linked.side_of_mem live] at best
          rw [priceMatch, linked.side_of_mem live] at crosses
          obtain ⟨key, more, shape, front⟩ := ladder_of_bestLevel best
          have fits := shelved.fits (!buy) (key, resting :: ptrs) (by simp [shape]) resting
            List.mem_cons_self
          have step := walkedTo_afterMatch linked shelved live (mem_nodePtrs_of_bestLevel best)
            (clock (2 + trades.length)) fits front
          have wanted : (book.load incoming).remainingQty.toNat ≠ 0 := by
            intro zero
            exact active (UInt32.toNat_inj.mp zero)
          rw [matchLoop_succ, next, front]
          dsimp only
          by_cases takes : (book.load resting).remainingQty.toNat ≤
              (book.load incoming).remainingQty.toNat
          · rw [matchWalk, if_pos takes] at step
            have fewer : ((book.afterMatch incoming resting
                (clock (2 + trades.length))).ladder (!buy)).orders.length ≤ fuel := by
              rw [step.opposite, Ladder.orders_shelve]
              simpa [front, Ladder.orders] using enough
            have leftEq : (UInt32.ofNat ((book.load incoming).remainingQty.toNat -
                (book.load resting).remainingQty.toNat)).toNat =
                  (book.load incoming).remainingQty.toNat -
                    (book.load resting).remainingQty.toNat := by
              exact UInt32.toNat_ofNat_of_lt'
                ((Nat.sub_le _ _).trans_lt (UInt32.toNat_lt_size _))
            obtain ⟨new, tradesEq, later⟩ := ih
              (trades ++ [(book.matchAt incoming resting (clock (2 + trades.length))).trade])
              step.linked step.shelved step.live fewer
            have leftNow : ((book.afterMatch incoming resting
                (clock (2 + trades.length))).load incoming).remainingQty.toNat =
                  (book.load incoming).remainingQty.toNat -
                    (book.load resting).remainingQty.toNat := by
              rw [step.incomingEq]
              exact leftEq
            have priceNow : ((book.afterMatch incoming resting
                (clock (2 + trades.length))).load incoming).price =
                  (book.load incoming).price := by
              rw [step.incomingEq]
            rw [step.opposite, leftNow, priceNow] at later
            rw [Ladder.walk_take wanted crosses takes]
            exact ⟨_ :: new, by rw [tradesEq, List.append_assoc]; rfl, step.trans later⟩
          · rw [matchWalk, if_neg takes] at step
            have stops : (book.afterMatch incoming resting
                (clock (2 + trades.length))).nextMatch incoming = none := by
              rw [nextMatch, step.incomingEq]
              rfl
            rw [matchLoop_of_nextMatch_none clock fuel _ stops,
              Ladder.walk_part wanted crosses (by omega)]
            exact ⟨_, rfl, step⟩

theorem WalkedTo.withStatus {next : OrderBook} {trades : List Trade} {walk : Walk} {final : Order}
    (walked : WalkedTo book next buy incoming trades walk)
    (finalEq : final = { next.load incoming with status := final.status }) :
    WalkedTo book (next.store incoming final) buy incoming trades walk := by
  have finalId : final.id = (next.load incoming).id := by rw [finalEq]
  have finalSide : final.side = (next.load incoming).side := by rw [finalEq]
  have finalPrice : final.price = (next.load incoming).price := by rw [finalEq]
  constructor
  case linked => exact walked.linked.store incoming final finalId finalSide
  case shelved => exact walked.shelved.store incoming final finalPrice
  case live =>
    rw [nodePtrs_store]
    exact walked.live
  case nextEq => exact walked.nextEq
  case incomingEq =>
    rw [load_store_self]
    refine finalEq.trans ?_
    rw [walked.incomingEq]
  case own =>
    rw [ladder_store walked.linked walked.live finalId, load_store_self, walked.own,
      Ladder.rewrite_rewrite finalId.symm]
  case opposite =>
    rw [ladder_store_opposite walked.linked walked.live finalId]
    exact walked.opposite
  case fills => exact walked.fills

theorem matchOrder_walkedTo (clock : Clock) (linked : book.Linked) (shelved : book.Shelved)
    (live : incoming ∈ book.nodePtrs buy) :
    WalkedTo book (book.matchOrder clock incoming).1 buy incoming
      (book.matchOrder clock incoming).2
      ((book.ladder (!buy)).walk (reaches buy (book.load incoming).price)
        (book.load incoming).remainingQty.toNat) := by
  have enough : (book.ladder (!buy)).orders.length ≤
      book.nodeCount (!(book.load incoming).side.isBuy) + 1 := by
    rw [linked.side_of_mem live, nodeCount_eq, orders_ladder, queue_eq_map]
    omega
  obtain ⟨new, tradesEq, walked⟩ := matchLoop_walkedTo clock [] linked shelved live enough
  rw [List.nil_append] at tradesEq
  unfold matchOrder
  dsimp only
  rw [tradesEq]
  exact walked.withStatus (by rfl)

theorem ladder_postMatch (linked : book.Linked) (shelved : book.Shelved)
    (live : incoming ∈ book.nodePtrs buy) (type : OrderType) :
    (book.postMatch incoming type).ladder (!buy) = book.ladder (!buy) ∧
      (type = .market ∨ type = .ioc → (book.postMatch incoming type).ladder buy =
        (book.ladder buy).remove buy (book.load incoming).price (book.load incoming).id) := by
  have removed := ladder_removeOrder linked shelved live
  unfold postMatch
  dsimp only
  split
  · exact ⟨by rw [removed, if_neg (by simp)], fun _ => by rw [removed, if_pos rfl]⟩
  · split
    · generalize (if 0 < (book.load incoming).filledQty then OrderStatus.partiallyFilled
        else .cancelled) = status
      have idEq : ({ book.load incoming with status := status } : Order).id =
        (book.load incoming).id := rfl
      have storedLinked := linked.store incoming { book.load incoming with status := status } rfl rfl
      have storedShelved := shelved.store incoming { book.load incoming with status := status } rfl
      have storedLive : incoming ∈
          (book.store incoming { book.load incoming with status := status }).nodePtrs buy := by
        rw [nodePtrs_store]
        exact live
      have storedRemoved := ladder_removeOrder storedLinked storedShelved storedLive
      refine ⟨?_, fun _ => ?_⟩
      · rw [storedRemoved, if_neg (by simp), ladder_store_opposite linked live idEq]
      · rw [storedRemoved, if_pos rfl, ladder_store linked live idEq, load_store_self]
        exact Ladder.remove_rewrite
    · next kept => exact ⟨rfl, fun immediate => absurd immediate kept⟩

section Submission

variable (clock : Clock) (side : Side) (type : OrderType) (price : Price) (quantity : Quantity)

/-- What a submission takes from the opposite side. -/
def walked (book : OrderBook) (side : Side) (price : Price) (quantity : Quantity) : Walk :=
  (book.ladder (!side.isBuy)).walk (reaches side.isBuy price) quantity.toNat

theorem matched_walkedTo (linked : book.Linked) (shelved : book.Shelved) :
    WalkedTo (book.addOrder side type price quantity (clock 1)).1
      (book.matched clock side type price quantity).1 side.isBuy
      (book.addOrder side type price quantity (clock 1)).2
      (book.matched clock side type price quantity).2 (book.walked side price quantity) := by
  have live : (book.addOrder side type price quantity (clock 1)).2 ∈
      (book.addOrder side type price quantity (clock 1)).1.nodePtrs side.isBuy :=
    (mem_nodePtrs_addOrder side type price quantity (clock 1)).mpr (Or.inr ⟨rfl, rfl⟩)
  have walked := matchOrder_walkedTo clock (linked.addOrder side type price quantity (clock 1))
    (shelved.addOrder linked side type price quantity (clock 1)) live
  rw [ladder_addOrder linked, if_neg (by simp), addOrder_ptr, load_addOrder_self] at walked
  exact walked

/-- A submission walks up the opposite side. -/
theorem acceptOrder_walked (linked : book.Linked) (shelved : book.Shelved) :
    (book.acceptOrder clock side type price quantity).1.Linked ∧
      (book.acceptOrder clock side type price quantity).1.Shelved ∧
      (book.acceptOrder clock side type price quantity).2.2.map (Trade.fill side.isBuy) =
        (book.walked side price quantity).fills ∧
      (book.acceptOrder clock side type price quantity).1.ladder (!side.isBuy) =
        (book.walked side price quantity).ladder := by
  have walked := matched_walkedTo clock side type price quantity linked shelved
  have posted := (ladder_postMatch walked.linked walked.shelved walked.live type).1
  rw [acceptOrder_eq]
  exact ⟨(postMatch_cases walked.linked walked.live type).1, walked.shelved.postMatch _ type,
    walked.fills, posted.trans walked.opposite⟩

/-- A market or IOC order leaves its own side as it was, except that an empty
level at its price is cleaned up. -/
theorem ladder_acceptOrder_own (linked : book.Linked) (shelved : book.Shelved)
    (immediate : type = .market ∨ type = .ioc) :
    (book.acceptOrder clock side type price quantity).1.ladder side.isBuy =
      SortedMap.cleanup (better side.isBuy) price (book.ladder side.isBuy) := by
  have walked := matched_walkedTo clock side type price quantity linked shelved
  have posted := (ladder_postMatch walked.linked walked.shelved walked.live type).2 immediate
  have added := ladder_addOrder linked side type price quantity (clock 1) side.isBuy
  have loaded := load_addOrder_self book side type price quantity (clock 1)
  have fresh : ∀ other ∈ (book.ladder side.isBuy).orders,
      other.id ≠ (book.addedOrder side type price quantity (clock 1)).id := by
    intro other member
    rw [orders_ladder, List.mem_map] at member
    obtain ⟨ptr, live, rfl⟩ := member
    exact Nat.ne_of_lt (linked.below_of_mem live)
  have idEq : ((book.matched clock side type price quantity).1.load
      (book.addOrder side type price quantity (clock 1)).2).id =
        (book.addedOrder side type price quantity (clock 1)).id := by
    rw [walked.incomingEq, addOrder_ptr, loaded]
  have priceEq : ((book.matched clock side type price quantity).1.load
      (book.addOrder side type price quantity (clock 1)).2).price =
        (book.addedOrder side type price quantity (clock 1)).price := by
    rw [walked.incomingEq, addOrder_ptr, loaded]
  rw [acceptOrder_eq]
  dsimp only
  rw [posted, walked.own, Ladder.remove_rewrite, idEq, priceEq, added, if_pos rfl,
    Ladder.remove_add fresh]
  rfl

end Submission

/-! ### The index -/

/-- The index leads to the orders of the ladders, with their sides and prices. -/
theorem index_eq_some_iff (linked : book.Linked) (shelved : book.Shelved) {orderId : Nat}
    {entry : Side × Price × Order} :
    book.contents.index orderId = some entry ↔
      (∃ buy, entry.2.2 ∈ (book.ladder buy).orders) ∧ entry.2.2.id = orderId ∧
        entry = (entry.2.2.side, entry.2.2.price, entry.2.2) := by
  change (book.orderLookup.lookup orderId).map _ = some entry ↔ _
  constructor
  · intro indexed
    obtain ⟨location, found, rfl⟩ := Option.map_eq_some_iff.mp indexed
    obtain ⟨live, idEq, sideEq⟩ := linked.indexed orderId location found
    refine ⟨⟨location.side.isBuy, ?_⟩, idEq, ?_⟩
    · rw [orders_ladder]
      exact List.mem_map_of_mem live
    · rw [sideEq, shelved.priced orderId location found]
  · rintro ⟨⟨buy, member⟩, idEq, entryEq⟩
    rw [orders_ladder, List.mem_map] at member
    obtain ⟨ptr, live, loadEq⟩ := member
    obtain ⟨location, found, iteratorEq, -⟩ := linked.placed buy ptr live
    have sideEq := (linked.indexed _ location found).2.2
    have priceEq := shelved.priced _ location found
    rw [loadEq, idEq] at found
    rw [iteratorEq, loadEq] at sideEq priceEq
    rw [found, Option.map_some, iteratorEq, loadEq, priceEq, ← sideEq, ← entryEq]

theorem index_congr {other : OrderBook} (linked : book.Linked) (shelved : book.Shelved)
    (otherLinked : other.Linked) (otherShelved : other.Shelved)
    (same : ∀ buy, other.ladder buy = book.ladder buy) :
    other.contents.index = book.contents.index := by
  funext orderId
  apply Option.ext
  intro entry
  rw [index_eq_some_iff otherLinked otherShelved, index_eq_some_iff linked shelved]
  simp only [same]

/-! ### Runs -/

theorem Shelved.step (shelved : book.Shelved) (linked : book.Linked) (op : EngineOp) :
    (book.step op).1.Shelved := by
  cases op with
  | submit clock symbol side type price quantity =>
      by_cases rejected : rejects type price quantity = true
      · rw [step_submit_of_rejects book clock symbol side rejected]
        exact shelved
      · rw [step_submit_of_accepts book clock symbol side rejected]
        exact (acceptOrder_walked clock side type (effectivePrice side type price) quantity linked
          shelved).2.1
  | cancel symbol orderId => exact shelved.cancelOrder orderId
  | reduce symbol orderId newQuantity => exact shelved.reduceOrder orderId newQuantity

theorem shelved_run (symbol : Symbol) (poolSize : Nat) (ops : List EngineOp) :
    (Transition.run step (new symbol poolSize) ops).1.Shelved := by
  have kept := Transition.run_of_preserved
    (fun book : OrderBook => (book.Linked ∧ book.Unfilled) ∧ book.Shelved)
    (fun _ op invariant => ⟨linked_step invariant.1.1 invariant.1.2 op,
      invariant.2.step invariant.1.1 op⟩)
    ⟨⟨linked_new symbol poolSize, unfilled_new symbol poolSize⟩, shelved_new symbol poolSize⟩ ops
  exact kept.2

end OrderBook

namespace MatchingEngine

/-- Every book of a running engine is shelved. -/
theorem shelved_run (ops : List EngineOp) (symbol : Symbol) :
    ((Transition.run step .new ops).1.book symbol).Shelved := by
  rw [book_run]
  exact OrderBook.shelved_run symbol defaultPoolSize _

end MatchingEngine

end OrderBookExchange
