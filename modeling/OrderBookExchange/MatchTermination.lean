import Mathlib.Logic.Relation
import OrderBookExchange.LadderWalk

/-!
# The matching loop ends, and its guards are never taken

The loop runs while the incoming order wants shares.  A resting order without
any gives it nothing, so what makes the loop end is that every turn either
takes its resting order off the book or fills the incoming one.  The turns
followed here are those of the loop itself; no bound on their number is built
into them.
-/

namespace OrderBookExchange

/-- The fill that takes all an order has. -/
def Order.wholeFill (order : Order) : RestingFill :=
  ⟨order.id, order.price, order.remainingQty.toNat⟩

namespace OrderBook

variable {book : OrderBook}

/-! ### The loop, one turn at a time -/

/-- One turn of the matching loop on a book with the trades so far; `none` if the
loop stops there. -/
def turn (clock : Clock) (incoming : Nat) (state : OrderBook × List Trade) :
    Option (OrderBook × List Trade) :=
  (state.1.nextMatch incoming).map fun resting =>
    let now := clock (2 + state.2.length)
    (state.1.afterMatch incoming resting now,
      state.2 ++ [(state.1.matchAt incoming resting now).trade])

/-- The loop gets from one state to another. -/
def Turns (clock : Clock) (incoming : Nat) :
    OrderBook × List Trade → OrderBook × List Trade → Prop :=
  Relation.ReflTransGen fun state next => turn clock incoming state = some next

/-- The book on which `remove_order` is called for a resting order that is
filled. -/
def beforeRemoval (book : OrderBook) (incoming resting now : Nat) : OrderBook :=
  let result := book.matchAt incoming resting now
  ((book.store incoming result.incoming).store resting result.resting).store resting
    { result.resting with status := .filled }

theorem IterationFrame.orderAt_none {next : OrderBook} {buy : Bool} {incoming resting id : Nat}
    {result : Match} (frame : IterationFrame book next buy incoming resting result)
    (linked : book.Linked) (live : incoming ∈ book.nodePtrs buy)
    (restingLive : resting ∈ book.nodePtrs (!buy)) (absent : book.orderAt id = none) :
    next.orderAt id = none := by
  have notResting : id ≠ (book.load resting).id := by
    intro same
    rw [same, linked.orderAt_of_mem restingLive] at absent
    cases absent
  have notIncoming : id ≠ (book.load incoming).id := by
    intro same
    rw [same, linked.orderAt_of_mem live] at absent
    cases absent
  rw [frame.orders, if_neg notResting, if_neg notIncoming, absent]

/-- Where the loop is: `whole` are the orders it has taken off the book, and
behind them only one more can have been traded with, by an order that is then
filled itself. -/
structure Matching (queue : List Order) (buy : Bool) (incoming : Nat)
    (state : OrderBook × List Trade) (whole : List Order) : Prop where
  linked : state.1.Linked
  shelved : state.1.Shelved
  live : incoming ∈ state.1.nodePtrs buy
  nonempty : ∀ level ∈ state.1.ladder (!buy), level.2 ≠ []
  gone : ∀ order ∈ whole, state.1.orderAt order.id = none
  progress :
    (state.2.map (Trade.fill buy) = whole.map Order.wholeFill ∧
        queue = whole ++ (state.1.ladder (!buy)).orders) ∨
      ((state.1.load incoming).remainingQty = 0 ∧ ∃ last rest fill,
        queue = whole ++ last :: rest ∧
          state.2.map (Trade.fill buy) = whole.map Order.wholeFill ++ [fill])

namespace Matching

variable {clock : Clock} {queue whole : List Order} {buy : Bool} {incoming : Nat}
  {state next : OrderBook × List Trade}

theorem nonempty_shelve {key : Price} {rest : List Order} {levels : Ladder}
    (nonempty : ∀ level ∈ levels, level.2 ≠ []) :
    ∀ level ∈ Ladder.shelve key rest levels, level.2 ≠ [] := by
  intro level member
  unfold Ladder.shelve at member
  split at member
  · exact nonempty level member
  · next remains =>
      rcases List.mem_cons.mp member with rfl | inLevels
      · exact remains
      · exact nonempty level inLevels

/-- A turn either takes one more order off the book or fills the incoming one. -/
theorem turn (matching : Matching queue buy incoming state whole)
    (turns : OrderBook.turn clock incoming state = some next) :
    ∃ more, Matching queue buy incoming next more := by
  obtain ⟨book, trades⟩ := state
  obtain ⟨linked, shelved, live, nonempty, gone, progress⟩ := matching
  dsimp only at linked shelved live nonempty gone progress
  obtain ⟨resting, selected, rfl⟩ := Option.map_eq_some_iff.mp turns
  obtain ⟨active, ⟨ptrs, best⟩, -⟩ := nextMatch_eq_some selected
  rw [linked.side_of_mem live] at best
  have restingLive := mem_nodePtrs_of_bestLevel best
  obtain ⟨key, levels, shape, front⟩ := ladder_of_bestLevel best
  have fits := shelved.fits (!buy) (key, resting :: ptrs) (by simp [shape]) resting
    List.mem_cons_self
  have walked := walkedTo_afterMatch linked shelved live restingLive (clock (2 + trades.length))
    fits front
  have frame := frame_afterMatch linked live restingLive (clock (2 + trades.length))
  have filledIff := (matchAt_quantity book incoming resting (clock (2 + trades.length))).2
  have stillGone : ∀ order ∈ whole, (book.afterMatch incoming resting
      (clock (2 + trades.length))).orderAt order.id = none :=
    fun order member => frame.orderAt_none linked live restingLive (gone order member)
  rcases progress with ⟨fills, split⟩ | ⟨filled, -⟩
  · rw [front] at nonempty split
    have tailNonempty : ∀ level ∈ levels.map (Prod.map id (List.map book.load)), level.2 ≠ [] :=
      fun level member => nonempty level (List.mem_cons_of_mem _ member)
    by_cases takes : (book.load resting).remainingQty.toNat ≤
        (book.load incoming).remainingQty.toNat
    · rw [matchWalk, if_pos takes] at walked
      refine ⟨whole ++ [book.load resting], walked.linked, walked.shelved, walked.live, ?_, ?_,
        Or.inl ⟨?_, ?_⟩⟩
      · rw [walked.opposite]
        exact nonempty_shelve tailNonempty
      · intro order member
        rcases List.mem_append.mp member with earlier | isResting
        · exact stillGone order earlier
        · rw [List.mem_singleton.mp isResting, frame.orders, if_pos rfl,
            if_pos (filledIff.mpr takes)]
      · dsimp only
        rw [List.map_append, List.map_append, fills, walked.fills]
        rfl
      · dsimp only
        rw [walked.opposite, Ladder.orders_shelve, split, List.append_assoc]
        rfl
    · rw [matchWalk, if_neg takes] at walked
      refine ⟨whole, walked.linked, walked.shelved, walked.live, ?_, stillGone, Or.inr ⟨?_, ?_⟩⟩
      · intro level member
        rw [walked.opposite] at member
        rcases List.mem_cons.mp member with rfl | inLevels
        · exact List.cons_ne_nil _ _
        · exact tailNonempty level inLevels
      · dsimp only
        rw [walked.incomingEq]
        rfl
      · refine ⟨_, _, (book.matchAt incoming resting (clock (2 + trades.length))).trade.fill buy,
          split, ?_⟩
        dsimp only
        rw [List.map_append, fills]
        rfl
  · exact absurd filled active

theorem turns (matching : Matching queue buy incoming state whole)
    (reached : Turns clock incoming state next) : ∃ more, Matching queue buy incoming next more := by
  induction reached with
  | refl => exact ⟨whole, matching⟩
  | tail _ last induction =>
      obtain ⟨more, reached⟩ := induction
      exact reached.turn last

theorem bestLevel_ne (matching : Matching queue buy incoming state whole) :
    state.1.bestLevel (!buy) ≠ some [] := by
  intro best
  have nonempty := matching.nonempty
  rw [ladder_eq_map] at nonempty
  unfold bestLevel at best
  split at best
  · cases best
  · next key level levels shape =>
      obtain rfl := Option.some.inj best
      rw [shape] at nonempty
      exact nonempty (key, []) List.mem_cons_self rfl

theorem found (matching : Matching queue buy incoming state whole) {resting now : Nat}
    (selected : state.1.nextMatch incoming = some resting)
    (filled : (state.1.matchAt incoming resting now).resting.isFilled = true) :
    let removal := state.1.beforeRemoval incoming resting now
    state.1.afterMatch incoming resting now = removal.removeOrder resting ∧
      removal.orderLookup.lookup (removal.load resting).id ≠ none := by
  intro removal
  obtain ⟨-, ⟨ptrs, best⟩, -⟩ := nextMatch_eq_some selected
  rw [matching.linked.side_of_mem matching.live] at best
  obtain ⟨location, indexed, -⟩ :=
    matching.linked.placed (!buy) resting (mem_nodePtrs_of_bestLevel best)
  have sameIndex : removal.orderLookup = state.1.orderLookup := rfl
  have loaded : removal.load resting =
      { (state.1.matchAt incoming resting now).resting with status := .filled } :=
    load_store_self _ _ _
  have sameId : (removal.load resting).id = (state.1.load resting).id := by
    rw [loaded]
    rfl
  refine ⟨if_pos filled, ?_⟩
  rw [sameIndex, sameId, indexed]
  exact Option.some_ne_none location

theorem length_le (matching : Matching queue buy incoming state whole) :
    state.2.length ≤ queue.length := by
  rw [← List.length_map (Trade.fill buy)]
  rcases matching.progress with ⟨fills, split⟩ | ⟨-, last, rest, fill, split, fills⟩
  · rw [fills, split]
    simp
  · rw [fills, split]
    simp

/-- Every trade but the last takes a whole order, which is then gone. -/
theorem removed (matching : Matching queue buy incoming state whole) {trade : Trade}
    (notLast : trade ∈ state.2.dropLast) :
    ∃ order ∈ queue, trade.fill buy = order.wholeFill ∧ state.1.orderAt order.id = none := by
  have fillMem : trade.fill buy ∈ (state.2.map (Trade.fill buy)).dropLast := by
    rw [← List.map_dropLast]
    exact List.mem_map_of_mem notLast
  have wholeMem : trade.fill buy ∈ whole.map Order.wholeFill := by
    rcases matching.progress with ⟨fills, -⟩ | ⟨-, last, rest, fill, -, fills⟩
    · rw [fills] at fillMem
      exact List.mem_of_mem_dropLast fillMem
    · rw [fills, List.dropLast_concat] at fillMem
      exact fillMem
  obtain ⟨order, member, fillEq⟩ := List.mem_map.mp wholeMem
  refine ⟨order, ?_, fillEq.symm, matching.gone order member⟩
  rcases matching.progress with ⟨-, split⟩ | ⟨-, last, rest, fill, split, -⟩
  · rw [split]
    exact List.mem_append_left _ member
  · rw [split]
    exact List.mem_append_left _ member

end Matching

/-- The loop with fuel takes turns, and stops before the fuel is used up unless
each unit of it has made a trade. -/
theorem matchLoop_turns (clock : Clock) (incoming fuel : Nat) (book : OrderBook)
    (trades : List Trade) :
    Turns clock incoming (book, trades) (matchLoop clock incoming fuel book trades) ∧
      (turn clock incoming (matchLoop clock incoming fuel book trades) = none ∨
        (matchLoop clock incoming fuel book trades).2.length = trades.length + fuel) := by
  induction fuel generalizing book trades with
  | zero => exact ⟨.refl, Or.inr rfl⟩
  | succ fuel induction =>
      rw [matchLoop_succ]
      cases selected : book.nextMatch incoming with
      | none =>
          refine ⟨.refl, Or.inl ?_⟩
          rw [turn, selected]
          rfl
      | some resting =>
          dsimp only
          obtain ⟨reached, stops⟩ := induction
            (book.afterMatch incoming resting (clock (2 + trades.length)))
            (trades ++ [(book.matchAt incoming resting (clock (2 + trades.length))).trade])
          have first : turn clock incoming (book, trades) = some
              (book.afterMatch incoming resting (clock (2 + trades.length)),
                trades ++ [(book.matchAt incoming resting (clock (2 + trades.length))).trade]) := by
            rw [turn, selected]
            rfl
          refine ⟨Relation.ReflTransGen.head first reached, stops.imp_right ?_⟩
          intro exhausted
          rw [exhausted, List.length_append, List.length_singleton]
          omega

/-- On a valid book the matching of an order just added comes to an end after at
most one trade for each order opposite, every trade but the last removes its
resting order, and the loop never meets an empty level or an order that is
missing from the index. -/
theorem match_order_terminates (valid : book.Valid) (clock : Clock) (side : Side)
    (type : OrderType) (price : Price) (quantity : Quantity) :
    let added := book.addOrder side type price quantity (clock 1)
    (∀ state, Turns clock added.2 (added.1, []) state →
      state.1.bestLevel (!side.isBuy) ≠ some [] ∧
        (∀ resting now, state.1.nextMatch added.2 = some resting →
          (state.1.matchAt added.2 resting now).resting.isFilled = true →
            let removal := state.1.beforeRemoval added.2 resting now
            state.1.afterMatch added.2 resting now = removal.removeOrder resting ∧
              removal.orderLookup.lookup (removal.load resting).id ≠ none) ∧
        state.2.length ≤ (book.queue (!side.isBuy)).length ∧
        ∀ trade ∈ state.2.dropLast, ∃ order ∈ book.queue (!side.isBuy),
          trade.fill side.isBuy = order.wholeFill ∧ state.1.orderAt order.id = none) ∧
      ∃ final, Turns clock added.2 (added.1, []) final ∧ turn clock added.2 final = none ∧
        added.1.matchOrder clock added.2 =
          (final.1.store added.2 { final.1.load added.2 with
            status := matchedStatus (final.1.load added.2) }, final.2) := by
  intro added
  have linked := valid.linked
  have shelved := valid.shelved
  have live : added.2 ∈ added.1.nodePtrs side.isBuy :=
    (mem_nodePtrs_addOrder side type price quantity (clock 1)).mpr (Or.inr ⟨rfl, rfl⟩)
  have addedLinked : added.1.Linked := linked.addOrder side type price quantity (clock 1)
  have opposite : added.1.ladder (!side.isBuy) = book.ladder (!side.isBuy) := by
    rw [ladder_addOrder linked, if_neg (by simp)]
  have ordersEq : (book.ladder (!side.isBuy)).orders = book.queue (!side.isBuy) := by
    rw [orders_ladder, queue_eq_map]
  have start : Matching (book.queue (!side.isBuy)) side.isBuy added.2 (added.1, []) [] := by
    refine ⟨addedLinked, shelved.addOrder linked side type price quantity (clock 1), live, ?_, ?_,
      Or.inl ⟨rfl, ?_⟩⟩
    · rw [opposite, ladder_eq_map]
      intro level member
      obtain ⟨ptrs, ptrsMem, rfl⟩ := List.mem_map.mp member
      simpa using valid.nonempty (!side.isBuy) ptrs ptrsMem
    · simp
    · rw [opposite, ordersEq, List.nil_append]
  refine ⟨?_, ?_⟩
  · intro state reached
    obtain ⟨whole, matching⟩ := start.turns reached
    exact ⟨matching.bestLevel_ne, fun resting now selected filled => matching.found selected filled,
      matching.length_le, fun trade notLast => matching.removed notLast⟩
  · obtain ⟨reached, stops⟩ := matchLoop_turns clock added.2
      (added.1.nodeCount (!(added.1.load added.2).side.isBuy) + 1) added.1 []
    refine ⟨_, reached, ?_, rfl⟩
    -- with fuel for one more trade than there are orders, the loop has stopped
    rcases stops with stopped | exhausted
    · exact stopped
    · obtain ⟨whole, matching⟩ := start.turns reached
      have atMost := matching.length_le
      have sameQueue : added.1.queue (!side.isBuy) = book.queue (!side.isBuy) := by
        rw [queue_eq_map, ← orders_ladder, opposite, ordersEq]
      rw [exhausted, addedLinked.side_of_mem live, nodeCount_eq, sameQueue] at atMost
      simp at atMost

/-- Two offers, the first without shares, and a bid above both. -/
def crossedBook : OrderBook :=
  let first := ((new [65] 4).addOrder .sell .limit (.finite 100) 0 0).1
  let second := (first.addOrder .sell .limit (.finite 101) 5 0).1
  (second.addOrder .buy .limit (.finite 105) 3 0).1

theorem crossedBook_valid : crossedBook.Valid :=
  (((valid_new [65] 4).addOrder .sell .limit 0 0 (by simp)).addOrder .sell .limit 5 0
    (by simp)).addOrder .buy .limit 3 0 (by simp)

/-- A bid for four shares takes the empty offer away and trades with the other. -/
theorem match_order_terminates_crossed :
    let added := crossedBook.addOrder .buy .limit (.finite 102) 4 0
    (added.1.matchOrder (fun _ => 0) added.2).2.map (Trade.fill true) =
        [⟨1, .finite 100, 0⟩, ⟨2, .finite 101, 4⟩] ∧
      ∃ final, Turns (fun _ => 0) added.2 (added.1, []) final ∧
        turn (fun _ => 0) added.2 final = none ∧
        (added.1.matchOrder (fun _ => 0) added.2).2 = final.2 := by
  intro added
  obtain ⟨final, reached, stops, result⟩ :=
    (match_order_terminates crossedBook_valid (fun _ => 0) .buy .limit (.finite 102) 4).2
  refine ⟨by decide +kernel, final, reached, stops, ?_⟩
  exact (congrArg Prod.snd result :)

end OrderBook

end OrderBookExchange
