import OrderBookExchange.LadderWalk

/-!
# The quantity totals of a book

The totals of a side are summed in the 32 bits of a single quantity.  They are
the shares resting on that side as long as those fit, and what a submission
takes off a side is what it trades.
-/

namespace OrderBookExchange

namespace OrderBook

/-- The shares resting on a side. -/
def restingShares (book : OrderBook) (buy : Bool) : Nat :=
  ((book.queue buy).map fun order => order.remainingQty.toNat).sum

theorem restingShares_eq_shares (book : OrderBook) (buy : Bool) :
    book.restingShares buy = (book.ladder buy).shares := by
  rw [restingShares, queue_eq_map, Ladder.shares, orders_ladder]

theorem toNat_foldl_add (load : Nat → Order) (ptrs : List Nat) (total : Quantity) :
    (ptrs.foldl (fun total ptr => total + (load ptr).remainingQty) total).toNat =
      (total.toNat + ((ptrs.map load).map fun order => order.remainingQty.toNat).sum) % 2 ^ 32 := by
  induction ptrs generalizing total with
  | nil =>
      rw [List.map_nil, List.map_nil, List.sum_nil, Nat.add_zero]
      exact (Nat.mod_eq_of_lt total.toNat_lt).symm
  | cons ptr ptrs induction =>
      rw [List.foldl_cons, induction, UInt32.toNat_add, List.map_cons, List.map_cons,
        List.sum_cons, Nat.mod_add_mod, Nat.add_assoc]

theorem toNat_totalQuantity (book : OrderBook) (buy : Bool) :
    (book.totalQuantity buy).toNat = book.restingShares buy % 2 ^ 32 := by
  have flattened : book.totalQuantity buy =
      (book.nodePtrs buy).foldl (fun total ptr => total + (book.load ptr).remainingQty) 0 := by
    rw [totalQuantity, nodePtrs, List.foldl_flatMap]
  rw [flattened, toNat_foldl_add, restingShares, queue_eq_map]
  simp

theorem totalQuantity_exact_iff (book : OrderBook) (buy : Bool) :
    (book.totalQuantity buy).toNat = book.restingShares buy ↔ book.restingShares buy < 2 ^ 32 := by
  rw [toNat_totalQuantity]
  constructor
  · intro exact
    rw [← exact]
    exact Nat.mod_lt _ (by decide)
  · exact Nat.mod_eq_of_lt

theorem restingShares_acceptOrder {book : OrderBook} (linked : book.Linked)
    (shelved : book.Shelved) (clock : Clock) (side : Side) (type : OrderType) (price : Price)
    (quantity : Quantity) :
    (book.acceptOrder clock side type price quantity).1.restingShares (!side.isBuy) +
        ((book.acceptOrder clock side type price quantity).2.2.map
          fun trade => trade.quantity.toNat).sum =
      book.restingShares (!side.isBuy) := by
  obtain ⟨-, -, fills, opposite⟩ :=
    acceptOrder_walked clock side type price quantity linked shelved
  have volume : (book.acceptOrder clock side type price quantity).2.2.map
      (fun trade => trade.quantity.toNat) =
        (book.walked side price quantity).fills.map RestingFill.quantity := by
    rw [← fills, List.map_map]
    rfl
  rw [volume, restingShares_eq_shares, restingShares_eq_shares, opposite]
  exact Ladder.walk_shares _ _ _

end OrderBook

namespace MatchingEngine

/-- The volume of a list of trades. -/
def volume (trades : List Trade) : Nat :=
  (trades.map fun trade => trade.quantity.toNat).sum

/-- What is true of the quantity totals of a book: they are the shares that rest
there, and a submission lowers the opposite one by what it trades. -/
structure ExactTotals (engine : MatchingEngine) (symbol : Symbol) : Prop where
  bids : (engine.book symbol).totalBidQuantity.toNat = (engine.book symbol).restingShares true
  asks : (engine.book symbol).totalAskQuantity.toNat = (engine.book symbol).restingShares false
  lowered : ∀ clock side type price quantity,
    let result := engine.submitOrder clock symbol side type price quantity
    result.2.2 ≠ [] →
      ((engine.book symbol).totalQuantity (!side.isBuy)).toNat =
        ((result.1.book symbol).totalQuantity (!side.isBuy)).toNat + volume result.2.2

/-- After any run the quantity totals of a book are exact, and are lowered by
what is traded, if and only if the shares on each side fit the 32 bits. -/
theorem exactTotals_iff (ops : List EngineOp) (symbol : Symbol) :
    (Transition.run step .new ops).1.ExactTotals symbol ↔
      ∀ buy, ((Transition.run step .new ops).1.book symbol).restingShares buy < 2 ^ 32 := by
  generalize engineEq : (Transition.run step .new ops).1 = engine
  have linked : (engine.book symbol).Linked := engineEq ▸ (linked_new.run ops symbol).1
  have shelved : (engine.book symbol).Shelved := engineEq ▸ shelved_run ops symbol
  constructor
  · intro totals buy
    rw [← OrderBook.totalQuantity_exact_iff]
    cases buy
    · exact totals.asks
    · exact totals.bids
  · intro fits
    refine ⟨(OrderBook.totalQuantity_exact_iff _ true).mpr (fits true),
      (OrderBook.totalQuantity_exact_iff _ false).mpr (fits false), ?_⟩
    intro clock side type price quantity result traded
    have accepted : ¬rejects type price quantity = true := by
      intro rejected
      apply traded
      simp [result, submitOrder, rejected]
    have bookEq : result.1.book symbol = ((engine.book symbol).acceptOrder clock side type
        (effectivePrice side type price) quantity).1 := by
      rw [book_submitOrder_accepted engine clock symbol symbol side accepted, if_pos rfl]
    have tradesEq : result.2.2 = ((engine.book symbol).acceptOrder clock side type
        (effectivePrice side type price) quantity).2.2 :=
      congrArg Prod.snd (submitOrder_result engine clock symbol side accepted)
    have lost := OrderBook.restingShares_acceptOrder linked shelved clock side type
      (effectivePrice side type price) quantity
    rw [← bookEq, ← tradesEq] at lost
    have before := fits (!side.isBuy)
    rw [(OrderBook.totalQuantity_exact_iff _ _).mpr before,
      (OrderBook.totalQuantity_exact_iff _ _).mpr (by omega), volume, lost]

/-- Two offers of 2^32 shares together: the total is zero, and buying one share
raises it. -/
theorem total_ask_wraps :
    let engine := (Transition.run step .new
      [.submit (fun _ => 0) [65] .sell .limit (.finite 100) 4294967295,
        .submit (fun _ => 0) [65] .sell .limit (.finite 101) 1]).1
    let result := engine.submitOrder (fun _ => 0) [65] .buy .limit (.finite 100) 1
    (engine.book [65]).restingShares false = 2 ^ 32 ∧
      (engine.book [65]).totalAskQuantity = 0 ∧ volume result.2.2 = 1 ∧
      (result.1.book [65]).totalAskQuantity = 4294967295 := by
  decide +kernel

end MatchingEngine

end OrderBookExchange
