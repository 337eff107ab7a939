import OrderBookExchange.LadderWalk

/-!
# An aggressive order in two parts

A market or IOC order takes from the opposite side and leaves nothing behind on
its own.  Sending it in two parts takes the same from every resting order and
leaves the same ladders: the second part goes on where the first one stopped,
be it inside a resting order, between two orders or where nothing is in reach.
-/

namespace OrderBookExchange

/-- What a resting order was filled for at a price. -/
def filledAt (orderId : Nat) (price : Price) (fills : List RestingFill) : Nat :=
  ((fills.filter fun fill => fill.restingId = orderId ∧ fill.price = price).map
    RestingFill.quantity).sum

@[simp]
theorem filledAt_nil (orderId : Nat) (price : Price) : filledAt orderId price [] = 0 :=
  rfl

theorem filledAt_append (orderId : Nat) (price : Price) (first second : List RestingFill) :
    filledAt orderId price (first ++ second) =
      filledAt orderId price first + filledAt orderId price second := by
  rw [filledAt, List.filter_append, List.map_append, List.sum_append, filledAt, filledAt]

theorem filledAt_cons (orderId : Nat) (price : Price) (fill : RestingFill) (fills : List RestingFill) :
    filledAt orderId price (fill :: fills) =
      (if fill.restingId = orderId ∧ fill.price = price then fill.quantity else 0) +
        filledAt orderId price fills := by
  unfold filledAt
  rw [List.filter_cons]
  by_cases own : fill.restingId = orderId ∧ fill.price = price
  · simp [own]
  · simp [own]

theorem Ladder.walk_add (reach : Price → Bool) (first second : Nat) (ladder : Ladder) :
    ((ladder.walk reach first).ladder.walk reach second).ladder =
        (ladder.walk reach (first + second)).ladder ∧
      ∀ orderId price,
        filledAt orderId price (ladder.walk reach first).fills +
            filledAt orderId price ((ladder.walk reach first).ladder.walk reach second).fills =
          filledAt orderId price (ladder.walk reach (first + second)).fills := by
  induction ladder using front_induction generalizing first with
  | bare ladder bare =>
      rw [walk_of_bare bare, walk_of_bare bare]
      exact ⟨by rw [walk_of_bare bare], fun _ _ => by rw [walk_of_bare bare]; rfl⟩
  | front key order rest levels ih =>
      by_cases none : first = 0
      · rw [none, walk_zero, Nat.zero_add]
        exact ⟨rfl, fun _ _ => Nat.zero_add _⟩
      by_cases inReach : reach order.price = true
      swap
      · have stop := Bool.eq_false_of_not_eq_true inReach
        rw [walk_stop (Or.inr stop), walk_stop (Or.inr stop)]
        exact ⟨by rw [walk_stop (Or.inr stop)], fun _ _ => by rw [walk_stop (Or.inr stop)]; rfl⟩
      by_cases firstTakes : order.remainingQty.toNat ≤ first
      · obtain ⟨sameLadder, sameFills⟩ := ih (first - order.remainingQty.toNat)
        have leftEq : first + second - order.remainingQty.toNat =
            first - order.remainingQty.toNat + second := by omega
        rw [walk_take none inReach firstTakes,
          walk_take (by omega) inReach (by omega : order.remainingQty.toNat ≤ first + second),
          leftEq]
        refine ⟨sameLadder, ?_⟩
        intro orderId price
        rw [filledAt_cons, filledAt_cons, Nat.add_assoc, sameFills]
      -- the first part ends inside the order, the second goes on from there
      · rw [walk_part none inReach (by omega)]
        dsimp only
        by_cases nothing : second = 0
        · rw [nothing, walk_zero, Nat.add_zero, walk_part none inReach (by omega)]
          exact ⟨rfl, fun _ _ => Nat.add_zero _⟩
        obtain ⟨shrunk, shrunkEq⟩ : ∃ shrunk : Order, shrunk =
          { order with remainingQty := order.remainingQty - UInt32.ofNat first } := ⟨_, rfl⟩
        have shrunkReach : reach shrunk.price = true := by rw [shrunkEq]; exact inReach
        have shrunkQty : shrunk.remainingQty.toNat = order.remainingQty.toNat - first := by
          rw [shrunkEq]
          exact toNat_sub_ofNat (by omega)
        rw [← shrunkEq]
        by_cases bothTake : order.remainingQty.toNat ≤ first + second
        · have leftEq : second - (order.remainingQty.toNat - first) =
              first + second - order.remainingQty.toNat := by omega
          rw [walk_take nothing shrunkReach (by rw [shrunkQty]; omega),
            walk_take (by omega) inReach bothTake, shrunkQty, leftEq]
          refine ⟨rfl, ?_⟩
          intro orderId price
          rw [filledAt_cons, filledAt_cons, filledAt_cons, filledAt_nil, shrunkEq]
          dsimp only
          split
          · omega
          · omega
        · have twice : order.remainingQty - UInt32.ofNat first - UInt32.ofNat second =
              order.remainingQty - UInt32.ofNat (first + second) := by
            rw [UInt32.ofNat_add]
            grind
          rw [walk_part nothing shrunkReach (by rw [shrunkQty]; omega),
            walk_part (by omega) inReach (by omega), shrunkEq]
          dsimp only
          rw [twice]
          refine ⟨rfl, ?_⟩
          intro orderId price
          rw [filledAt_cons, filledAt_cons, filledAt_cons, filledAt_nil]
          dsimp only
          split
          · omega
          · omega

namespace OrderBook

variable {book : OrderBook} {type : OrderType} {price : Price} {first second : Quantity}

/-- What the two parts leave, and what they take together. -/
theorem acceptOrder_split (side : Side) (linked : book.Linked) (shelved : book.Shelved)
    (immediate : type = .market ∨ type = .ioc) (priceNum : price ≠ .nan)
    (fits : first.toNat + second.toNat < 2 ^ 32) (clock firstClock secondClock : Clock) :
    let once := book.acceptOrder clock side type price (first + second)
    let part := book.acceptOrder firstClock side type price first
    let twice := part.1.acceptOrder secondClock side type price second
    (∀ buy, twice.1.ladder buy = once.1.ladder buy) ∧
      twice.1.contents.index = once.1.contents.index ∧
      ∀ orderId atPrice,
        filledAt orderId atPrice ((part.2.2 ++ twice.2.2).map (Trade.fill side.isBuy)) =
          filledAt orderId atPrice (once.2.2.map (Trade.fill side.isBuy)) := by
  intro once part twice
  have quantityEq : (first + second).toNat = first.toNat + second.toNat := by
    rw [UInt32.toNat_add, Nat.mod_eq_of_lt fits]
  obtain ⟨onceLinked, onceShelved, onceFills, onceOpposite⟩ :=
    acceptOrder_walked clock side type price (first + second) linked shelved
  obtain ⟨partLinked, partShelved, partFills, partOpposite⟩ :=
    acceptOrder_walked firstClock side type price first linked shelved
  obtain ⟨twiceLinked, twiceShelved, twiceFills, twiceOpposite⟩ :=
    acceptOrder_walked secondClock side type price second partLinked partShelved
  obtain ⟨sameLadder, sameFills⟩ := Ladder.walk_add (reaches side.isBuy price) first.toNat
    second.toNat (book.ladder (!side.isBuy))
  rw [walked, quantityEq] at onceOpposite onceFills
  rw [walked] at partOpposite partFills
  rw [walked, partOpposite] at twiceOpposite twiceFills
  have lined : SortedMap.Lined (· ≠ Double.nan) (better side.isBuy) (book.ladder side.isBuy) :=
    (shelved.lined side.isBuy).map (List.map book.load)
  have ladders : ∀ buy, twice.1.ladder buy = once.1.ladder buy := by
    intro buy
    by_cases own : buy = side.isBuy
    · rw [own, ladder_acceptOrder_own secondClock side type price second partLinked partShelved
          immediate,
        ladder_acceptOrder_own firstClock side type price first linked shelved immediate,
        ladder_acceptOrder_own clock side type price (first + second) linked shelved immediate,
        lined.cleanup_cleanup (better_strictOn side.isBuy) priceNum]
    · rw [Bool.eq_not_of_ne own]
      exact twiceOpposite.trans (sameLadder.trans onceOpposite.symm)
  refine ⟨ladders, index_congr onceLinked onceShelved twiceLinked twiceShelved ladders, ?_⟩
  intro orderId atPrice
  rw [List.map_append, filledAt_append, partFills, twiceFills, onceFills, sameFills]

end OrderBook

namespace MatchingEngine

/-- Submitting a market or IOC order in two parts leaves the book as submitting
it at once does, and fills every resting order for the same quantity at the same
price. -/
theorem split_aggressor (ops : List EngineOp) (clock firstClock secondClock : Clock)
    (symbol : Symbol) (side : Side) {type : OrderType}
    (immediate : type = .market ∨ type = .ioc) {price : Price} (finite : price.isFinite = true)
    {first second : Quantity} (firstPositive : 0 < first) (secondPositive : 0 < second)
    (fits : first.toNat + second.toNat < 2 ^ 32) :
    let engine := (Transition.run step .new ops).1
    let once := engine.submitOrder clock symbol side type price (first + second)
    let part := engine.submitOrder firstClock symbol side type price first
    let twice := part.1.submitOrder secondClock symbol side type price second
    (∀ buy, (twice.1.book symbol).contents.levels buy =
        (once.1.book symbol).contents.levels buy) ∧
      (twice.1.book symbol).contents.index = (once.1.book symbol).contents.index ∧
      (∀ other, other ≠ symbol → twice.1.book other = once.1.book other) ∧
      ∀ orderId atPrice,
        filledAt orderId atPrice ((part.2.2 ++ twice.2.2).map (Trade.fill side.isBuy)) =
          filledAt orderId atPrice (once.2.2.map (Trade.fill side.isBuy)) := by
  intro engine once part twice
  have accepted : ∀ {quantity : Quantity}, 0 < quantity → ¬rejects type price quantity = true := by
    intro quantity positive
    have nonzero : quantity ≠ 0 := by
      rintro rfl
      exact absurd positive (by decide)
    rcases immediate with rfl | rfl
    · simp [rejects, nonzero]
    · simp [rejects, nonzero]
  have wholePositive : 0 < first + second := by
    rw [UInt32.lt_iff_toNat_lt] at firstPositive ⊢
    rw [UInt32.toNat_add, Nat.mod_eq_of_lt fits]
    exact Nat.lt_add_right second.toNat firstPositive
  have onceBook := fun other => book_submitOrder_accepted engine clock symbol other side
    (accepted wholePositive)
  have partBook := fun other => book_submitOrder_accepted engine firstClock symbol other side
    (accepted firstPositive)
  have twiceBook := fun other => book_submitOrder_accepted part.1 secondClock symbol other side
    (accepted secondPositive)
  have onceResult := submitOrder_result engine clock symbol side (accepted wholePositive)
  have partResult := submitOrder_result engine firstClock symbol side (accepted firstPositive)
  have twiceResult := submitOrder_result part.1 secondClock symbol side (accepted secondPositive)
  have partOwn := (partBook symbol).trans (if_pos rfl)
  have twiceOwn := (twiceBook symbol).trans (if_pos rfl)
  rw [partOwn] at twiceOwn twiceResult
  obtain ⟨linked, -⟩ := linked_new.run ops symbol
  obtain ⟨ladders, index, fills⟩ := OrderBook.acceptOrder_split side linked
    (shelved_run ops symbol) immediate
    (effectivePrice_num side (Or.inr (Double.ne_nan_of_isFinite finite))) fits clock firstClock
    secondClock
  refine ⟨?_, ?_, ?_, ?_⟩
  · intro buy
    rw [twiceOwn, (onceBook symbol).trans (if_pos rfl)]
    exact ladders buy
  · rw [twiceOwn, (onceBook symbol).trans (if_pos rfl)]
    exact index
  · intro other different
    rw [twiceBook, if_neg different, partBook, if_neg different, onceBook, if_neg different]
  · intro orderId atPrice
    rw [partResult, twiceResult, onceResult]
    exact fills orderId atPrice

/-- Nine shares bid for in two parts against offers of four and six: the first
part ends inside the second offer. -/
theorem split_aggressor_five_and_four :
    let engine := (Transition.run step .new
      [.submit (fun _ => 0) [65] .sell .limit (.finite 100) 4,
        .submit (fun _ => 0) [65] .sell .limit (.finite 101) 6]).1
    let once := engine.submitOrder (fun _ => 0) [65] .buy .ioc (.finite 101) (5 + 4)
    let part := engine.submitOrder (fun _ => 0) [65] .buy .ioc (.finite 101) 5
    let twice := part.1.submitOrder (fun _ => 0) [65] .buy .ioc (.finite 101) 4
    filledAt 2 (.finite 101) (part.2.2.map (Trade.fill true)) = 1 ∧
      filledAt 2 (.finite 101) ((part.2.2 ++ twice.2.2).map (Trade.fill true)) = 5 ∧
      (twice.1.book [65]).contents.levels false = (once.1.book [65]).contents.levels false ∧
      filledAt 2 (.finite 101) ((part.2.2 ++ twice.2.2).map (Trade.fill true)) =
        filledAt 2 (.finite 101) (once.2.2.map (Trade.fill true)) := by
  have equal := split_aggressor
    [.submit (fun _ => 0) [65] .sell .limit (.finite 100) 4,
      .submit (fun _ => 0) [65] .sell .limit (.finite 101) 6] (fun _ => 0) (fun _ => 0)
    (fun _ => 0) [65] .buy (Or.inr rfl) (by decide +kernel : (Double.finite 101).isFinite = true)
    (by decide : (0 : Quantity) < 5) (by decide : (0 : Quantity) < 4) (by decide)
  exact ⟨by decide +kernel, by decide +kernel, equal.1 false, equal.2.2.2 2 (.finite 101)⟩

end MatchingEngine

end OrderBookExchange
