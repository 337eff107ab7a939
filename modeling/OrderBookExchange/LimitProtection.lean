import OrderBookExchange.MatchWalk
import OrderBookExchange.OrderFate

/-!
# Limit protection

Side, type and price of an order on the book are those of its submission, so
what matching reads off the book can be stated about the submissions.  The
older of the two orders of a trade is the resting one.  It is a limit order and
sets the price, and neither order trades beyond the price it was submitted with.
-/

namespace OrderBookExchange

namespace OrderBook

variable {book : OrderBook}

theorem reduceOrder_terms (linked : book.Linked) {orderId id : Nat} {newQuantity : Quantity}
    {order : Order} (found : (book.reduceOrder orderId newQuantity).1.orderAt id = some order) :
    ∃ older, book.orderAt id = some older ∧ older.SameTerms order := by
  obtain ⟨older, present, rewritten⟩ := orderAt_reduceOrder linked found
  refine ⟨older, present, ?_⟩
  rw [rewritten]
  exact ⟨rfl, rfl, rfl, rfl, rfl⟩

/-- An order on the book has the terms of a submission. -/
structure RecordedAs (submission : Submission) (order : Order) : Prop where
  id : submission.id = order.id
  side : submission.side = order.side
  type : submission.type = order.type
  price : submission.price = order.price
  rests : submission.type.Rests

theorem RecordedAs.sameTerms {submission : Submission} {older order : Order}
    (recorded : RecordedAs submission older) (terms : older.SameTerms order) :
    RecordedAs submission order where
  id := recorded.id.trans terms.id
  side := recorded.side.trans terms.side
  type := recorded.type.trans terms.type
  price := recorded.price.trans terms.price
  rests := recorded.rests

theorem effectivePrice_of_rests (side : Side) {type : OrderType} (price : Price)
    (rests : type.Rests) : effectivePrice side type price = price := by
  unfold effectivePrice
  exact if_neg fun market => rests (Or.inl market)

/-- After a call, an order on the book was there before it or has just been
submitted. -/
theorem step_terms (linked : book.Linked) (unfilled : book.Unfilled)
    (positive : book.nextOrderId ≠ 0) (op : EngineOp) {id : Nat} {order : Order}
    (found : (book.step op).1.orderAt id = some order) :
    (∃ older, book.orderAt id = some older ∧ older.SameTerms order) ∨
      ∃ submission, submissionOf (op, (book.step op).2) = some submission ∧
        RecordedAs submission order := by
  cases op with
  | submit clock symbol side type price quantity =>
      by_cases rejected : rejects type price quantity = true
      · rw [step_submit_of_rejects book clock symbol side rejected] at found
        exact Or.inl ⟨order, found, .refl order⟩
      · rw [step_submit_of_accepts book clock symbol side rejected] at found ⊢
        rcases acceptOrder_terms clock side type _ quantity linked unfilled found with
          old | ⟨terms, rests⟩
        · exact Or.inl old
        · right
          refine ⟨⟨symbol, book.nextOrderId, side, type, price, quantity⟩, ?_, ?_⟩
          · rw [submissionOf, if_neg positive]
          · refine ⟨terms.id, terms.side, terms.type, ?_, rests⟩
            rw [← terms.price]
            exact (effectivePrice_of_rests side price rests).symm
  | cancel symbol orderId =>
      left
      obtain ⟨-, -, -, -, orders⟩ := cancelOrder_conserved linked unfilled orderId
      rw [step_cancel, orders] at found
      split at found
      · simp at found
      · exact ⟨order, found, .refl order⟩
  | reduce symbol orderId newQuantity => exact Or.inl (reduceOrder_terms linked found)

/-- After a run, an order on the book was there before it or has been submitted
since. -/
theorem run_terms (linked : book.Linked) (unfilled : book.Unfilled)
    (positive : book.nextOrderId ≠ 0) (ops : List EngineOp) {id : Nat} {order : Order}
    (found : (Transition.run step book ops).1.orderAt id = some order) :
    (∃ older, book.orderAt id = some older ∧ older.SameTerms order) ∨
      ∃ submission ∈ submissions (Transition.history step book ops),
        RecordedAs submission order := by
  induction ops generalizing book with
  | nil => exact Or.inl ⟨order, found, .refl order⟩
  | cons op ops ih =>
      obtain ⟨nextLinked, nextUnfilled⟩ := linked_step linked unfilled op
      have grows := nextOrderId_le_step linked unfilled op
      rw [Transition.history_cons]
      rcases ih nextLinked nextUnfilled (by omega) found with
        ⟨middle, middleFound, laterTerms⟩ | ⟨submission, later, recorded⟩
      · rcases step_terms linked unfilled positive op middleFound with
          ⟨older, olderFound, earlierTerms⟩ | ⟨submission, now, recorded⟩
        · exact Or.inl ⟨older, olderFound, earlierTerms.trans laterTerms⟩
        · exact Or.inr ⟨submission, List.mem_filterMap.mpr ⟨_, List.mem_cons_self, now⟩,
            recorded.sameTerms laterTerms⟩
      · obtain ⟨entry, inLater, entryEq⟩ := List.mem_filterMap.mp later
        exact Or.inr ⟨submission,
          List.mem_filterMap.mpr ⟨entry, List.mem_cons_of_mem _ inLater, entryEq⟩, recorded⟩

end OrderBook

/-- The submission with the smaller identifier. -/
def older (first second : Submission) : Submission :=
  if first.id < second.id then first else second

/-- What a trade owes to the two submissions it is between. -/
structure Protects (trade : Trade) (buyer seller : Submission) : Prop where
  buyerId : buyer.id = trade.buyOrderId
  sellerId : seller.id = trade.sellOrderId
  different : buyer.id ≠ seller.id
  buys : buyer.side.isBuy = true
  sells : seller.side.isBuy = false
  olderPrice : trade.price = (older buyer seller).price
  olderRests : (older buyer seller).type.Rests
  buyerLimit : buyer.type ≠ .market → trade.price.le buyer.price = true
  sellerLimit : seller.type ≠ .market → seller.price.le trade.price = true

protected theorem Double.le_self_left {left right : Double} (holds : left.le right = true) :
    left.le left = true := by
  cases left <;> cases right <;> simp_all [Double.le]

protected theorem Double.le_self_right {left right : Double} (holds : left.le right = true) :
    right.le right = true := by
  cases left <;> cases right <;> simp_all [Double.le]

theorem protects_of_reach {incoming resting : Submission} {trade : Trade} {order : Order}
    (recorded : OrderBook.RecordedAs resting order)
    (opposite : order.side.isBuy = !incoming.side.isBuy)
    (earlier : order.id < incoming.id)
    (reached : inReach incoming.side
      (effectivePrice incoming.side incoming.type incoming.price) order = true)
    (priceEq : trade.price = order.price)
    (buyerEq : trade.buyOrderId = if incoming.side.isBuy then incoming.id else order.id)
    (sellerEq : trade.sellOrderId = if incoming.side.isBuy then order.id else incoming.id) :
    Protects trade (if incoming.side.isBuy then incoming else resting)
      (if incoming.side.isBuy then resting else incoming) := by
  have effective : incoming.type ≠ .market →
      effectivePrice incoming.side incoming.type incoming.price = incoming.price :=
    fun priced => if_neg priced
  rw [← recorded.side] at opposite
  rw [← recorded.id] at earlier buyerEq sellerEq
  rw [inReach, ← recorded.price] at reached
  rw [← recorded.price] at priceEq
  cases buying : incoming.side.isBuy with
  | true =>
      simp only [buying, if_true, Bool.not_true] at opposite reached buyerEq sellerEq ⊢
      have olderEq : older incoming resting = resting := if_neg earlier.le.not_gt
      constructor
      case buyerId => exact buyerEq.symm
      case sellerId => exact sellerEq.symm
      case different => exact earlier.ne'
      case buys => exact buying
      case sells => exact opposite
      case olderPrice => rw [olderEq, priceEq]
      case olderRests => rw [olderEq]; exact recorded.rests
      case buyerLimit =>
        intro priced
        rw [priceEq, ← effective priced]
        exact reached
      case sellerLimit =>
        intro _
        rw [priceEq]
        exact Double.le_self_left reached
  | false =>
      simp only [buying, Bool.false_eq_true, if_false, Bool.not_false]
        at opposite reached buyerEq sellerEq ⊢
      have olderEq : older resting incoming = resting := if_pos earlier
      constructor
      case buyerId => exact buyerEq.symm
      case sellerId => exact sellerEq.symm
      case different => exact earlier.ne
      case buys => exact opposite
      case sells => exact buying
      case olderPrice => rw [olderEq, priceEq]
      case olderRests => rw [olderEq]; exact recorded.rests
      case buyerLimit =>
        intro _
        rw [priceEq]
        exact Double.le_self_right reached
      case sellerLimit =>
        intro priced
        rw [priceEq, ← effective priced]
        exact reached

/-- Every trade of a book is between two submissions and protects both. -/
theorem OrderBook.run_protects (symbol : Symbol) (poolSize : Nat) {ops : List EngineOp}
    {entry : EngineOp × EngineOutput}
    (member : entry ∈ Transition.history step (new symbol poolSize) ops) {trade : Trade}
    (traded : trade ∈ entry.2.trades) :
    ∃ buyer ∈ submissions (Transition.history step (new symbol poolSize) ops),
      ∃ seller ∈ submissions (Transition.history step (new symbol poolSize) ops),
        Protects trade buyer seller := by
  obtain ⟨op, output⟩ := entry
  obtain ⟨before, after, rfl, outputEq⟩ := Transition.exists_of_mem_history member
  dsimp only at outputEq traded
  obtain ⟨linked, unfilled⟩ := linked_run_new symbol poolSize before
  have positive := nextOrderId_run_ne_zero symbol poolSize before
  have earlier : ∀ {submission},
      submission ∈ submissions (Transition.history step (new symbol poolSize) before) →
        submission ∈ submissions
          (Transition.history step (new symbol poolSize) (before ++ op :: after)) := by
    intro submission inBefore
    rw [Transition.history_append, submissions, List.filterMap_append]
    exact List.mem_append_left _ inBefore
  rw [outputEq] at traded
  have accepted := accepted_of_traded traded
  cases op with
  | cancel named orderId => exact accepted.elim
  | reduce named orderId newQuantity => exact accepted.elim
  | submit clock named side type price quantity =>
    have issues := submissionOf_submit positive clock named side accepted
    set incoming : Submission := ⟨named, _, side, type, price, quantity⟩
    have incomingMem : incoming ∈ submissions
        (Transition.history step (new symbol poolSize) (before ++ _ :: after)) :=
      List.mem_filterMap.mpr ⟨_, member, by rw [outputEq]; exact issues⟩
    rw [step_submit_of_accepts _ clock named side accepted] at traded
    obtain ⟨order, found, opposite, isOlder, reached, priceEq, buyerEq, sellerEq⟩ :=
      acceptOrder_trade_terms clock side type _ quantity linked unfilled traded
    rcases run_terms (linked_new symbol poolSize) (unfilled_new symbol poolSize) one_ne_zero
        before found with ⟨_, absent, -⟩ | ⟨resting, restingMem, recorded⟩
    · simp at absent
    · have protects : Protects trade (if incoming.side.isBuy then incoming else resting)
          (if incoming.side.isBuy then resting else incoming) :=
        protects_of_reach recorded opposite isOlder reached priceEq buyerEq sellerEq
      refine ⟨_, ?_, _, ?_, protects⟩
      · split
        · exact incomingMem
        · exact earlier restingMem
      · split
        · exact earlier restingMem
        · exact incomingMem

/-- Side and type of a submission are among the enumerators. -/
def EngineOp.Declared : EngineOp → Prop
  | .submit _ _ side type _ _ => side.Declared ∧ type.Declared
  | _ => True

instance EngineOp.decidableDeclared : (op : EngineOp) → Decidable op.Declared
  | .submit .. => inferInstanceAs (Decidable (_ ∧ _))
  | .cancel .. => .isTrue trivial
  | .reduce .. => .isTrue trivial

theorem declared_of_mem_submissions {ops : List EngineOp} (declared : ∀ op ∈ ops, op.Declared)
    {engine : MatchingEngine} {submission : Submission}
    (member : submission ∈ submissions (Transition.history MatchingEngine.step engine ops)) :
    submission.side.Declared ∧ submission.type.Declared := by
  obtain ⟨entry, inHistory, recorded⟩ := List.mem_filterMap.mp member
  obtain ⟨clock, opEq, -⟩ := submissionOf_eq_some recorded
  have allowed := declared entry.1 (List.of_mem_zip inHistory).1
  rw [opEq] at allowed
  exact allowed

/-- Every trade of a run is between two submissions of its symbol, which its
identifiers determine.  Its price is that of the older one, which is a limit
order; a limit or IOC order on either side gets the price it asked for or a
better one. -/
theorem MatchingEngine.limit_protection {ops : List EngineOp}
    (declared : ∀ op ∈ ops, op.Declared) :
    let history := Transition.history step .new ops
    (∀ first ∈ submissions history, ∀ second ∈ submissions history,
      first.symbol = second.symbol → first.id = second.id → first = second) ∧
      ∀ entry ∈ history, ∀ trade ∈ entry.2.trades,
        ∃ buyer ∈ submissions history, ∃ seller ∈ submissions history,
          (buyer.symbol = entry.1.symbol ∧ buyer.id = trade.buyOrderId ∧ buyer.side = .buy) ∧
            (seller.symbol = entry.1.symbol ∧ seller.id = trade.sellOrderId ∧
              seller.side = .sell) ∧
            buyer.id ≠ seller.id ∧ trade.price = (older buyer seller).price ∧
            (older buyer seller).type = .limit ∧
            (buyer.type = .limit ∨ buyer.type = .ioc →
              trade.price.le buyer.price = true) ∧
            (seller.type = .limit ∨ seller.type = .ioc →
              seller.price.le trade.price = true) := by
  intro history
  refine ⟨fun first firstMem second secondMem => submission_unique ops firstMem secondMem, ?_⟩
  intro entry member trade traded
  have onSymbol : entry ∈ historyOn entry.1.symbol history :=
    List.mem_filter.mpr ⟨member, by simp⟩
  rw [historyOn_new] at onSymbol
  obtain ⟨buyer, buyerMem, seller, sellerMem, protects⟩ :=
    OrderBook.run_protects _ _ onSymbol traded
  rw [← historyOn_new, mem_submissions_historyOn] at buyerMem sellerMem
  obtain ⟨buyerSide, buyerType⟩ := declared_of_mem_submissions declared buyerMem.1
  obtain ⟨sellerSide, sellerType⟩ := declared_of_mem_submissions declared sellerMem.1
  have olderDeclared : (older buyer seller).type.Declared := by
    unfold older
    split
    · exact buyerType
    · exact sellerType
  have buys : buyer.side = .buy := by
    rcases buyerSide with buy | sell
    · exact buy
    · exact absurd protects.buys (by simp [sell, Side.isBuy])
  have sells : seller.side = .sell := by
    rcases sellerSide with buy | sell
    · exact absurd protects.sells (by simp [buy, Side.isBuy])
    · exact sell
  have olderLimit : (older buyer seller).type = .limit :=
    ((OrderType.rests_iff _).mp protects.olderRests).resolve_right (not_not.mpr olderDeclared)
  refine ⟨buyer, buyerMem.1, seller, sellerMem.1, ⟨buyerMem.2, protects.buyerId, buys⟩,
    ⟨sellerMem.2, protects.sellerId, sells⟩, protects.different, protects.olderPrice, olderLimit,
    ?_, ?_⟩
  · rintro (limit | ioc)
    · exact protects.buyerLimit (by simp [limit])
    · exact protects.buyerLimit (by simp [ioc])
  · rintro (limit | ioc)
    · exact protects.sellerLimit (by simp [limit])
    · exact protects.sellerLimit (by simp [ioc])

/-- An order that first trades as the incoming one and rests afterwards. -/
theorem MatchingEngine.limit_protection_resting :
    let ops : List EngineOp :=
      [.submit id [65] .sell .limit (.finite 100) 5, .submit id [65] .buy .limit (.finite 101) 8,
        .submit id [65] .sell .market 0 3]
    let history := Transition.history step .new ops
    (∀ op ∈ ops, op.Declared) ∧
      (history.flatMap fun entry => entry.2.trades).map Trade.price =
        [.finite 100, .finite 101] ∧
      ∀ entry ∈ history, ∀ trade ∈ entry.2.trades,
        ∃ buyer ∈ submissions history, ∃ seller ∈ submissions history,
          buyer.id = trade.buyOrderId ∧ seller.id = trade.sellOrderId ∧
            trade.price = (older buyer seller).price := by
  intro ops history
  have declared : ∀ op ∈ ops, op.Declared := by decide +kernel
  refine ⟨declared, by decide +kernel, ?_⟩
  intro entry member trade traded
  obtain ⟨buyer, buyerMem, seller, sellerMem, isBuyer, isSeller, -, priceEq, -⟩ :=
    (limit_protection declared).2 entry member trade traded
  exact ⟨buyer, buyerMem, seller, sellerMem, isBuyer.2.1, isSeller.2.1, priceEq⟩

end OrderBookExchange
