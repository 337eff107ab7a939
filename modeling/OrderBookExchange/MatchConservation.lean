import OrderBookExchange.LinkedBook
import OrderBookExchange.SweepOutcome

/-!
# Matching conserves shares

What a submission takes from an order's remaining quantity is what the trades
naming it report.  The argument follows the matching loop on the book itself
and uses only how nodes and index are linked, so it makes no assumption about
prices.
-/

namespace OrderBookExchange

/-- Total quantity of the trades that name an order. -/
def tradedQty (trades : List Trade) (id : Nat) : Nat :=
  ((trades.filter fun trade => trade.Names id).map fun trade => trade.quantity.toNat).sum

@[simp]
theorem tradedQty_nil (id : Nat) : tradedQty [] id = 0 :=
  rfl

theorem tradedQty_append (first second : List Trade) (id : Nat) :
    tradedQty (first ++ second) id = tradedQty first id + tradedQty second id := by
  simp [tradedQty]

theorem tradedQty_singleton (trade : Trade) (id : Nat) :
    tradedQty [trade] id = if trade.Names id then trade.quantity.toNat else 0 := by
  by_cases named : trade.Names id <;> simp [tradedQty, named]

theorem tradedQty_ne_zero_iff {trades : List Trade} (id : Nat)
    (positive : ∀ trade ∈ trades, 0 < trade.quantity) :
    tradedQty trades id ≠ 0 ↔ ∃ trade ∈ trades, trade.Names id := by
  induction trades with
  | nil => simp
  | cons trade trades ih =>
      rw [List.forall_mem_cons] at positive
      have first : trade.quantity.toNat ≠ 0 := Nat.ne_of_gt (UInt32.lt_iff_toNat_lt.mp positive.1)
      have rest := ih positive.2
      have split := tradedQty_append [trade] trades id
      rw [List.singleton_append, tradedQty_singleton] at split
      rw [split, List.exists_mem_cons_iff, ← rest]
      by_cases named : trade.Names id
      · simp [named, first]
      · simp [named]

theorem executeMatch_names {incoming resting : Order} {now id : Nat} :
    (executeMatch incoming resting now).trade.Names id ↔ id = incoming.id ∨ id = resting.id := by
  simp only [executeMatch, Trade.Names]
  cases incoming.side.isBuy
  · simp only [Bool.false_eq_true, if_false]
    exact or_comm.trans (or_congr eq_comm eq_comm)
  · simp only [if_true]
    exact or_congr eq_comm eq_comm

theorem executeMatch_quantity_pos {incoming resting : Order} {now : Nat}
    (active : incoming.remainingQty ≠ 0) (restingActive : resting.remainingQty ≠ 0) :
    0 < (executeMatch incoming resting now).trade.quantity := by
  rw [UInt32.pos_iff_ne_zero]
  intro zero
  have minimum := minQuantity_toNat incoming.remainingQty resting.remainingQty
  have noFill : (minQuantity incoming.remainingQty resting.remainingQty).toNat = 0 :=
    congrArg UInt32.toNat zero
  have incomingPositive : incoming.remainingQty.toNat ≠ 0 :=
    fun eq => active (UInt32.toNat_inj.mp eq)
  have restingPositive : resting.remainingQty.toNat ≠ 0 :=
    fun eq => restingActive (UInt32.toNat_inj.mp eq)
  omega

/-- Two stages of one order: only what is left of it and its status differ. -/
structure Order.SameTerms (older order : Order) : Prop where
  id : older.id = order.id
  side : older.side = order.side
  type : older.type = order.type
  price : older.price = order.price
  quantity : older.quantity = order.quantity

namespace Order.SameTerms

theorem refl (order : Order) : order.SameTerms order :=
  ⟨rfl, rfl, rfl, rfl, rfl⟩

theorem trans {first second third : Order} (earlier : first.SameTerms second)
    (later : second.SameTerms third) : first.SameTerms third :=
  ⟨earlier.id.trans later.id, earlier.side.trans later.side, earlier.type.trans later.type,
    earlier.price.trans later.price, earlier.quantity.trans later.quantity⟩

end Order.SameTerms

namespace OrderBook

/-- What is left of the order with an identifier, nothing if it is gone. -/
def remainingOf (book : OrderBook) (id : Nat) : Nat :=
  ((book.orderAt id).map fun order => order.remainingQty.toNat).getD 0

/-- A trade between a buy order and a sell order of the book. -/
def Parties (book : OrderBook) (trade : Trade) : Prop :=
  (∃ buyer, book.orderAt trade.buyOrderId = some buyer ∧ buyer.side.isBuy = true) ∧
    ∃ seller, book.orderAt trade.sellOrderId = some seller ∧ seller.side.isBuy = false

/-- Every order but one has something left. -/
def UnfilledBut (book : OrderBook) (incoming : Nat) : Prop :=
  ∀ id order, book.orderAt id = some order → id ≠ incoming → order.remainingQty ≠ 0

/-- `next` is `book` after its order at `incoming` took part in the given
trades. -/
structure Conserved (buy : Bool) (incoming : Nat) (book next : OrderBook)
    (trades : List Trade) : Prop where
  linked : next.Linked
  live : incoming ∈ next.nodePtrs buy
  idEq : (next.load incoming).id = (book.load incoming).id
  nextEq : next.nextOrderId = book.nextOrderId
  unfilled : next.UnfilledBut (next.load incoming).id
  balance : ∀ id, book.remainingOf id = next.remainingOf id + tradedQty trades id
  older : ∀ id order, next.orderAt id = some order →
    ∃ older, book.orderAt id = some older ∧ older.SameTerms order
  parties : ∀ trade ∈ trades, 0 < trade.quantity ∧ book.Parties trade

namespace Conserved

variable {buy : Bool} {incoming : Nat} {book middle next : OrderBook}

theorem refl (linked : book.Linked) (live : incoming ∈ book.nodePtrs buy)
    (unfilled : book.UnfilledBut (book.load incoming).id) :
    Conserved buy incoming book book [] where
  linked := linked
  live := live
  idEq := rfl
  nextEq := rfl
  unfilled := unfilled
  balance := by simp
  older := fun _ order found => ⟨order, found, .refl order⟩
  parties := by simp

theorem parties_older {trade : Trade} {book middle : OrderBook}
    (older : ∀ id order, middle.orderAt id = some order →
      ∃ older, book.orderAt id = some older ∧ older.SameTerms order)
    (parties : middle.Parties trade) : book.Parties trade := by
  obtain ⟨⟨buyer, buyerFound, buyerSide⟩, seller, sellerFound, sellerSide⟩ := parties
  obtain ⟨olderBuyer, olderBuyerFound, buyerTerms⟩ := older _ buyer buyerFound
  obtain ⟨olderSeller, olderSellerFound, sellerTerms⟩ := older _ seller sellerFound
  exact ⟨⟨olderBuyer, olderBuyerFound, buyerTerms.side ▸ buyerSide⟩,
    olderSeller, olderSellerFound, sellerTerms.side ▸ sellerSide⟩

theorem trans {first second : List Trade} (firstPart : Conserved buy incoming book middle first)
    (secondPart : Conserved buy incoming middle next second) :
    Conserved buy incoming book next (first ++ second) where
  linked := secondPart.linked
  live := secondPart.live
  idEq := secondPart.idEq.trans firstPart.idEq
  nextEq := secondPart.nextEq.trans firstPart.nextEq
  unfilled := secondPart.unfilled
  balance := by
    intro id
    rw [firstPart.balance id, secondPart.balance id, tradedQty_append]
    omega
  older := by
    intro id order found
    obtain ⟨middleOrder, middleFound, laterTerms⟩ := secondPart.older id order found
    obtain ⟨older, olderFound, earlierTerms⟩ := firstPart.older id middleOrder middleFound
    exact ⟨older, olderFound, earlierTerms.trans laterTerms⟩
  parties := by
    intro trade member
    rcases List.mem_append.mp member with inFirst | inSecond
    · exact firstPart.parties trade inFirst
    · obtain ⟨positive, parties⟩ := secondPart.parties trade inSecond
      exact ⟨positive, parties_older firstPart.older parties⟩

theorem withStatus {trades : List Trade} (conserved : Conserved buy incoming book next trades)
    (status : OrderStatus) :
    Conserved buy incoming book
      (next.store incoming { next.load incoming with status }) trades := by
  have orderAtEq := orderAt_store conserved.linked conserved.live
    { next.load incoming with status } rfl
  have found := conserved.linked.orderAt_of_mem conserved.live
  have remainingEq : ∀ id, (next.store incoming { next.load incoming with status }).remainingOf id =
      next.remainingOf id := by
    intro id
    unfold remainingOf
    rw [orderAtEq]
    split
    · next own =>
        rw [own]
        dsimp only
        rw [found]
        rfl
    · rfl
  constructor
  case linked => exact conserved.linked.store _ _ rfl rfl
  case live => rw [nodePtrs_store]; exact conserved.live
  case idEq => rw [load_store_self]; exact conserved.idEq
  case nextEq => exact conserved.nextEq
  case unfilled =>
    intro id order orderFound different
    rw [load_store_self] at different
    rw [orderAtEq, if_neg different] at orderFound
    exact conserved.unfilled id order orderFound different
  case balance =>
    intro id
    rw [conserved.balance id, remainingEq]
  case older =>
    intro id order orderFound
    rw [orderAtEq] at orderFound
    split at orderFound
    · next own =>
        obtain ⟨older, olderFound, terms⟩ := conserved.older _ _ found
        rw [Option.some.injEq] at orderFound
        rw [← orderFound, own]
        exact ⟨older, olderFound, terms.trans ⟨rfl, rfl, rfl, rfl, rfl⟩⟩
    · exact conserved.older id order orderFound
  case parties => exact conserved.parties

end Conserved

/-! ### One iteration of the loop -/

section Iteration

variable {book next : OrderBook} {buy : Bool} {incoming resting : Nat}

/-- `written` is `book` with two live orders of opposite sides replaced by later
stages of them. -/
structure BothWritten (book written : OrderBook) (incoming resting : Nat)
    (first second : Order) : Prop where
  linked : written.Linked
  nodePtrs : ∀ side, written.nodePtrs side = book.nodePtrs side
  nextEq : written.nextOrderId = book.nextOrderId
  incomingEq : written.load incoming = first
  restingEq : written.load resting = second
  orders : ∀ id, written.orderAt id =
    if id = (book.load resting).id then some second
    else if id = (book.load incoming).id then some first
    else book.orderAt id

theorem bothWritten_store (linked : book.Linked) (live : incoming ∈ book.nodePtrs buy)
    (restingLive : resting ∈ book.nodePtrs (!buy)) (first second : Order)
    (firstTerms : (book.load incoming).SameTerms first)
    (secondTerms : (book.load resting).SameTerms second) :
    BothWritten book ((book.store incoming first).store resting second) incoming resting
      first second := by
  have different := linked.ptr_ne_of_opposite live restingLive
  have firstLinked := linked.store incoming first firstTerms.id.symm firstTerms.side.symm
  have restingKept : (book.store incoming first).load resting = book.load resting :=
    load_store_of_ne _ _ _ different.symm
  have restingOn : resting ∈ (book.store incoming first).nodePtrs (!buy) := by
    rw [nodePtrs_store]
    exact restingLive
  constructor
  case linked =>
    exact firstLinked.store _ _ (by rw [restingKept, secondTerms.id])
      (by rw [restingKept, secondTerms.side])
  case nodePtrs =>
    intro side
    rw [nodePtrs_store, nodePtrs_store]
  case nextEq => rfl
  case incomingEq => rw [load_store_of_ne _ _ _ different, load_store_self]
  case restingEq => rw [load_store_self]
  case orders =>
    intro id
    rw [orderAt_store firstLinked restingOn second (by rw [restingKept, secondTerms.id]),
      orderAt_store linked live first firstTerms.id.symm, ← firstTerms.id, ← secondTerms.id]

theorem parties_matchAt (linked : book.Linked) (live : incoming ∈ book.nodePtrs buy)
    (restingLive : resting ∈ book.nodePtrs (!buy)) (now : Nat) :
    book.Parties (book.matchAt incoming resting now).trade := by
  have incomingAt := linked.orderAt_of_mem live
  have restingAt := linked.orderAt_of_mem restingLive
  have incomingSide := linked.side_of_mem live
  have restingSide := linked.side_of_mem restingLive
  unfold Parties
  cases buy
  · simp only [matchAt, executeMatch, incomingSide, Bool.false_eq_true, if_false]
    exact ⟨⟨_, restingAt, restingSide⟩, _, incomingAt, incomingSide⟩
  · simp only [matchAt, executeMatch, incomingSide, if_true]
    exact ⟨⟨_, incomingAt, incomingSide⟩, _, restingAt, restingSide⟩

/-- What a match takes from an order is what it trades of it. -/
theorem remainingOf_match (linked : book.Linked) (live : incoming ∈ book.nodePtrs buy)
    (restingLive : resting ∈ book.nodePtrs (!buy)) (now : Nat)
    (nextOrders : ∀ id, next.orderAt id =
      if id = (book.load resting).id then
        if (book.matchAt incoming resting now).resting.isFilled then none
        else some (book.matchAt incoming resting now).resting
      else if id = (book.load incoming).id then
        some (book.matchAt incoming resting now).incoming
      else book.orderAt id) (id : Nat) :
    book.remainingOf id =
      next.remainingOf id + tradedQty [(book.matchAt incoming resting now).trade] id := by
  have balance := executeMatch_balance (book.load incoming) (book.load resting) now
  rw [← matchAt] at balance
  have names : (book.matchAt incoming resting now).trade.Names id ↔
      id = (book.load incoming).id ∨ id = (book.load resting).id := executeMatch_names
  rw [tradedQty_singleton]
  unfold remainingOf
  rw [nextOrders]
  by_cases isResting : id = (book.load resting).id
  · rw [if_pos isResting, if_pos (names.mpr (Or.inr isResting)), isResting,
      linked.orderAt_of_mem restingLive]
    split
    · next gone =>
        rw [Order.isFilled_eq_true.mp gone] at balance
        simpa using balance.2.symm
    · exact balance.2.symm
  · rw [if_neg isResting]
    by_cases isIncoming : id = (book.load incoming).id
    · rw [if_pos isIncoming, if_pos (names.mpr (Or.inl isIncoming)), isIncoming,
        linked.orderAt_of_mem live]
      exact balance.1.symm
    · have unnamed : ¬(book.matchAt incoming resting now).trade.Names id := by
        rw [names]
        tauto
      rw [if_neg isIncoming, if_neg unnamed]
      rfl

/-- A match, however the resting order is treated afterwards: it stays with
what it has left, or it is gone with nothing left. -/
theorem conserved_of_match (linked : book.Linked) (live : incoming ∈ book.nodePtrs buy)
    (unfilled : book.UnfilledBut (book.load incoming).id)
    (restingLive : resting ∈ book.nodePtrs (!buy))
    (active : (book.load incoming).remainingQty ≠ 0) {result : Match} {now : Nat}
    (resultEq : result = book.matchAt incoming resting now)
    (nextLinked : next.Linked) (nextLive : incoming ∈ next.nodePtrs buy)
    (nextIncoming : next.load incoming = result.incoming)
    (nextEq : next.nextOrderId = book.nextOrderId)
    (nextOrders : ∀ id, next.orderAt id =
      if id = (book.load resting).id then
        if result.resting.isFilled then none else some result.resting
      else if id = (book.load incoming).id then some result.incoming
      else book.orderAt id) :
    Conserved buy incoming book next [result.trade] := by
  subst resultEq
  have incomingAt := linked.orderAt_of_mem live
  have restingAt := linked.orderAt_of_mem restingLive
  have differentIds : (book.load resting).id ≠ (book.load incoming).id :=
    linked.id_ne_of_ptr_ne restingLive live (linked.ptr_ne_of_opposite live restingLive).symm
  have restingActive : (book.load resting).remainingQty ≠ 0 :=
    unfilled _ _ restingAt differentIds
  constructor
  case linked => exact nextLinked
  case live => exact nextLive
  case idEq => rw [nextIncoming]; rfl
  case nextEq => exact nextEq
  case unfilled =>
    intro id order found different
    rw [nextIncoming] at different
    change id ≠ (book.load incoming).id at different
    rw [nextOrders, if_neg different] at found
    split at found
    · split at found
      · simp at found
      · next stays =>
          rw [← Option.some.inj found]
          exact fun zero => stays (Order.isFilled_eq_true.mpr zero)
    · exact unfilled id order found different
  case balance => exact remainingOf_match linked live restingLive now nextOrders
  case older =>
    intro id order found
    rw [nextOrders] at found
    split at found
    · next isResting =>
        split at found
        · simp at found
        · rw [isResting, ← Option.some.inj found]
          exact ⟨_, restingAt, ⟨rfl, rfl, rfl, rfl, rfl⟩⟩
    · split at found
      · next isIncoming =>
          rw [isIncoming, ← Option.some.inj found]
          exact ⟨_, incomingAt, ⟨rfl, rfl, rfl, rfl, rfl⟩⟩
      · exact ⟨order, found, .refl order⟩
  case parties =>
    intro trade member
    obtain rfl := List.mem_singleton.mp member
    exact ⟨executeMatch_quantity_pos active restingActive,
      parties_matchAt linked live restingLive now⟩

/-- What an iteration that trades does to the nodes and to the orders. -/
structure IterationFrame (book next : OrderBook) (buy : Bool) (incoming resting : Nat)
    (result : Match) : Prop where
  linked : next.Linked
  live : incoming ∈ next.nodePtrs buy
  incomingEq : next.load incoming = result.incoming
  nextEq : next.nextOrderId = book.nextOrderId
  orders : ∀ id, next.orderAt id =
    if id = (book.load resting).id then
      if result.resting.isFilled then none else some result.resting
    else if id = (book.load incoming).id then some result.incoming
    else book.orderAt id

theorem frame_afterMatch (linked : book.Linked) (live : incoming ∈ book.nodePtrs buy)
    (restingLive : resting ∈ book.nodePtrs (!buy)) (now : Nat) :
    IterationFrame book (book.afterMatch incoming resting now) buy incoming resting
      (book.matchAt incoming resting now) := by
  have different := linked.ptr_ne_of_opposite live restingLive
  unfold afterMatch
  set result := book.matchAt incoming resting now
  dsimp only
  by_cases gone : result.resting.isFilled = true
  · rw [if_pos gone, store_store]
    have written := bothWritten_store linked live restingLive result.incoming
      { result.resting with status := .filled } ⟨rfl, rfl, rfl, rfl, rfl⟩
      ⟨rfl, rfl, rfl, rfl, rfl⟩
    obtain ⟨removedLinked, removedNext, removedLoad, removedPtrs, removedOrders⟩ :=
      written.linked.removeOrder (by rw [written.nodePtrs]; exact restingLive)
    have restingId : (((book.store incoming result.incoming).store resting
        { result.resting with status := .filled }).load resting).id = (book.load resting).id := by
      rw [written.restingEq]
      rfl
    refine ⟨removedLinked, ?_, ?_, removedNext, ?_⟩
    · rw [removedPtrs, written.nodePtrs]
      exact ⟨live, different⟩
    · rw [removedLoad, written.incomingEq]
    · intro id
      rw [removedOrders, restingId, written.orders]
      by_cases isResting : id = (book.load resting).id
      · rw [if_pos isResting, if_pos isResting, if_pos gone]
      · rw [if_neg isResting, if_neg isResting, if_neg isResting]
  · rw [if_neg gone]
    have written := bothWritten_store linked live restingLive result.incoming result.resting
      ⟨rfl, rfl, rfl, rfl, rfl⟩ ⟨rfl, rfl, rfl, rfl, rfl⟩
    refine ⟨written.linked, ?_, written.incomingEq, written.nextEq, ?_⟩
    · rw [written.nodePtrs]
      exact live
    · intro id
      rw [if_neg gone, written.orders]

/-- One iteration that trades. -/
theorem conserved_afterMatch (linked : book.Linked) (live : incoming ∈ book.nodePtrs buy)
    (unfilled : book.UnfilledBut (book.load incoming).id)
    (restingLive : resting ∈ book.nodePtrs (!buy))
    (active : (book.load incoming).remainingQty ≠ 0) (now : Nat) :
    Conserved buy incoming book (book.afterMatch incoming resting now)
      [(book.matchAt incoming resting now).trade] := by
  have frame := frame_afterMatch linked live restingLive now
  exact conserved_of_match linked live unfilled restingLive active rfl frame.linked frame.live
    frame.incomingEq frame.nextEq frame.orders

end Iteration

/-! ### A whole submission -/

section Submission

variable {book : OrderBook} {buy : Bool} {incoming : Nat}

theorem mem_nodePtrs_of_bestLevel {resting : Nat} {rest : List Nat}
    (best : book.bestLevel buy = some (resting :: rest)) : resting ∈ book.nodePtrs buy := by
  unfold bestLevel at best
  unfold nodePtrs
  cases shape : book.levels buy with
  | nil => simp [shape] at best
  | cons level levels =>
      rw [shape] at best
      simp [Option.some.inj best]

/-- The loop trades the incoming order against live orders of the opposite
side, whatever order the levels are in. -/
theorem matchLoop_conserved (clock : Clock) (fuel : Nat) (trades : List Trade)
    (linked : book.Linked) (live : incoming ∈ book.nodePtrs buy)
    (unfilled : book.UnfilledBut (book.load incoming).id) :
    ∃ new, (matchLoop clock incoming fuel book trades).2 = trades ++ new ∧
      Conserved buy incoming book (matchLoop clock incoming fuel book trades).1 new := by
  induction fuel generalizing book trades with
  | zero => exact ⟨[], by simp [matchLoop], .refl linked live unfilled⟩
  | succ fuel ih =>
      rw [matchLoop_succ]
      cases next : book.nextMatch incoming with
      | none => exact ⟨[], by simp, .refl linked live unfilled⟩
      | some resting =>
          obtain ⟨active, ⟨rest, best⟩, -⟩ := nextMatch_eq_some next
          rw [linked.side_of_mem live] at best
          have step := conserved_afterMatch linked live unfilled (mem_nodePtrs_of_bestLevel best)
            active (clock (2 + trades.length))
          obtain ⟨new, tradesEq, later⟩ := ih (trades ++ [_]) step.linked step.live step.unfilled
          exact ⟨_ :: new, by rw [tradesEq, List.append_assoc]; rfl, step.trans later⟩

theorem matchOrder_conserved (clock : Clock) (linked : book.Linked)
    (live : incoming ∈ book.nodePtrs buy)
    (unfilled : book.UnfilledBut (book.load incoming).id) :
    Conserved buy incoming book (book.matchOrder clock incoming).1
      (book.matchOrder clock incoming).2 := by
  obtain ⟨new, tradesEq, conserved⟩ := matchLoop_conserved clock
    (book.nodeCount (!(book.load incoming).side.isBuy) + 1) [] linked live unfilled
  rw [List.nil_append] at tradesEq
  unfold matchOrder
  dsimp only
  rw [tradesEq]
  exact conserved.withStatus _

/-- Every order on the book has something left. -/
def Unfilled (book : OrderBook) : Prop :=
  ∀ id order, book.orderAt id = some order → order.remainingQty ≠ 0

/-- What the market and IOC rule throws away: the remaining quantity the
incoming order has when it is taken off the book. -/
def discardedQty (book : OrderBook) (clock : Clock) (side : Side) (type : OrderType)
    (price : Price) (quantity : Quantity) : Nat :=
  if type = .market ∨ type = .ioc then
    ((book.matched clock side type price quantity).1.load
      (book.addOrder side type price quantity (clock 1)).2).remainingQty.toNat
  else 0

theorem remainingOf_of_orderAt {next : OrderBook} {id : Nat}
    (orderEq : next.orderAt id = book.orderAt id) : next.remainingOf id = book.remainingOf id := by
  rw [remainingOf, orderEq, remainingOf]

theorem remainingOf_of_none {id : Nat} (gone : book.orderAt id = none) :
    book.remainingOf id = 0 := by
  rw [remainingOf, gone]
  rfl

theorem remainingOf_of_some {id : Nat} {order : Order} (found : book.orderAt id = some order) :
    book.remainingOf id = order.remainingQty.toNat := by
  rw [remainingOf, found]
  rfl

theorem remainingOf_of_mem (linked : book.Linked) (live : incoming ∈ book.nodePtrs buy) :
    book.remainingOf (book.load incoming).id = (book.load incoming).remainingQty.toNat :=
  remainingOf_of_some (linked.orderAt_of_mem live)

/-- Post-match handling takes the incoming order off the book, or leaves the
book as it is. -/
theorem postMatch_cases (linked : book.Linked) (live : incoming ∈ book.nodePtrs buy)
    (type : OrderType) :
    (book.postMatch incoming type).Linked ∧
      (book.postMatch incoming type).nextOrderId = book.nextOrderId ∧
      ((∀ id, (book.postMatch incoming type).orderAt id =
          if id = (book.load incoming).id then none else book.orderAt id) ∧
        ((book.load incoming).remainingQty = 0 ∨ type = .market ∨ type = .ioc) ∨
      (book.postMatch incoming type = book ∧ (book.load incoming).remainingQty ≠ 0 ∧
        ¬(type = .market ∨ type = .ioc))) := by
  unfold postMatch
  dsimp only
  split
  · next filled =>
      obtain ⟨removed, nextEq, -, -, orders⟩ := linked.removeOrder live
      exact ⟨removed, nextEq, Or.inl ⟨orders, Or.inl (by simpa [Order.isFilled] using filled)⟩⟩
  · next unfilled =>
      split
      · next discarded =>
          generalize statusEq : (if 0 < (book.load incoming).filledQty
            then OrderStatus.partiallyFilled else .cancelled) = status
          have stored : (book.store incoming { book.load incoming with status }).Linked :=
            linked.store _ _ rfl rfl
          have storedLive : incoming ∈
              (book.store incoming { book.load incoming with status }).nodePtrs buy := by
            rw [nodePtrs_store]
            exact live
          have storedOrders : ∀ id, (book.store incoming
              { book.load incoming with status }).orderAt id =
                if id = (book.load incoming).id then some { book.load incoming with status }
                else book.orderAt id :=
            orderAt_store linked live { book.load incoming with status } rfl
          obtain ⟨removed, nextEq, -, -, orders⟩ := stored.removeOrder storedLive
          refine ⟨removed, nextEq, Or.inl ⟨?_, Or.inr discarded⟩⟩
          intro id
          rw [orders, load_store_self]
          by_cases own : id = (book.load incoming).id
          · rw [if_pos own, if_pos own]
          · rw [if_neg own, if_neg own, storedOrders, if_neg own]
      · next kept =>
          refine ⟨linked, rfl, Or.inr ⟨rfl, ?_, kept⟩⟩
          intro zero
          exact unfilled (by simp [Order.isFilled, zero])

section Accept

variable (clock : Clock) (side : Side) (type : OrderType) (price : Price) (quantity : Quantity)

theorem acceptOrder_eq :
    book.acceptOrder clock side type price quantity =
      ((book.matched clock side type price quantity).1.postMatch
          (book.addOrder side type price quantity (clock 1)).2 type,
        book.nextOrderId, (book.matched clock side type price quantity).2) := by
  have addedId : ((book.addOrder side type price quantity (clock 1)).1.load
      (book.addOrder side type price quantity (clock 1)).2).id = book.nextOrderId := by
    rw [addOrder_ptr, load_addOrder_self]
    rfl
  rw [← addedId]
  rfl

/-- The submitted order right after matching, still on the book. -/
structure MatchedFrom (book next : OrderBook) (placed : OrderBook) (ptr : Nat) (buy : Bool)
    (quantity : Quantity) (trades : List Trade) : Prop where
  linked : next.Linked
  live : ptr ∈ next.nodePtrs buy
  idEq : (next.load ptr).id = book.nextOrderId
  nextEq : next.nextOrderId = book.nextOrderId + 1
  unfilled : next.UnfilledBut book.nextOrderId
  balance : ∀ id, book.remainingOf id +
      (if id = book.nextOrderId then quantity.toNat else 0) =
    next.remainingOf id + tradedQty trades id
  older : ∀ id order, next.orderAt id = some order →
    ∃ older, placed.orderAt id = some older ∧ older.SameTerms order
  parties : ∀ trade ∈ trades, 0 < trade.quantity ∧ placed.Parties trade

theorem placed_addOrder (linked : book.Linked) (unfilled : book.Unfilled) :
    let added := book.addOrder side type price quantity (clock 1)
    added.1.Linked ∧ added.2 ∈ added.1.nodePtrs side.isBuy ∧
      added.1.load added.2 = book.addedOrder side type price quantity (clock 1) ∧
      added.1.UnfilledBut (added.1.load added.2).id := by
  intro added
  have loaded : added.1.load added.2 = book.addedOrder side type price quantity (clock 1) :=
    load_addOrder_self book side type price quantity (clock 1)
  refine ⟨linked.addOrder side type price quantity (clock 1),
    (mem_nodePtrs_addOrder side type price quantity (clock 1)).mpr (Or.inr ⟨rfl, rfl⟩),
    loaded, ?_⟩
  rw [loaded]
  change added.1.UnfilledBut book.nextOrderId
  intro id order found different
  rw [orderAt_addOrder side type price quantity (clock 1) linked, if_neg different] at found
  exact unfilled id order found

theorem matched_from (linked : book.Linked) (unfilled : book.Unfilled) :
    MatchedFrom book (book.matched clock side type price quantity).1
      (book.addOrder side type price quantity (clock 1)).1
      (book.addOrder side type price quantity (clock 1)).2 side.isBuy quantity
      (book.matched clock side type price quantity).2 := by
  obtain ⟨addedLinked, addedLive, addedOrder, addedUnfilled⟩ :=
    placed_addOrder clock side type price quantity linked unfilled
  have addedOrders := orderAt_addOrder side type price quantity (clock 1) linked
  have addedRemaining : ∀ id,
      (book.addOrder side type price quantity (clock 1)).1.remainingOf id =
        book.remainingOf id + if id = book.nextOrderId then quantity.toNat else 0 := by
    intro id
    by_cases own : id = book.nextOrderId
    · rw [if_pos own, own, remainingOf_of_none (linked.orderAt_none_of_le le_rfl), remainingOf,
        addedOrders, if_pos rfl, Nat.zero_add]
      rfl
    · rw [if_neg own, Nat.add_zero]
      exact remainingOf_of_orderAt (by rw [addedOrders, if_neg own])
  have conserved := matchOrder_conserved clock addedLinked addedLive addedUnfilled
  have idEq : ((book.matched clock side type price quantity).1.load
      (book.addOrder side type price quantity (clock 1)).2).id = book.nextOrderId :=
    conserved.idEq.trans (congrArg Order.id addedOrder)
  constructor
  case linked => exact conserved.linked
  case live => exact conserved.live
  case idEq => exact idEq
  case nextEq => exact conserved.nextEq
  case unfilled => exact idEq ▸ conserved.unfilled
  case balance =>
    intro id
    rw [← addedRemaining]
    exact conserved.balance id
  case older => exact conserved.older
  case parties => exact conserved.parties

/-- Shares across one accepted submission. -/
theorem acceptOrder_conserved (linked : book.Linked) (unfilled : book.Unfilled) :
    (book.acceptOrder clock side type price quantity).1.Linked ∧
      (book.acceptOrder clock side type price quantity).1.Unfilled ∧
      (book.acceptOrder clock side type price quantity).1.nextOrderId =
        book.nextOrderId + 1 ∧
      ∀ id, book.remainingOf id + (if id = book.nextOrderId then quantity.toNat else 0) =
        (book.acceptOrder clock side type price quantity).1.remainingOf id +
          tradedQty (book.acceptOrder clock side type price quantity).2.2 id +
          (if id = book.nextOrderId then
            book.discardedQty clock side type price quantity else 0) := by
  have matched := matched_from clock side type price quantity linked unfilled
  have remaining := remainingOf_of_mem matched.linked matched.live
  obtain ⟨postLinked, postNext, outcome⟩ := postMatch_cases matched.linked matched.live type
  rw [acceptOrder_eq]
  unfold discardedQty
  generalize book.matched clock side type price quantity = result at *
  generalize (book.addOrder side type price quantity (clock 1)).2 = ptr at *
  rw [matched.idEq] at remaining outcome
  refine ⟨postLinked, ?_, postNext.trans matched.nextEq, ?_⟩
  · intro id order found
    rcases outcome with ⟨orders, -⟩ | ⟨unchanged, stays, -⟩
    · rw [orders] at found
      split at found
      · simp at found
      · next other => exact matched.unfilled id order found other
    · rw [unchanged] at found
      by_cases own : id = book.nextOrderId
      · have ownOrder := matched.linked.orderAt_of_mem matched.live
        rw [matched.idEq, ← own, found, Option.some.injEq] at ownOrder
        rw [ownOrder]
        exact stays
      · exact matched.unfilled id order found own
  · intro id
    rw [matched.balance id]
    rcases outcome with ⟨orders, reason⟩ | ⟨unchanged, -, kept⟩
    · by_cases own : id = book.nextOrderId
      · have gone : (result.1.postMatch ptr type).remainingOf id = 0 :=
          remainingOf_of_none (by rw [orders, if_pos own])
        rw [gone, if_pos own, own, remaining]
        rcases reason with filled | discarded
        · rw [filled]
          simp
        · rw [if_pos discarded]
          dsimp only
          omega
      · have same : (result.1.postMatch ptr type).remainingOf id = result.1.remainingOf id :=
          remainingOf_of_orderAt (by rw [orders, if_neg own])
        rw [same, if_neg own, Nat.add_zero]
    · rw [unchanged, if_neg kept, ite_self, Nat.add_zero]

end Accept

end Submission

end OrderBook

end OrderBookExchange
