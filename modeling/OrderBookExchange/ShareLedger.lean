import OrderBookExchange.ExchangeRefinement
import OrderBookExchange.MatchConservation

/-!
# The share ledger of a run

Every call moves shares of an order in one of four ways: they are submitted,
traded, taken out by a reduction or discarded.  The ledger of a run adds these
up for one order.  What was submitted is at every moment what was traded, taken
out or discarded, and what is left on the book.
-/

namespace OrderBookExchange

/-- The movements of one order's shares. -/
@[ext]
structure Flow where
  submitted : Nat
  traded : Nat
  reduced : Nat
  discarded : Nat

namespace Flow

def zero : Flow :=
  ⟨0, 0, 0, 0⟩

def add (first second : Flow) : Flow :=
  ⟨first.submitted + second.submitted, first.traded + second.traded,
    first.reduced + second.reduced, first.discarded + second.discarded⟩

end Flow

namespace OrderBook

variable {book : OrderBook}

theorem orderAt_of_lookup {id : Nat} {location : OrderLocation}
    (found : book.orderLookup.lookup id = some location) :
    book.orderAt id = some (book.load location.iterator) := by
  rw [orderAt, found]
  rfl

theorem orderAt_cancelOrder (linked : book.Linked) (id other : Nat) :
    (book.cancelOrder id).1.orderAt other = if other = id then none else book.orderAt other := by
  unfold cancelOrder
  cases found : book.orderLookup.lookup id with
  | none =>
      by_cases same : other = id
      · rw [if_pos same, same, orderAt, found]
        rfl
      · rw [if_neg same]
  | some location =>
      obtain ⟨member, idEq, -⟩ := linked.indexed id location found
      dsimp only
      rw [orderAt_unlink, orderAt_store linked member
        { book.load location.iterator with status := .cancelled } rfl]
      by_cases same : other = id
      · rw [if_pos same, if_pos same]
      · rw [if_neg same, if_neg same, if_neg (fun other => same (other.trans idEq))]

theorem cancelOrder_conserved (linked : book.Linked) (unfilled : book.Unfilled) (id : Nat) :
    (book.cancelOrder id).1.Linked ∧ (book.cancelOrder id).1.Unfilled ∧
      (book.cancelOrder id).1.nextOrderId = book.nextOrderId ∧
      (book.cancelOrder id).2 = (book.orderAt id).isSome ∧
      ∀ other, (book.cancelOrder id).1.orderAt other =
        if other = id then none else book.orderAt other := by
  have orders := orderAt_cancelOrder linked id
  have stillUnfilled : (book.cancelOrder id).1.Unfilled := by
    intro other order orderFound
    rw [orders] at orderFound
    split at orderFound
    · simp at orderFound
    · exact unfilled other order orderFound
  have kept : (book.cancelOrder id).1.Linked ∧
      (book.cancelOrder id).1.nextOrderId = book.nextOrderId ∧
      (book.cancelOrder id).2 = (book.orderAt id).isSome := by
    unfold cancelOrder
    cases found : book.orderLookup.lookup id with
    | none => exact ⟨linked, rfl, by rw [orderAt, found]; rfl⟩
    | some location =>
        have marked : (book.store location.iterator
            { book.load location.iterator with status := .cancelled }).Linked :=
          linked.store _ _ rfl rfl
        exact ⟨marked.unlink found, by simp, by rw [orderAt_of_lookup found]; rfl⟩
  exact ⟨kept.1, stillUnfilled, kept.2.1, kept.2.2, orders⟩

/-- After a reduction an order on the book is one that was there before, with at
most its remaining quantity rewritten. -/
theorem orderAt_reduceOrder (linked : book.Linked) {id other : Nat} {newQuantity : Quantity}
    {order : Order} (found : (book.reduceOrder id newQuantity).1.orderAt other = some order) :
    ∃ older, book.orderAt other = some older ∧
      order = { older with remainingQty := order.remainingQty } := by
  unfold reduceOrder at found
  cases indexed : book.orderLookup.lookup id with
  | none =>
      rw [indexed] at found
      exact ⟨order, found, rfl⟩
  | some location =>
      obtain ⟨member, idEq, -⟩ := linked.indexed id location indexed
      rw [indexed] at found
      dsimp only at found
      split at found
      · exact ⟨order, found, rfl⟩
      · split at found
        · rw [orderAt_cancelOrder linked] at found
          split at found
          · simp at found
          · exact ⟨order, found, rfl⟩
        · rw [orderAt_store linked member
            { book.load location.iterator with remainingQty := newQuantity } rfl] at found
          split at found
          · next same =>
              rw [← Option.some.inj found, same]
              exact ⟨_, linked.orderAt_of_mem member, rfl⟩
          · exact ⟨order, found, rfl⟩

/-- Shrinking an order rewrites what it has left and touches no other. -/
theorem reduceOrder_conserved (linked : book.Linked) (unfilled : book.Unfilled) (id : Nat)
    (newQuantity : Quantity) :
    (book.reduceOrder id newQuantity).1.Linked ∧
      (book.reduceOrder id newQuantity).1.Unfilled ∧
      (book.reduceOrder id newQuantity).1.nextOrderId = book.nextOrderId ∧
      (∀ other, other ≠ id →
        (book.reduceOrder id newQuantity).1.orderAt other = book.orderAt other) ∧
      ((book.reduceOrder id newQuantity).2 = true ∧
          (book.reduceOrder id newQuantity).1.remainingOf id = newQuantity.toNat ∧
          newQuantity.toNat < book.remainingOf id ∨
        (book.reduceOrder id newQuantity).2 = false ∧
          (book.reduceOrder id newQuantity).1 = book) := by
  unfold reduceOrder
  cases found : book.orderLookup.lookup id with
  | none => exact ⟨linked, unfilled, rfl, fun _ _ => rfl, Or.inr ⟨rfl, rfl⟩⟩
  | some location =>
      obtain ⟨member, idEq, -⟩ := linked.indexed id location found
      have present := orderAt_of_lookup found
      have left : book.remainingOf id = (book.load location.iterator).remainingQty.toNat := by
        rw [remainingOf, present]
        rfl
      dsimp only
      by_cases grows : (book.load location.iterator).remainingQty ≤ newQuantity
      · rw [if_pos grows]
        exact ⟨linked, unfilled, rfl, fun _ _ => rfl, Or.inr ⟨rfl, rfl⟩⟩
      · rw [if_neg grows]
        have smaller : newQuantity.toNat < book.remainingOf id := by
          rw [left]
          rw [UInt32.le_iff_toNat_le, not_le] at grows
          exact grows
        by_cases zero : newQuantity = 0
        · obtain ⟨cancelled, cancelledUnfilled, nextEq, resultEq, orders⟩ :=
            cancelOrder_conserved linked unfilled id
          rw [if_pos zero]
          refine ⟨cancelled, cancelledUnfilled, nextEq, ?_, ?_⟩
          · intro other different
            rw [orders, if_neg different]
          · refine Or.inl ⟨by rw [resultEq, present]; rfl, ?_, smaller⟩
            rw [remainingOf_of_none (by rw [orders, if_pos rfl]), zero]
            rfl
        · rw [if_neg zero]
          have orders : ∀ other, (book.store location.iterator
              { book.load location.iterator with remainingQty := newQuantity }).orderAt other =
                if other = id then
                  some { book.load location.iterator with remainingQty := newQuantity }
                else book.orderAt other := by
            intro other
            rw [orderAt_store linked member
              { book.load location.iterator with remainingQty := newQuantity } rfl, ← idEq]
          refine ⟨linked.store _ _ rfl rfl, ?_, rfl, ?_, Or.inl ⟨rfl, ?_, smaller⟩⟩
          · intro other order orderFound
            rw [orders] at orderFound
            split at orderFound
            · rw [Option.some.injEq] at orderFound
              rw [← orderFound]
              exact zero
            · exact unfilled other order orderFound
          · intro other different
            rw [orders, if_neg different]
          · rw [remainingOf, orders, if_pos rfl]
            rfl

end OrderBook

namespace MatchingEngine

section Books

variable (engine : MatchingEngine)

theorem submitOrder_result (clock : Clock) (symbol : Symbol) (side : Side) {type : OrderType}
    {price : Price} {quantity : Quantity} (accepted : ¬rejects type price quantity = true) :
    (engine.submitOrder clock symbol side type price quantity).2 =
      ((engine.book symbol).acceptOrder clock side type
        (effectivePrice side type price) quantity).2 := by
  simp [submitOrder, accepted]

theorem submitOrder_id (clock : Clock) (symbol : Symbol) (side : Side) {type : OrderType}
    {price : Price} {quantity : Quantity} (accepted : ¬rejects type price quantity = true) :
    (engine.submitOrder clock symbol side type price quantity).2.1 =
      (engine.book symbol).nextOrderId := by
  rw [submitOrder_result engine clock symbol side accepted, OrderBook.acceptOrder_eq]

theorem book_submitOrder (clock : Clock) (symbol other : Symbol) (side : Side)
    (type : OrderType) (price : Price) (quantity : Quantity) :
    (engine.submitOrder clock symbol side type price quantity).1.book other =
      if other = symbol ∧ ¬rejects type price quantity = true then
        ((engine.book symbol).acceptOrder clock side type
          (effectivePrice side type price) quantity).1
      else engine.book other := by
  unfold submitOrder
  by_cases rejected : rejects type price quantity = true
  · simp only [rejected, if_true, not_true_eq_false, and_false, if_false]
    exact book_getOrderBook engine symbol other
  · simp only [rejected, Bool.false_eq_true, if_false, not_false_eq_true, and_true, withBook,
      book_getOrderBook, book_insert]

theorem book_submitOrder_accepted (clock : Clock) (symbol other : Symbol) (side : Side)
    {type : OrderType} {price : Price} {quantity : Quantity}
    (accepted : ¬rejects type price quantity = true) :
    (engine.submitOrder clock symbol side type price quantity).1.book other =
      if other = symbol then
        ((engine.book symbol).acceptOrder clock side type
          (effectivePrice side type price) quantity).1
      else engine.book other := by
  rw [book_submitOrder]
  by_cases same : other = symbol
  · rw [if_pos ⟨same, accepted⟩, if_pos same]
  · rw [if_neg (fun both => same both.1), if_neg same]

theorem book_cancelOrder (symbol other : Symbol) (id : Nat) :
    (engine.cancelOrder symbol id).1.book other =
      (if other = symbol then ((engine.book symbol).cancelOrder id).1
        else engine.book other) ∧
      (engine.cancelOrder symbol id).2 = ((engine.book symbol).cancelOrder id).2 := by
  unfold cancelOrder
  cases found : engine.books.lookup symbol with
  | none =>
      have bookEq : engine.book symbol = .new symbol defaultPoolSize := by
        rw [book, found]
        rfl
      have unchanged : (OrderBook.new symbol defaultPoolSize).cancelOrder id =
          (OrderBook.new symbol defaultPoolSize, false) := by
        simp [OrderBook.cancelOrder, OrderBook.new]
      rw [bookEq, unchanged]
      refine ⟨?_, rfl⟩
      by_cases same : other = symbol
      · rw [if_pos same, same]
        exact bookEq
      · rw [if_neg same]
  | some present =>
      have bookEq : engine.book symbol = present := by
        rw [book, found]
        rfl
      rw [bookEq]
      exact ⟨book_insert engine _ symbol other _, rfl⟩

theorem book_reduceOrder (symbol other : Symbol) (id : Nat) (newQuantity : Quantity) :
    (engine.reduceOrder symbol id newQuantity).1.book other =
      (if other = symbol then ((engine.book symbol).reduceOrder id newQuantity).1
        else engine.book other) ∧
      (engine.reduceOrder symbol id newQuantity).2 =
        ((engine.book symbol).reduceOrder id newQuantity).2 := by
  unfold reduceOrder
  simp only [withBook, book_getOrderBook, book_insert, and_self]

end Books

/-- The shares of one order that one call moves. -/
def flow (engine : MatchingEngine) (symbol : Symbol) (id : Nat) : EngineOp → Flow
  | .submit clock other side type price quantity =>
      if other = symbol ∧ ¬rejects type price quantity = true then
        let result := engine.submitOrder clock other side type price quantity
        { submitted := if id = result.2.1 then quantity.toNat else 0
          traded := tradedQty result.2.2 id
          reduced := 0
          discarded :=
            if id = result.2.1 then
              (engine.book symbol).discardedQty clock side type
                (effectivePrice side type price) quantity
            else 0 }
      else .zero
  | .cancel other orderId =>
      if other = symbol ∧ orderId = id ∧ (engine.cancelOrder other orderId).2 = true then
        { Flow.zero with discarded := (engine.book symbol).remainingOf id }
      else .zero
  | .reduce other orderId newQuantity =>
      if other = symbol ∧ orderId = id ∧
          (engine.reduceOrder other orderId newQuantity).2 = true then
        { Flow.zero with
          reduced := (engine.book symbol).remainingOf id - newQuantity.toNat }
      else .zero

/-- The movements of one order's shares over a run. -/
def flows (engine : MatchingEngine) (symbol : Symbol) (id : Nat) : List EngineOp → Flow
  | [] => .zero
  | op :: ops => (engine.flow symbol id op).add ((engine.step op).1.flows symbol id ops)

/-- Every book is linked and holds no filled order. -/
def Linked (engine : MatchingEngine) : Prop :=
  ∀ symbol, (engine.book symbol).Linked ∧ (engine.book symbol).Unfilled

theorem linked_new : MatchingEngine.new.Linked := by
  intro symbol
  rw [book_new]
  refine ⟨OrderBook.linked_new symbol defaultPoolSize, ?_⟩
  intro id order found
  simp at found

variable {engine : MatchingEngine}

/-- What one call does to the shares of one order. -/
structure StepBalance (engine next : MatchingEngine) (symbol : Symbol) (id : Nat)
    (flow : Flow) : Prop where
  linked : (next.book symbol).Linked ∧ (next.book symbol).Unfilled
  nextLe : (engine.book symbol).nextOrderId ≤ (next.book symbol).nextOrderId
  submitted : flow.submitted ≠ 0 → (engine.book symbol).nextOrderId ≤ id ∧
    id < (next.book symbol).nextOrderId
  balance : flow.submitted + (engine.book symbol).remainingOf id =
    flow.traded + (next.book symbol).remainingOf id + flow.reduced + flow.discarded

theorem stepBalance_of_same {next : MatchingEngine} (linked : engine.Linked) {symbol : Symbol}
    {id : Nat} (same : next.book symbol = engine.book symbol) :
    StepBalance engine next symbol id .zero where
  linked := same ▸ linked symbol
  nextLe := by rw [same]
  submitted := by simp [Flow.zero]
  balance := by
    rw [same]
    simp [Flow.zero]

theorem stepBalance_of_moved {next : MatchingEngine} {symbol : Symbol} {id : Nat} {flow : Flow}
    (linked : (next.book symbol).Linked ∧ (next.book symbol).Unfilled)
    (nextEq : (next.book symbol).nextOrderId = (engine.book symbol).nextOrderId)
    (unsubmitted : flow.submitted = 0)
    (balance : (engine.book symbol).remainingOf id =
      flow.traded + (next.book symbol).remainingOf id + flow.reduced + flow.discarded) :
    StepBalance engine next symbol id flow where
  linked := linked
  nextLe := nextEq.ge
  submitted := fun submitted => absurd unsubmitted submitted
  balance := by rw [unsubmitted, Nat.zero_add, balance]

theorem stepBalance_submit (linked : engine.Linked) (clock : Clock) (other : Symbol)
    (side : Side) (type : OrderType) (price : Price) (quantity : Quantity) (symbol : Symbol)
    (id : Nat) :
    StepBalance engine (engine.step (.submit clock other side type price quantity)).1 symbol id
      (engine.flow symbol id (.submit clock other side type price quantity)) := by
  obtain ⟨bookLinked, bookUnfilled⟩ := linked symbol
  have booksEq := book_submitOrder engine clock other symbol side type price quantity
  by_cases applies : other = symbol ∧ ¬rejects type price quantity = true
  · obtain ⟨rfl, accepted⟩ := applies
    have resultEq := submitOrder_result engine clock other side accepted
    rw [if_pos ⟨rfl, accepted⟩] at booksEq
    obtain ⟨nextLinked, nextUnfilled, nextEq, balance⟩ :=
      OrderBook.acceptOrder_conserved clock side type (effectivePrice side type price)
        quantity bookLinked bookUnfilled
    have idEq := submitOrder_id engine clock other side accepted
    have flowEq : engine.flow other id (.submit clock other side type price quantity) =
        { submitted := if id = (engine.book other).nextOrderId then quantity.toNat else 0
          traded := tradedQty ((engine.book other).acceptOrder clock side type
            (effectivePrice side type price) quantity).2.2 id
          reduced := 0
          discarded :=
            if id = (engine.book other).nextOrderId then
              (engine.book other).discardedQty clock side type
                (effectivePrice side type price) quantity
            else 0 } := by
      rw [flow, if_pos ⟨rfl, accepted⟩]
      dsimp only
      rw [idEq, resultEq]
    have bookEq : (engine.step (.submit clock other side type price quantity)).1.book other =
        ((engine.book other).acceptOrder clock side type
          (effectivePrice side type price) quantity).1 := booksEq
    rw [flowEq]
    constructor
    case linked => rw [bookEq]; exact ⟨nextLinked, nextUnfilled⟩
    case nextLe => rw [bookEq, nextEq]; exact Nat.le_succ _
    case submitted =>
      intro nonzero
      have own : id = (engine.book other).nextOrderId := by
        by_contra different
        simp [different] at nonzero
      rw [bookEq, nextEq, own]
      exact ⟨le_rfl, Nat.lt_succ_self _⟩
    case balance =>
      have balanced := balance id
      rw [bookEq]
      dsimp only
      omega
  · have flowEq : engine.flow symbol id (.submit clock other side type price quantity) =
        .zero := by
      rw [flow, if_neg applies]
    rw [flowEq]
    apply stepBalance_of_same linked
    change (engine.submitOrder clock other side type price quantity).1.book symbol = _
    rw [booksEq, if_neg]
    rintro ⟨same, accepted⟩
    exact applies ⟨same.symm, accepted⟩

theorem stepBalance_cancel (linked : engine.Linked) (other : Symbol) (orderId : Nat)
    (symbol : Symbol) (id : Nat) :
    StepBalance engine (engine.step (.cancel other orderId)).1 symbol id
      (engine.flow symbol id (.cancel other orderId)) := by
  obtain ⟨bookLinked, bookUnfilled⟩ := linked symbol
  obtain ⟨booksEq, resultEq⟩ := book_cancelOrder engine other symbol orderId
  by_cases same : other = symbol
  · subst same
    rw [if_pos rfl] at booksEq
    obtain ⟨nextLinked, nextUnfilled, nextEq, foundEq, orders⟩ :=
      OrderBook.cancelOrder_conserved bookLinked bookUnfilled orderId
    have bookEq : (engine.step (.cancel other orderId)).1.book other =
        ((engine.book other).cancelOrder orderId).1 := booksEq
    have flowEq : engine.flow other id (.cancel other orderId) =
        { Flow.zero with
          discarded := if id = orderId then (engine.book other).remainingOf id else 0 } := by
      rw [flow, resultEq, foundEq]
      by_cases named : id = orderId
      · subst named
        cases found : (engine.book other).orderAt id with
        | none => simp [OrderBook.remainingOf, found, Flow.zero]
        | some order => simp
      · have unnamed : orderId ≠ id := fun eq => named eq.symm
        simp [named, unnamed, Flow.zero]
    rw [flowEq]
    rw [← bookEq] at nextLinked nextUnfilled nextEq
    refine stepBalance_of_moved ⟨nextLinked, nextUnfilled⟩ nextEq rfl ?_
    rw [bookEq]
    by_cases named : id = orderId
    · have gone : ((engine.book other).cancelOrder orderId).1.remainingOf id = 0 :=
        OrderBook.remainingOf_of_none (by rw [orders, if_pos named])
      rw [gone, if_pos named]
      simp [Flow.zero]
    · have kept : ((engine.book other).cancelOrder orderId).1.remainingOf id =
          (engine.book other).remainingOf id :=
        OrderBook.remainingOf_of_orderAt (by rw [orders, if_neg named])
      rw [kept, if_neg named]
      simp [Flow.zero]
  · have flowEq : engine.flow symbol id (.cancel other orderId) = .zero := by
      simp [flow, same]
    rw [flowEq]
    apply stepBalance_of_same linked
    change (engine.cancelOrder other orderId).1.book symbol = _
    rw [booksEq, if_neg fun eq => same eq.symm]

theorem stepBalance_reduce (linked : engine.Linked) (other : Symbol) (orderId : Nat)
    (newQuantity : Quantity) (symbol : Symbol) (id : Nat) :
    StepBalance engine (engine.step (.reduce other orderId newQuantity)).1 symbol id
      (engine.flow symbol id (.reduce other orderId newQuantity)) := by
  obtain ⟨bookLinked, bookUnfilled⟩ := linked symbol
  obtain ⟨booksEq, resultEq⟩ := book_reduceOrder engine other symbol orderId newQuantity
  by_cases same : other = symbol
  · subst same
    rw [if_pos rfl] at booksEq
    obtain ⟨nextLinked, nextUnfilled, nextEq, others, outcome⟩ :=
      OrderBook.reduceOrder_conserved bookLinked bookUnfilled orderId newQuantity
    have bookEq : (engine.step (.reduce other orderId newQuantity)).1.book other =
        ((engine.book other).reduceOrder orderId newQuantity).1 := booksEq
    rw [← bookEq] at nextLinked nextUnfilled nextEq
    by_cases named : orderId = id ∧
        (engine.reduceOrder other orderId newQuantity).2 = true
    · obtain ⟨rfl, done⟩ := named
      have flowEq : engine.flow other orderId (.reduce other orderId newQuantity) =
          { Flow.zero with
            reduced := (engine.book other).remainingOf orderId - newQuantity.toNat } := by
        rw [flow, if_pos ⟨rfl, rfl, done⟩]
      rw [resultEq] at done
      rcases outcome with ⟨-, left, smaller⟩ | ⟨failed, -⟩
      · rw [flowEq]
        refine stepBalance_of_moved ⟨nextLinked, nextUnfilled⟩ nextEq rfl ?_
        rw [bookEq, left]
        simp only [Flow.zero]
        omega
      · rw [failed] at done
        simp at done
    · have flowEq : engine.flow other id (.reduce other orderId newQuantity) = .zero := by
        rw [flow, if_neg fun applies => named applies.2]
      have unchanged : ((engine.book other).reduceOrder orderId newQuantity).1.remainingOf id =
          (engine.book other).remainingOf id := by
        rcases outcome with ⟨done, -⟩ | ⟨-, bookSame⟩
        · apply OrderBook.remainingOf_of_orderAt
          apply others
          intro eq
          exact named ⟨eq.symm, resultEq.trans done⟩
        · rw [bookSame]
      rw [flowEq]
      refine stepBalance_of_moved ⟨nextLinked, nextUnfilled⟩ nextEq rfl ?_
      rw [bookEq, unchanged]
      simp [Flow.zero]
  · have flowEq : engine.flow symbol id (.reduce other orderId newQuantity) = .zero := by
      simp [flow, same]
    rw [flowEq]
    apply stepBalance_of_same linked
    change (engine.reduceOrder other orderId newQuantity).1.book symbol = _
    rw [booksEq, if_neg fun eq => same eq.symm]

theorem step_balance (linked : engine.Linked) (op : EngineOp) (symbol : Symbol) (id : Nat) :
    StepBalance engine (engine.step op).1 symbol id (engine.flow symbol id op) := by
  cases op with
  | submit clock other side type price quantity =>
      exact stepBalance_submit linked clock other side type price quantity symbol id
  | cancel other orderId => exact stepBalance_cancel linked other orderId symbol id
  | reduce other orderId newQuantity =>
      exact stepBalance_reduce linked other orderId newQuantity symbol id

theorem Linked.step (linked : engine.Linked) (op : EngineOp) : (engine.step op).1.Linked :=
  fun symbol => (step_balance linked op symbol 0).linked

theorem Linked.run (linked : engine.Linked) (ops : List EngineOp) :
    (Transition.run MatchingEngine.step engine ops).1.Linked :=
  Transition.run_of_preserved MatchingEngine.Linked (fun _ op linked => linked.step op) linked ops

theorem run_balance (linked : engine.Linked) (ops : List EngineOp) (symbol : Symbol) (id : Nat) :
    StepBalance engine (Transition.run MatchingEngine.step engine ops).1 symbol id
      (engine.flows symbol id ops) := by
  induction ops generalizing engine with
  | nil => exact stepBalance_of_same linked rfl
  | cons op ops ih =>
      have first := step_balance linked op symbol id
      have rest := ih (linked.step op)
      constructor
      case linked => exact rest.linked
      case nextLe => exact first.nextLe.trans rest.nextLe
      case submitted =>
        intro nonzero
        have either : (engine.flow symbol id op).submitted ≠ 0 ∨
            ((engine.step op).1.flows symbol id ops).submitted ≠ 0 := by
          by_contra neither
          rw [not_or, not_not, not_not] at neither
          exact nonzero (by rw [flows, Flow.add, neither.1, neither.2])
        rcases either with inFirst | inRest
        · obtain ⟨atLeast, below⟩ := first.submitted inFirst
          exact ⟨atLeast, below.trans_le rest.nextLe⟩
        · obtain ⟨atLeast, below⟩ := rest.submitted inRest
          exact ⟨first.nextLe.trans atLeast, below⟩
      case balance =>
        have firstBalance := first.balance
        have restBalance := rest.balance
        simp only [flows, Flow.add, Transition.run_cons]
        omega

theorem flows_append (first second : List EngineOp) (symbol : Symbol) (id : Nat) :
    engine.flows symbol id (first ++ second) =
      (engine.flows symbol id first).add
        ((Transition.run MatchingEngine.step engine first).1.flows symbol id second) := by
  induction first generalizing engine with
  | nil => simp [flows, Flow.add, Flow.zero]
  | cons op first ih =>
      rw [List.cons_append, flows, ih, flows, Transition.run_cons]
      simp only [Flow.add, Nat.add_assoc]

/-- An order is submitted once in a run. -/
theorem flows_submitted (linked : engine.Linked) (before after : List EngineOp) (clock : Clock)
    (symbol : Symbol) (side : Side) {type : OrderType} {price : Price} {quantity : Quantity}
    (accepted : ¬rejects type price quantity = true) :
    (engine.flows symbol
        ((Transition.run MatchingEngine.step engine before).1.submitOrder clock symbol side type
          price quantity).2.1
        (before ++ .submit clock symbol side type price quantity :: after)).submitted =
      quantity.toNat := by
  have beforeBalance := run_balance linked before symbol
    ((Transition.run MatchingEngine.step engine before).1.submitOrder clock symbol side type
      price quantity).2.1
  have submitBalance := stepBalance_submit (linked.run before) clock symbol side type price
    quantity symbol
  have afterBalance := run_balance ((linked.run before).step
    (.submit clock symbol side type price quantity)) after symbol
  have idEq := submitOrder_id (Transition.run MatchingEngine.step engine before).1 clock symbol
    side accepted
  rw [flows_append]
  generalize (Transition.run MatchingEngine.step engine before).1 = reached at *
  have own : (reached.flow symbol (reached.submitOrder clock symbol side type price quantity).2.1
      (.submit clock symbol side type price quantity)).submitted = quantity.toNat := by
    simp [flow, accepted]
  have notBefore : (engine.flows symbol
      (reached.submitOrder clock symbol side type price quantity).2.1 before).submitted = 0 := by
    by_contra nonzero
    have below := (beforeBalance.submitted nonzero).2
    omega
  have notAfter : ((reached.step (.submit clock symbol side type price quantity)).1.flows symbol
      (reached.submitOrder clock symbol side type price quantity).2.1 after).submitted = 0 := by
    by_contra nonzero
    have fresh := ((afterBalance _).submitted nonzero).1
    have some : (reached.flow symbol
        (reached.submitOrder clock symbol side type price quantity).2.1
        (.submit clock symbol side type price quantity)).submitted ≠ 0 := by
      rw [own]
      intro zero
      have quantityZero : quantity = 0 := UInt32.toNat_inj.mp zero
      exact accepted (by simp [rejects, quantityZero])
    have used := ((submitBalance _).submitted some).2
    omega
  rw [Flow.add, flows, Flow.add, notBefore, own, notAfter]
  simp

/-- For every order accepted in a run, the submitted quantity is what its
trades report, what is left of it on the book, what reductions took out and
what was discarded.  Every trade of the submission has a positive quantity and
a buyer and a seller on the book it was made on, and takes its quantity from
both. -/
theorem run_shares_conserved (before after : List EngineOp) (clock : Clock) (symbol : Symbol)
    (side : Side) {type : OrderType} {price : Price} {quantity : Quantity}
    (accepted : ¬rejects type price quantity = true) :
    let engine := (Transition.run MatchingEngine.step .new before).1
    let result := engine.submitOrder clock symbol side type price quantity
    let ops := before ++ .submit clock symbol side type price quantity :: after
    let flows := MatchingEngine.new.flows symbol result.2.1 ops
    quantity.toNat = flows.traded +
        ((Transition.run MatchingEngine.step .new ops).1.book symbol).remainingOf result.2.1 +
        flows.reduced + flows.discarded ∧
      (∀ trade ∈ result.2.2, 0 < trade.quantity ∧
        ((engine.book symbol).addOrder side type (effectivePrice side type price) quantity
          (clock 1)).1.Parties trade) ∧
      (∀ id ≠ result.2.1, (engine.book symbol).remainingOf id =
        (result.1.book symbol).remainingOf id + tradedQty result.2.2 id) ∧
      ∀ (incoming resting : Order) (now : Nat),
        (executeMatch incoming resting now).trade.quantity ≤ incoming.remainingQty ∧
          (executeMatch incoming resting now).trade.quantity ≤ resting.remainingQty ∧
          (executeMatch incoming resting now).incoming.remainingQty.toNat +
              (executeMatch incoming resting now).trade.quantity.toNat =
            incoming.remainingQty.toNat ∧
          (executeMatch incoming resting now).resting.remainingQty.toNat +
              (executeMatch incoming resting now).trade.quantity.toNat =
            resting.remainingQty.toNat := by
  intro engine result ops flows
  have submitted : flows.submitted = quantity.toNat :=
    flows_submitted linked_new before after clock symbol side accepted
  have balance := (run_balance linked_new ops symbol result.2.1).balance
  have started : (MatchingEngine.new.book symbol).remainingOf result.2.1 = 0 := by
    rw [book_new]
    exact OrderBook.remainingOf_of_none (OrderBook.orderAt_new _ _ _)
  obtain ⟨bookLinked, bookUnfilled⟩ := linked_new.run before symbol
  have resultEq := submitOrder_result engine clock symbol side accepted
  refine ⟨?_, ?_, ?_, ?_⟩
  · rw [← submitted, ← Nat.add_zero flows.submitted, ← started]
    exact balance
  · intro trade member
    have matched := OrderBook.matched_from clock side type (effectivePrice side type price)
      quantity bookLinked bookUnfilled
    rw [show result.2 = _ from resultEq, OrderBook.acceptOrder_eq] at member
    exact matched.parties trade member
  · intro id different
    have bookEq := book_submitOrder engine clock symbol symbol side type price quantity
    rw [if_pos ⟨rfl, accepted⟩] at bookEq
    rw [show result.2.1 = _ from submitOrder_id engine clock symbol side accepted] at different
    obtain ⟨-, -, -, stepBalance⟩ := OrderBook.acceptOrder_conserved clock side type
      (effectivePrice side type price) quantity bookLinked bookUnfilled
    have balanced := stepBalance id
    rw [if_neg different, if_neg different, Nat.add_zero, Nat.add_zero] at balanced
    rw [show result.1.book symbol = _ from bookEq, show result.2 = _ from resultEq]
    exact balanced
  · intro incoming resting now
    obtain ⟨incomingBalance, restingBalance⟩ := executeMatch_balance incoming resting now
    refine ⟨?_, ?_, incomingBalance, restingBalance⟩
    · rw [UInt32.le_iff_toNat_le]
      omega
    · rw [UInt32.le_iff_toNat_le]
      omega

/-- A bid of ten, reduced to eight, partly sold and then cancelled. -/
theorem run_shares_conserved_cancelled :
    let before : List EngineOp := []
    let after : List EngineOp :=
      [.reduce [65] 1 8, .submit id [65] .sell .ioc (.finite 99) 5, .cancel [65] 1]
    let ops := before ++ .submit id [65] .buy .limit (.finite 100) 10 :: after
    let flows := MatchingEngine.new.flows [65] 1 ops
    (10 : Quantity).toNat = flows.traded +
        ((Transition.run MatchingEngine.step .new ops).1.book [65]).remainingOf 1 +
        flows.reduced + flows.discarded ∧
      (flows.traded, flows.reduced, flows.discarded) = (5, 2, 3) := by
  intro before after ops flows
  refine ⟨?_, by decide +kernel⟩
  have accepted : ¬rejects .limit (.finite 100) 10 = true := by decide +kernel
  have idEq : ((Transition.run MatchingEngine.step .new before).1.submitOrder id [65] .buy .limit
      (.finite 100) 10).2.1 = 1 := by decide +kernel
  have conserved := (run_shares_conserved before after id [65] .buy accepted).1
  rw [idEq] at conserved
  exact conserved

end MatchingEngine

end OrderBookExchange
