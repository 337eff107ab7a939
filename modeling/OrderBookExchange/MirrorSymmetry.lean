import OrderBookExchange.CleanBook
import OrderBookExchange.Ladder

/-!
# Buying and selling mirror each other

Exchange buys with sells and reflect every price in a fixed total.  Better
prices stay better for the other side, prices that meet still meet, and a market
order still reaches every order whose price lies inside the total.  So the two
priority queues of a book trade places, and a reflected run returns the
reflected results.
-/

namespace OrderBookExchange

/-! ### Reflected prices -/

/-- The price at the same distance from the total as the given one is from
zero. -/
def mirrorPrice (total : ℚ) (price : Price) : Price :=
  (Double.finite total).sub price

/-- Strictly between zero and the total. -/
def Inside (total : ℚ) (price : Price) : Prop :=
  Double.lt 0 price = true ∧ price.lt (.finite total) = true

instance (total : ℚ) (price : Price) : Decidable (Inside total price) :=
  inferInstanceAs (Decidable (_ ∧ _))

section Prices

variable (total : ℚ) (first second : Price)

theorem lt_mirrorPrice :
    (mirrorPrice total first).lt (mirrorPrice total second) = second.lt first := by
  cases first <;> cases second <;> try rfl
  next value other =>
    have reflected : total + -value < total + -other ↔ other < value := by
      rw [add_lt_add_iff_left, neg_lt_neg_iff]
    exact decide_eq_decide.mpr reflected

theorem le_mirrorPrice :
    (mirrorPrice total first).le (mirrorPrice total second) = second.le first := by
  cases first <;> cases second <;> try rfl
  next value other =>
    have reflected : total + -value ≤ total + -other ↔ other ≤ value := by
      rw [add_le_add_iff_left, neg_le_neg_iff]
    exact decide_eq_decide.mpr reflected

theorem better_mirrorPrice (buy : Bool) :
    better (!buy) (mirrorPrice total first) (mirrorPrice total second) =
      better buy first second := by
  cases buy <;> exact lt_mirrorPrice total _ _

theorem mirrorPrice_injective : Function.Injective (mirrorPrice total) := by
  intro first second same
  cases first <;> cases second <;>
    simp_all [mirrorPrice, Double.sub, Double.neg, Double.add]

variable {total} {price : Price}

theorem Inside.exists_value (inside : Inside total price) :
    ∃ value, price = .finite value ∧ 0 < value ∧ value < total := by
  obtain ⟨positive, below⟩ := inside
  cases price with
  | finite value => exact ⟨value, rfl, of_decide_eq_true positive, of_decide_eq_true below⟩
  | nan => simp [Double.lt] at positive
  | negInf => simp [Double.lt] at positive
  | posInf => simp [Double.lt] at below

theorem Inside.mirrorPrice (inside : Inside total price) :
    Inside total (mirrorPrice total price) := by
  obtain ⟨value, rfl, positive, below⟩ := inside.exists_value
  refine ⟨decide_eq_true ?_, decide_eq_true ?_⟩ <;> linarith

theorem Inside.zero_le (inside : Inside total price) : Double.le 0 price = true := by
  obtain ⟨value, rfl, positive, -⟩ := inside.exists_value
  exact decide_eq_true positive.le

theorem Inside.le_maxFinite (inside : Inside total price) (atMost : total ≤ Double.maxFinite) :
    price.le (.finite Double.maxFinite) = true := by
  obtain ⟨value, rfl, -, below⟩ := inside.exists_value
  exact decide_eq_true (below.le.trans atMost)

theorem Inside.not_le_zero (inside : Inside total price) : price.le 0 = false := by
  obtain ⟨value, rfl, positive, -⟩ := inside.exists_value
  exact decide_eq_false (not_le.mpr positive)

end Prices

/-! ### Reflected orders, calls and results -/

def Side.mirror : Side → Side
  | .buy => .sell
  | _ => .buy

@[simp]
theorem Side.isBuy_mirror (side : Side) : side.mirror.isBuy = !side.isBuy := by
  cases side <;> rfl

def Order.mirror (total : ℚ) (order : Order) : Order :=
  { order with side := order.side.mirror, price := mirrorPrice total order.price }

def Trade.mirror (total : ℚ) (trade : Trade) : Trade :=
  { trade with
    buyOrderId := trade.sellOrderId
    sellOrderId := trade.buyOrderId
    price := mirrorPrice total trade.price }

def EngineOutput.mirror (total : ℚ) : EngineOutput → EngineOutput
  | .submitted id trades => .submitted id (trades.map (Trade.mirror total))
  | output => output

/-- A market order keeps its price field, which nothing reads. -/
def EngineOp.mirror (total : ℚ) : EngineOp → EngineOp
  | .submit clock symbol side type price quantity =>
      .submit clock symbol side.mirror type
        (if type = .market then price else mirrorPrice total price) quantity
  | op => op

/-- The call brings no price of its own, or one inside the total. -/
def EngineOp.PricedInside (total : ℚ) : EngineOp → Prop
  | .submit _ _ _ type price _ => type ≠ .market → Inside total price
  | _ => True

/-! ### Matching -/

/-- The counterpart of an incoming order in the reflected run.  Its price need
not be the reflected one, as long as it reaches the same orders. -/
structure Counters (total : ℚ) (queue : List Order) (incoming counter : Order) : Prop where
  same : counter = { incoming.mirror total with price := counter.price }
  reaches : ∀ resting ∈ queue,
    priceMatch counter (resting.mirror total) = priceMatch incoming resting

section Matching

variable {total : ℚ} {incoming counter : Order}

theorem executeMatch_mirror
    (same : counter = { incoming.mirror total with price := counter.price })
    (resting : Order) (now : Nat) :
    executeMatch counter (resting.mirror total) now =
      { incoming := { (executeMatch incoming resting now).incoming.mirror total with
          price := counter.price }
        resting := (executeMatch incoming resting now).resting.mirror total
        trade := (executeMatch incoming resting now).trade.mirror total } := by
  rw [same]
  cases buys : incoming.side.isBuy <;>
    simp [executeMatch, Order.mirror, Trade.mirror, buys]

theorem Counters.afterMatch {resting : Order} {rest : List Order} (now : Nat)
    (counters : Counters total (resting :: rest) incoming counter) :
    Counters total rest (executeMatch incoming resting now).incoming
      { (executeMatch incoming resting now).incoming.mirror total with
        price := counter.price } where
  same := rfl
  reaches := by
    intro later member
    have reached := counters.reaches later (List.mem_cons_of_mem resting member)
    rw [counters.same] at reached
    exact reached

theorem sweep_mirror (clock : Clock) (count : Nat) {queue : List Order}
    (counters : Counters total queue incoming counter) :
    sweep clock count counter (queue.map (Order.mirror total)) =
      { trades := (sweep clock count incoming queue).trades.map (Trade.mirror total)
        incoming := { (sweep clock count incoming queue).incoming.mirror total with
          price := counter.price }
        queue := (sweep clock count incoming queue).queue.map (Order.mirror total) } := by
  induction queue generalizing count incoming counter with
  | nil =>
      simp only [List.map_nil, sweep]
      exact congrArg (fun order => Sweep.mk [] order []) counters.same
  | cons resting rest ih =>
      have remaining : counter.remainingQty = incoming.remainingQty := by
        rw [counters.same]
        rfl
      have reached := counters.reaches resting List.mem_cons_self
      have matched := executeMatch_mirror counters.same resting (clock count)
      have later := ih (count + 1) (counters.afterMatch (clock count))
      rw [List.map_cons, sweep, sweep, remaining, reached, matched]
      split
      · exact congrArg (fun order => Sweep.mk [] order _) counters.same
      · split
        · dsimp only
          change (if (executeMatch incoming resting (clock count)).resting.isFilled = true
            then _ else _) = _
          split
          · rw [later]
            rfl
          · rfl
        · exact congrArg (fun order => Sweep.mk [] order _) counters.same

theorem priceMatch_mirror (total : ℚ) (incoming resting : Order) :
    priceMatch (incoming.mirror total) (resting.mirror total) = priceMatch incoming resting := by
  unfold priceMatch Order.mirror
  rw [Side.isBuy_mirror, le_mirrorPrice, le_mirrorPrice]
  cases incoming.side.isBuy <;> rfl

theorem priceMatch_of_market {resting : Order} (price : Price)
    (atMost : total ≤ Double.maxFinite)
    (market : incoming.price = effectivePrice incoming.side .market price)
    (inside : Inside total resting.price) : priceMatch incoming resting = true := by
  unfold priceMatch
  rw [market, effectivePrice, if_pos rfl]
  split
  · exact inside.le_maxFinite atMost
  · exact inside.zero_le

/-- An order inside the total is rejected for its quantity only. -/
theorem rejects_mirror {type : OrderType} {price : Price} (quantity : Quantity)
    (priced : type ≠ .market → Inside total price) :
    rejects type (if type = .market then price else mirrorPrice total price) quantity =
      rejects type price quantity := by
  by_cases market : type = .market
  · rw [if_pos market]
  · have inside := priced market
    rw [if_neg market, rejects, rejects, inside.not_le_zero, inside.mirrorPrice.not_le_zero]

end Matching

/-! ### Queues -/

section Queues

variable (total : ℚ) (queue : List Order)

theorem insertOrder_mirror (buy : Bool) (order : Order) :
    insertOrder (!buy) (order.mirror total) (queue.map (Order.mirror total)) =
      (insertOrder buy order queue).map (Order.mirror total) := by
  unfold insertOrder
  symm
  apply List.map_orderedInsert
  · intro other _
    rw [Order.mirror, Order.mirror, better_mirrorPrice]
  · intro other _
    rw [Order.mirror, Order.mirror, better_mirrorPrice]

theorem dropOrder_mirror (id : Nat) :
    dropOrder id (queue.map (Order.mirror total)) =
      (dropOrder id queue).map (Order.mirror total) := by
  unfold dropOrder
  rw [List.filter_map]
  rfl

theorem replaceOrder_mirror (order : Order) :
    replaceOrder (order.mirror total) (queue.map (Order.mirror total)) =
      (replaceOrder order queue).map (Order.mirror total) := by
  unfold replaceOrder
  rw [List.map_map, List.map_map]
  apply List.map_congr_left
  intro other _
  exact (apply_ite (Order.mirror total) (other.id = order.id) order other).symm

theorem find?_mirror (id : Nat) :
    (queue.map (Order.mirror total)).find? (fun order => order.id = id) =
      (queue.find? fun order => order.id = id).map (Order.mirror total) := by
  rw [List.find?_map]
  rfl

end Queues

namespace PriorityBook

/-- The book with its sides exchanged and its prices reflected. -/
def mirror (total : ℚ) (book : PriorityBook) : PriorityBook where
  queue := fun buy => (book.queue (!buy)).map (Order.mirror total)
  nextOrderId := book.nextOrderId

def AllInside (total : ℚ) (book : PriorityBook) : Prop :=
  ∀ buy, ∀ order ∈ book.queue buy, Inside total order.price

section Operations

variable {total : ℚ} {book : PriorityBook}

theorem mirror_drop (id : Nat) : (book.mirror total).drop id = (book.drop id).mirror total := by
  ext1
  · funext buy
    exact dropOrder_mirror total (book.queue (!buy)) id
  · rfl

theorem mirror_replace (order : Order) :
    (book.mirror total).replace (order.mirror total) = (book.replace order).mirror total := by
  ext1
  · funext buy
    exact replaceOrder_mirror total (book.queue (!buy)) order
  · rfl

/-- The sides are searched in the other order, which makes no difference as an
identifier names one order only. -/
theorem Ordered.find?_mirror (ordered : book.Ordered) (id : Nat) :
    (book.mirror total).find? id = (book.find? id).map (Order.mirror total) := by
  rw [find?, find?, List.find?_append, List.find?_append]
  change (((book.queue false).map (Order.mirror total)).find? _).or
    (((book.queue true).map (Order.mirror total)).find? _) = _
  rw [OrderBookExchange.find?_mirror, OrderBookExchange.find?_mirror]
  cases bidFound : (book.queue true).find? (fun order => order.id = id) with
  | none => simp
  | some bid =>
      cases askFound : (book.queue false).find? (fun order => order.id = id) with
      | none => rfl
      | some ask =>
          have bidId : bid.id = id := by simpa using List.find?_some bidFound
          have askId : ask.id = id := by simpa using List.find?_some askFound
          have same : bid = ask :=
            ordered.unique true false bid (List.mem_of_find?_eq_some bidFound) ask
              (List.mem_of_find?_eq_some askFound) (bidId.trans askId.symm)
          rw [same]
          rfl

theorem Ordered.mirror_cancelOrder (ordered : book.Ordered) (id : Nat) :
    (book.mirror total).cancelOrder id =
      ((book.cancelOrder id).1.mirror total, (book.cancelOrder id).2) := by
  rw [cancelOrder, cancelOrder, ordered.find?_mirror]
  cases book.find? id with
  | none => rfl
  | some order => exact congrArg (fun dropped => (dropped, true)) (mirror_drop id)

theorem Ordered.mirror_reduceOrder (ordered : book.Ordered) (id : Nat)
    (newQuantity : Quantity) :
    (book.mirror total).reduceOrder id newQuantity =
      ((book.reduceOrder id newQuantity).1.mirror total,
        (book.reduceOrder id newQuantity).2) := by
  rw [reduceOrder, reduceOrder, ordered.find?_mirror]
  cases book.find? id with
  | none => rfl
  | some order =>
      have remaining : (order.mirror total).remainingQty = order.remainingQty := rfl
      simp only [Option.map_some, remaining]
      split
      · rfl
      · split
        · exact congrArg (fun dropped => (dropped, true)) (mirror_drop id)
        · exact congrArg (fun replaced => (replaced, true))
            (mirror_replace { order with remainingQty := newQuantity })

/-- A submission, given the counterpart of the submitted order. -/
theorem mirror_acceptOrder {clock : Clock} {side : Side} {type : OrderType}
    {price counterPrice : Price} {quantity : Quantity}
    (counters : Counters total (book.queue (!side.isBuy))
      (book.incoming clock side type price quantity)
      ((book.mirror total).incoming clock side.mirror type counterPrice quantity))
    (reflected : type ≠ .market → counterPrice = mirrorPrice total price) :
    (book.mirror total).acceptOrder clock side.mirror type counterPrice quantity =
      ((book.acceptOrder clock side type price quantity).1.mirror total,
        (book.acceptOrder clock side type price quantity).2.1,
        (book.acceptOrder clock side type price quantity).2.2.map (Trade.mirror total)) := by
  have swept := sweep_mirror clock 2 counters
  have matched : (book.mirror total).matching clock side.mirror type counterPrice quantity =
      sweep clock 2 ((book.mirror total).incoming clock side.mirror type counterPrice quantity)
        ((book.queue (!side.isBuy)).map (Order.mirror total)) := by
    rw [matching, mirror, Side.isBuy_mirror, Bool.not_not]
  have incomingPrice : (book.matching clock side type price quantity).incoming.price = price := by
    rw [matching_incoming]
    rfl
  rw [acceptOrder, matched, swept]
  refine Prod.ext (PriorityBook.ext ?_ rfl) rfl
  funext buy
  have exchanged : buy = side.mirror.isBuy ↔ (!buy) = side.isBuy := by
    rw [Side.isBuy_mirror]
    cases buy <;> cases side.isBuy <;> decide
  by_cases own : (!buy) = side.isBuy
  · -- what is left of the order joins its own side, which is the opposite one here
    simp only [acceptOrder, mirror, if_pos own, if_pos (exchanged.mpr own)]
    change (if rests type (book.matching clock side type price quantity).incoming = true
      then _ else _) = _
    split
    · next resting =>
        have notMarket : type ≠ .market := by
          rintro rfl
          simp [rests] at resting
        rw [← insertOrder_mirror, Bool.not_not, reflected notMarket]
        exact congrArg (fun own => insertOrder buy
          { (book.remainder clock side type price quantity).mirror total with
            price := mirrorPrice total own }
          ((book.queue (!buy)).map (Order.mirror total))) incomingPrice.symm
    · rfl
  · simp only [acceptOrder, mirror, if_neg own, if_neg fun same => own (exchanged.mp same)]
    rfl

theorem AllInside.counters (inside : book.AllInside total) (atMost : total ≤ Double.maxFinite)
    (clock : Clock) (side : Side) (type : OrderType) (price : Price) (quantity : Quantity) :
    Counters total (book.queue (!side.isBuy))
      (book.incoming clock side type (effectivePrice side type price) quantity)
      ((book.mirror total).incoming clock side.mirror type
        (effectivePrice side.mirror type
          (if type = .market then price else mirrorPrice total price)) quantity) where
  same := rfl
  reaches := by
    intro resting member
    have restingInside := inside _ resting member
    by_cases market : type = .market
    · subst market
      rw [priceMatch_of_market price atMost rfl restingInside.mirrorPrice,
        priceMatch_of_market price atMost rfl restingInside]
    · have reached := priceMatch_mirror total
        (book.incoming clock side type price quantity) resting
      rw [if_neg market, effectivePrice, effectivePrice, if_neg market, if_neg market]
      exact reached

theorem AllInside.drop (inside : book.AllInside total) (id : Nat) :
    (book.drop id).AllInside total :=
  fun buy order member => inside buy order (mem_dropOrder.mp member).1

theorem AllInside.cancelOrder (inside : book.AllInside total) (id : Nat) :
    (book.cancelOrder id).1.AllInside total := by
  unfold PriorityBook.cancelOrder
  split
  · exact inside
  · exact inside.drop id

theorem AllInside.reduceOrder (inside : book.AllInside total) (id : Nat)
    (newQuantity : Quantity) : (book.reduceOrder id newQuantity).1.AllInside total := by
  unfold PriorityBook.reduceOrder
  split
  · exact inside
  · next order found =>
      obtain ⟨-, orderBuy, orderMem⟩ := mem_of_find? found
      split
      · exact inside
      · split
        · exact inside.drop id
        · intro buy updated member
          obtain ⟨other, otherMem, rfl⟩ := List.mem_map.mp member
          split
          · exact inside orderBuy order orderMem
          · exact inside buy other otherMem

theorem AllInside.acceptOrder (inside : book.AllInside total) (clock : Clock) (side : Side)
    {type : OrderType} {price : Price} (quantity : Quantity)
    (priced : type ≠ .market → Inside total price) :
    (book.acceptOrder clock side type (effectivePrice side type price) quantity).1.AllInside
      total := by
  intro buy order member
  rcases mem_queue_acceptOrder member with ⟨-, rfl, resting⟩ | ⟨-, old⟩ | ⟨-, swept⟩
  · have notMarket : type ≠ .market := by
      rintro rfl
      simp [rests] at resting
    rw [remainder, matching_incoming, effectivePrice, if_neg notMarket]
    exact priced notMarket
  · exact inside buy order old
  · obtain ⟨older, olderMem, shrunk⟩ := sweep_queue_shrunk clock swept
    rw [shrunk.same]
    exact inside _ older olderMem

end Operations

end PriorityBook

namespace PriorityExchange

def mirror (total : ℚ) (books : PriorityExchange) : PriorityExchange :=
  fun symbol => (books symbol).mirror total

def AllInside (total : ℚ) (books : PriorityExchange) : Prop :=
  ∀ symbol, (books symbol).AllInside total

variable {total : ℚ} {books : PriorityExchange}

theorem mirror_update (symbol : Symbol) (book : PriorityBook) :
    mirror total (Function.update books symbol book) =
      Function.update (books.mirror total) symbol (book.mirror total) :=
  Function.comp_update (PriorityBook.mirror total) books symbol book

theorem AllInside.update (inside : books.AllInside total) (symbol : Symbol)
    {book : PriorityBook} (bookInside : book.AllInside total) :
    AllInside total (Function.update books symbol book) := by
  intro other
  by_cases same : other = symbol
  · subst same
    rw [Function.update_self]
    exact bookInside
  · rw [Function.update_of_ne same]
    exact inside other

theorem AllInside.step (inside : books.AllInside total) {op : EngineOp}
    (priced : op.PricedInside total) : AllInside total (books.step op).1 := by
  cases op with
  | submit clock symbol side type price quantity =>
      by_cases rejected : rejects type price quantity = true
      · rw [step_submit_of_rejects _ _ _ _ rejected]
        exact inside
      · rw [step_submit_of_accepts _ _ _ _ rejected]
        exact inside.update symbol ((inside symbol).acceptOrder clock side quantity priced)
  | cancel symbol orderId => exact inside.update symbol ((inside symbol).cancelOrder orderId)
  | reduce symbol orderId newQuantity =>
      exact inside.update symbol ((inside symbol).reduceOrder orderId newQuantity)

/-- One reflected call on the reflected books. -/
theorem mirror_step (ordered : ∀ symbol, (books symbol).Ordered) (inside : books.AllInside total)
    (atMost : total ≤ Double.maxFinite) {op : EngineOp} (priced : op.PricedInside total) :
    (books.mirror total).step (op.mirror total) =
      ((books.step op).1.mirror total, (books.step op).2.mirror total) := by
  cases op with
  | submit clock symbol side type price quantity =>
      have sameRejects := rejects_mirror quantity priced
      rw [EngineOp.mirror]
      by_cases rejected : rejects type price quantity = true
      · rw [step_submit_of_rejects _ _ _ _ rejected,
          step_submit_of_rejects _ _ _ _ (sameRejects.trans rejected)]
        rfl
      · have accepted : (books.mirror total symbol).acceptOrder clock side.mirror type _ quantity =
            _ := PriorityBook.mirror_acceptOrder
          ((inside symbol).counters atMost clock side type price quantity)
          (fun notMarket => by simp [effectivePrice, notMarket])
        rw [step_submit_of_accepts _ _ _ _ rejected,
          step_submit_of_accepts _ _ _ _ (sameRejects ▸ rejected), mirror_update, accepted]
        rfl
  | cancel symbol orderId =>
      have cancelled : (books.mirror total symbol).cancelOrder orderId = _ :=
        (ordered symbol).mirror_cancelOrder orderId
      change (books.mirror total).step (.cancel symbol orderId) = _
      rw [step_cancel, step_cancel, mirror_update, cancelled]
      rfl
  | reduce symbol orderId newQuantity =>
      have reduced : (books.mirror total symbol).reduceOrder orderId newQuantity = _ :=
        (ordered symbol).mirror_reduceOrder orderId newQuantity
      change (books.mirror total).step (.reduce symbol orderId newQuantity) = _
      rw [step_reduce, step_reduce, mirror_update, reduced]
      rfl

end PriorityExchange

/-! ### Levels -/

namespace OrderBook

variable {left right : OrderBook}

theorem levels_mirror (leftValid : left.Valid) (rightValid : right.Valid) {total : ℚ}
    (reflected : right.view = left.view.mirror total) (buy : Bool) :
    right.contents.levels (!buy) =
      (left.contents.levels buy).map
        (Prod.map (mirrorPrice total) (List.map (Order.mirror total))) := by
  have queues : right.queue (!buy) = (left.queue buy).map (Order.mirror total) := by
    have sameQueue := congrArg (fun book => book.queue (!buy)) reflected
    rw [PriorityBook.mirror] at sameQueue
    simpa using sameQueue
  exact leftValid.levels_of_queue rightValid (mirrorPrice_injective total) (fun _ => rfl) queues

end OrderBook

/-! ### Runs -/

theorem EngineOp.PricedInside.nanFree {total : ℚ} {op : EngineOp}
    (priced : op.PricedInside total) : op.NanFree ∧ (op.mirror total).NanFree := by
  cases op with
  | submit clock symbol side type price quantity =>
      by_cases market : type = .market
      · exact ⟨Or.inl market, Or.inl market⟩
      · obtain ⟨value, rfl, -⟩ := (priced market).exists_value
        refine ⟨Or.inr (by simp), Or.inr ?_⟩
        rw [if_neg market]
        simp [mirrorPrice, Double.sub, Double.neg, Double.add]
  | cancel symbol orderId => exact ⟨trivial, trivial⟩
  | reduce symbol orderId newQuantity => exact ⟨trivial, trivial⟩

namespace MatchingEngine

/-- The books of two engines are reflections of each other. -/
structure Mirrored (total : ℚ) (left right : MatchingEngine) : Prop where
  leftValid : left.Valid
  rightValid : right.Valid
  reflected : right.view = left.view.mirror total
  inside : left.view.AllInside total

variable {total : ℚ}

theorem mirrored_new : Mirrored total new new where
  leftValid := valid_new
  rightValid := valid_new
  reflected := by
    rw [view_new]
    rfl
  inside := by
    rw [view_new]
    intro symbol buy order member
    cases member

theorem Mirrored.step {left right : MatchingEngine} (mirrored : Mirrored total left right)
    (atMost : total ≤ Double.maxFinite) {op : EngineOp} (priced : op.PricedInside total) :
    Mirrored total (left.step op).1 (right.step (op.mirror total)).1 ∧
      (left.step op).2.mirror total = (right.step (op.mirror total)).2 := by
  obtain ⟨leftFree, rightFree⟩ := priced.nanFree
  obtain ⟨leftValid, leftView, leftOutput⟩ := step_refines mirrored.leftValid leftFree
  obtain ⟨rightValid, rightView, rightOutput⟩ := step_refines mirrored.rightValid rightFree
  have ordered : ∀ symbol, (left.view symbol).Ordered :=
    fun symbol => (mirrored.leftValid symbol).ordered
  have stepped := PriorityExchange.mirror_step ordered mirrored.inside atMost priced
  rw [mirrored.reflected, stepped] at rightView rightOutput
  refine ⟨⟨leftValid, rightValid, ?_, ?_⟩, ?_⟩
  · rw [rightView, leftView]
  · rw [leftView]
    exact mirrored.inside.step priced
  · rw [rightOutput, leftOutput]

/-- A run whose prices all lie inside the total, next to the run that exchanges
buys with sells and reflects the prices.  It returns the same identifiers and
results, and the same trades with their parties exchanged and their prices
reflected.  The bids of one book are the asks of the other at the reflected
prices, level by level and order by order. -/
theorem run_mirror (total : ℚ) (atMost : total ≤ Double.maxFinite) (ops : List EngineOp)
    (priced : ∀ op ∈ ops, op.PricedInside total) :
    let original := Transition.run step new ops
    let reflected := Transition.run step new (ops.map (EngineOp.mirror total))
    reflected.2 = original.2.map (EngineOutput.mirror total) ∧
      ∀ symbol buy, (reflected.1.book symbol).contents.levels (!buy) =
        ((original.1.book symbol).contents.levels buy).map
          (Prod.map (mirrorPrice total) (List.map (Order.mirror total))) := by
  intro original reflected
  have simulates : ∀ (left right : MatchingEngine) (op : EngineOp), Mirrored total left right →
      op.PricedInside total →
        Mirrored total (left.step op).1 (right.step (op.mirror total)).1 ∧
          (left.step op).2.mirror total = id (right.step (op.mirror total)).2 :=
    fun _ _ _ mirrored opPriced => mirrored.step atMost opPriced
  obtain ⟨mirrored, outputs⟩ := Transition.run_simulation simulates mirrored_new
    (Transition.along_of_forall priced new)
  rw [List.map_id] at outputs
  have renamed : reflected =
      Transition.run (fun engine op => engine.step (op.mirror total)) new ops :=
    Transition.run_map _ _ _
  rw [renamed]
  refine ⟨outputs.symm, ?_⟩
  intro symbol buy
  exact OrderBook.levels_mirror (mirrored.leftValid symbol) (mirrored.rightValid symbol)
    (congrFun mirrored.reflected symbol) buy

/-- A bid at 40 that is reduced and then hit by a market order, reflected in
100. -/
theorem run_mirror_hit :
    let ops : List EngineOp :=
      [.submit id [65] .buy .limit (.finite 40) 10, .reduce [65] 1 8,
        .submit id [65] .sell .market 0 3]
    (Transition.run step new (ops.map (EngineOp.mirror 100))).2 =
      [.submitted 1 [], .reduced true, .submitted 2 [⟨2, 1, .finite 60, 3, 2⟩]] := by
  intro ops
  have atMost : (100 : ℚ) ≤ Double.maxFinite := by decide +kernel
  have priced : ∀ op ∈ ops, op.PricedInside 100 := by
    simp only [ops, List.forall_mem_cons, EngineOp.PricedInside]
    exact ⟨fun _ => by decide +kernel, trivial, by simp, by simp⟩
  rw [(run_mirror 100 atMost ops priced).1]
  decide +kernel

end MatchingEngine

end OrderBookExchange
