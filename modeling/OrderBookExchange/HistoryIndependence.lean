import OrderBookExchange.ShareLedger
import OrderBookExchange.ShelvedBook

/-!
# Cancels and reductions leave no trace

Levels of a book are created, emptied, erased and created again, and orders
leave its queues anywhere.  What is left is the same as if the orders still on
the book had been added one after the other and nothing else had happened.  The
reason is that a valid book is determined by its index: the queues are sorted
by price and identifier, and the levels are the queues cut at the prices.
-/

namespace OrderBookExchange

/-- A call of the book's own interface. -/
inductive BookOp where
  | add (side : Side) (type : OrderType) (price : Price) (quantity : Quantity) (now : Nat)
  | cancel (orderId : Nat)
  | reduce (orderId : Nat) (newQuantity : Quantity)

/-- No order is added at NaN. -/
def BookOp.Num : BookOp → Prop
  | .add _ _ price _ _ => price ≠ .nan
  | .cancel _ => True
  | .reduce _ _ => True

/-- An `add_order` call with the identifier it gave out. -/
structure Addition where
  id : Nat
  side : Side
  type : OrderType
  price : Price
  quantity : Quantity
  now : Nat

/-- The order an addition puts on the book. -/
def Addition.order (addition : Addition) : Order :=
  .new addition.id addition.side addition.type addition.price addition.quantity addition.now

/-- The additions among some calls, numbered from `next` on. -/
def additions : Nat → List BookOp → List Addition
  | _, [] => []
  | next, .add side type price quantity now :: ops =>
      ⟨next, side, type, price, quantity, now⟩ :: additions (next + 1) ops
  | next, .cancel _ :: ops => additions next ops
  | next, .reduce _ _ :: ops => additions next ops

/-- An order as if it had been added with what it has left. -/
def Order.asAdded (order : Order) : Order :=
  { order with quantity := order.remainingQty }

theorem additions_later {next : Nat} {ops : List BookOp} {addition : Addition}
    (member : addition ∈ additions next ops) : next ≤ addition.id := by
  induction ops generalizing next with
  | nil => cases member
  | cons op ops induction =>
      cases op with
      | add side type price quantity now =>
          rcases List.mem_cons.mp member with rfl | later
          · exact Nat.le_refl next
          · exact (Nat.le_succ next).trans (induction later)
      | cancel orderId => exact induction member
      | reduce orderId newQuantity => exact induction member

theorem additions_increasing (next : Nat) (ops : List BookOp) :
    (additions next ops).Pairwise fun first second => first.id < second.id := by
  induction ops generalizing next with
  | nil => exact List.Pairwise.nil
  | cons op ops induction =>
      cases op with
      | add side type price quantity now =>
          exact List.pairwise_cons.mpr
            ⟨fun _ later => additions_later later, induction (next + 1)⟩
      | cancel orderId => exact induction next
      | reduce orderId newQuantity => exact induction next

theorem additions_num {next : Nat} {ops : List BookOp} (num : ∀ op ∈ ops, op.Num)
    {addition : Addition} (member : addition ∈ additions next ops) : addition.price ≠ .nan := by
  induction ops generalizing next with
  | nil => cases member
  | cons op ops induction =>
      have laterNum : ∀ other ∈ ops, other.Num :=
        fun other later => num other (List.mem_cons_of_mem op later)
      cases op with
      | add side type price quantity now =>
          rcases List.mem_cons.mp member with rfl | later
          · exact num (.add side type price quantity now) List.mem_cons_self
          · exact induction laterNum later
      | cancel orderId => exact induction laterNum member
      | reduce orderId newQuantity => exact induction laterNum member

theorem Prior.not_prior {buy : Bool} {first second : Order} (prior : Prior buy first second)
    (firstNum : first.price ≠ .nan) (secondNum : second.price ≠ .nan) :
    ¬Prior buy second first := by
  have irrefl := (better_strictOn buy).irrefl firstNum
  rintro (backward | ⟨samePrice, backward⟩)
  · rcases prior with forward | ⟨samePrice, -⟩
    · rw [(better_strictOn buy).asymm firstNum secondNum forward] at backward
      cases backward
    · rw [← samePrice, irrefl] at backward
      cases backward
  · rcases prior with forward | ⟨-, forward⟩
    · rw [samePrice, irrefl] at forward
      cases forward
    · exact Nat.lt_asymm forward backward

namespace OrderBook

/-- The book after a call. -/
def call (book : OrderBook) : BookOp → OrderBook
  | .add side type price quantity now => (book.addOrder side type price quantity now).1
  | .cancel orderId => (book.cancelOrder orderId).1
  | .reduce orderId newQuantity => (book.reduceOrder orderId newQuantity).1

/-- Perform an addition again, under the identifier it had. -/
def addAgain (book : OrderBook) (addition : Addition) : OrderBook :=
  ({ book with nextOrderId := addition.id }.addOrder addition.side addition.type addition.price
    addition.quantity addition.now).1

/-- The additions whose orders are on the book, with what these have left. -/
def survivors (book : OrderBook) (additions : List Addition) : List Addition :=
  additions.filterMap fun addition =>
    (book.orderAt addition.id).map fun order => { addition with quantity := order.remainingQty }

variable {book : OrderBook}

/-! ### Where the orders of a book come from -/

theorem Valid.call (valid : book.Valid) {op : BookOp} (num : op.Num) : (book.call op).Valid := by
  cases op with
  | add side type price quantity now => exact valid.addOrder side type quantity now num
  | cancel orderId => exact (cancelOrder_refines valid orderId).1
  | reduce orderId newQuantity => exact (reduceOrder_refines valid orderId newQuantity).1

theorem Valid.calls (valid : book.Valid) {ops : List BookOp} (num : ∀ op ∈ ops, op.Num) :
    (ops.foldl OrderBook.call book).Valid := by
  induction ops generalizing book with
  | nil => exact valid
  | cons op ops induction =>
      exact induction (valid.call (num op List.mem_cons_self))
        fun other later => num other (List.mem_cons_of_mem op later)

theorem nextOrderId_cancelOrder (book : OrderBook) (orderId : Nat) :
    (book.cancelOrder orderId).1.nextOrderId = book.nextOrderId := by
  unfold cancelOrder
  split
  · rfl
  · rw [nextOrderId_unlink]
    rfl

theorem nextOrderId_reduceOrder (book : OrderBook) (orderId : Nat) (newQuantity : Quantity) :
    (book.reduceOrder orderId newQuantity).1.nextOrderId = book.nextOrderId := by
  unfold reduceOrder
  split
  · rfl
  · dsimp only
    split
    · rfl
    · split
      · exact nextOrderId_cancelOrder book orderId
      · rfl

/-- The additions are numbered the way the book numbers them. -/
theorem additions_call (book : OrderBook) (op : BookOp) (ops : List BookOp) :
    additions book.nextOrderId (op :: ops) =
      additions book.nextOrderId [op] ++ additions (book.call op).nextOrderId ops := by
  cases op with
  | add side type price quantity now => rfl
  | cancel orderId =>
      rw [call, nextOrderId_cancelOrder]
      rfl
  | reduce orderId newQuantity =>
      rw [call, nextOrderId_reduceOrder]
      rfl

/-- An order on the book after a call was there before or has been added, and at
most what it has left has changed. -/
theorem Valid.orderAt_call (valid : book.Valid) {op : BookOp} {id : Nat} {order : Order}
    (found : (book.call op).orderAt id = some order) :
    ∃ older, order = { older with remainingQty := order.remainingQty } ∧
      (book.orderAt id = some older ∨
        ∃ addition ∈ additions book.nextOrderId [op],
          addition.id = id ∧ older = addition.order) := by
  cases op with
  | add side type price quantity now =>
      change (book.addOrder side type price quantity now).1.orderAt id = some order at found
      rw [orderAt_addOrder side type price quantity now valid.linked] at found
      split at found
      · next isNew =>
          exact ⟨order, rfl, Or.inr ⟨⟨book.nextOrderId, side, type, price, quantity, now⟩,
            List.mem_cons_self, isNew.symm, (Option.some.inj found).symm⟩⟩
      · exact ⟨order, rfl, Or.inl found⟩
  | cancel orderId =>
      change (book.cancelOrder orderId).1.orderAt id = some order at found
      rw [orderAt_cancelOrder valid.linked] at found
      split at found
      · cases found
      · exact ⟨order, rfl, Or.inl found⟩
  | reduce orderId newQuantity =>
      obtain ⟨older, present, rewritten⟩ := orderAt_reduceOrder valid.linked found
      exact ⟨older, rewritten, Or.inl present⟩

theorem Valid.orderAt_calls (valid : book.Valid) {ops : List BookOp} (num : ∀ op ∈ ops, op.Num)
    {id : Nat} {order : Order} (found : (ops.foldl OrderBook.call book).orderAt id = some order) :
    ∃ older, order = { older with remainingQty := order.remainingQty } ∧
      (book.orderAt id = some older ∨
        ∃ addition ∈ additions book.nextOrderId ops,
          addition.id = id ∧ older = addition.order) := by
  induction ops generalizing book with
  | nil => exact ⟨order, rfl, Or.inl found⟩
  | cons op ops induction =>
      obtain ⟨middle, orderEq, origin⟩ := induction (valid.call (num op List.mem_cons_self))
        (fun other later => num other (List.mem_cons_of_mem op later)) found
      rw [additions_call]
      rcases origin with present | ⟨addition, member, idEq, middleEq⟩
      · obtain ⟨older, middleEq, origin⟩ := valid.orderAt_call present
        refine ⟨older, ?_, origin.imp_right ?_⟩
        · rw [orderEq, middleEq]
        · rintro ⟨addition, member, idEq, olderEq⟩
          exact ⟨addition, List.mem_append_left _ member, idEq, olderEq⟩
      · exact ⟨middle, orderEq,
          Or.inr ⟨addition, List.mem_append_right _ member, idEq, middleEq⟩⟩

/-! ### Adding the survivors again -/

theorem Valid.renumber (valid : book.Valid) {next : Nat} (later : book.nextOrderId ≤ next) :
    ({ book with nextOrderId := next } : OrderBook).Valid :=
  { valid with
    idBounds := fun id location found =>
      ⟨(valid.idBounds id location found).1, (valid.idBounds id location found).2.trans_le later⟩
    nextPositive := valid.nextPositive.trans later }

/-- Additions under growing identifiers put their orders on the book and leave
the orders that are there alone. -/
theorem Valid.addAgain {additions : List Addition} (valid : book.Valid)
    (increasing : additions.Pairwise fun first second => first.id < second.id)
    (later : ∀ addition ∈ additions, book.nextOrderId ≤ addition.id)
    (num : ∀ addition ∈ additions, addition.price ≠ .nan) :
    (additions.foldl OrderBook.addAgain book).Valid ∧
      ∀ id order, (additions.foldl OrderBook.addAgain book).orderAt id = some order ↔
        book.orderAt id = some order ∨
          ∃ addition ∈ additions, addition.id = id ∧ order = addition.order := by
  induction additions generalizing book with
  | nil => exact ⟨valid, fun id order => by simp⟩
  | cons addition additions induction =>
      have renumbered := valid.renumber (later addition List.mem_cons_self)
      have added : (book.addAgain addition).Valid := renumbered.addOrder addition.side addition.type
        addition.quantity addition.now (num addition List.mem_cons_self)
      obtain ⟨increases, increasing⟩ := List.pairwise_cons.mp increasing
      obtain ⟨rebuilt, orders⟩ := induction added increasing
        (fun other member => increases other member)
        fun other member => num other (List.mem_cons_of_mem _ member)
      refine ⟨rebuilt, fun id order => ?_⟩
      have first : (book.addAgain addition).orderAt id =
          if id = addition.id then some addition.order else book.orderAt id :=
        orderAt_addOrder addition.side addition.type addition.price addition.quantity addition.now
          renumbered.linked id
      rw [List.foldl_cons, orders, first]
      by_cases own : id = addition.id
      · -- no order on the book has this identifier yet
        have absent : book.orderAt id = none :=
          valid.linked.orderAt_none_of_le (own ▸ later addition List.mem_cons_self)
        rw [if_pos own, absent]
        constructor
        · rintro (isFirst | ⟨other, member, idEq, orderEq⟩)
          · exact Or.inr
              ⟨addition, List.mem_cons_self, own.symm, (Option.some.inj isFirst).symm⟩
          · exact Or.inr ⟨other, List.mem_cons_of_mem _ member, idEq, orderEq⟩
        · rintro (present | ⟨other, member, idEq, orderEq⟩)
          · cases present
          · rcases List.mem_cons.mp member with rfl | inRest
            · exact Or.inl (congrArg some orderEq.symm)
            · exact Or.inr ⟨other, inRest, idEq, orderEq⟩
      · rw [if_neg own]
        refine or_congr_right ⟨?_, ?_⟩
        · rintro ⟨other, member, idEq, orderEq⟩
          exact ⟨other, List.mem_cons_of_mem _ member, idEq, orderEq⟩
        · rintro ⟨other, member, idEq, orderEq⟩
          rcases List.mem_cons.mp member with rfl | inRest
          · exact absurd idEq.symm own
          · exact ⟨other, inRest, idEq, orderEq⟩

theorem mem_survivors {additions : List Addition} {survivor : Addition} :
    survivor ∈ book.survivors additions ↔
      ∃ addition ∈ additions, ∃ order, book.orderAt addition.id = some order ∧
        survivor = { addition with quantity := order.remainingQty } := by
  unfold survivors
  rw [List.mem_filterMap]
  refine exists_congr fun addition => and_congr_right fun _ => ?_
  rw [Option.map_eq_some_iff]
  exact exists_congr fun order => and_congr_right fun _ => eq_comm

theorem survivors_increasing {additions : List Addition}
    (increasing : additions.Pairwise fun first second => first.id < second.id) :
    (book.survivors additions).Pairwise fun first second => first.id < second.id := by
  refine List.pairwise_filterMap.mpr (increasing.imp ?_)
  intro first second less survivor isFirst other isSecond
  obtain ⟨order, -, rfl⟩ := Option.map_eq_some_iff.mp isFirst
  obtain ⟨otherOrder, -, rfl⟩ := Option.map_eq_some_iff.mp isSecond
  exact less

/-! ### A valid book is determined by its index -/

section Determined

variable {left right : OrderBook} {onOrder : Order → Order}

theorem Valid.index_eq (valid : book.Valid) (id : Nat) :
    book.contents.index id =
      (book.orderAt id).map fun order => (order.side, order.price, order) := by
  change (book.orderLookup.lookup id).map _ = ((book.orderLookup.lookup id).map _).map _
  rw [Option.map_map]
  refine Option.map_congr ?_
  intro location found
  obtain ⟨-, sideEq, priceEq⟩ := valid.lookup_location found
  rw [Function.comp_apply, sideEq, priceEq]

theorem Valid.queue_nodup (valid : book.Valid) (buy : Bool) :
    ((book.queue buy).map Order.id).Nodup :=
  List.pairwise_map.mpr (valid.queue_ids_ne buy)

/-- Valid books whose orders correspond have corresponding queues: the priority
of the orders leaves no choice. -/
theorem Valid.queue_of_orderAt (leftValid : left.Valid) (rightValid : right.Valid)
    (idEq : ∀ order, (onOrder order).id = order.id)
    (sideEq : ∀ order, (onOrder order).side = order.side)
    (priceEq : ∀ order, (onOrder order).price = order.price)
    (orders : ∀ id, right.orderAt id = (left.orderAt id).map onOrder) (buy : Bool) :
    right.queue buy = (left.queue buy).map onOrder := by
  have sameIds : ((left.queue buy).map onOrder).map Order.id = (left.queue buy).map Order.id := by
    rw [List.map_map]
    exact List.map_congr_left fun order _ => idEq order
  have members : ∀ order, order ∈ right.queue buy ↔ order ∈ (left.queue buy).map onOrder := by
    intro order
    rw [rightValid.mem_queue_iff, orders, List.mem_map, Option.map_eq_some_iff]
    constructor
    · rintro ⟨⟨older, present, rfl⟩, side⟩
      rw [idEq] at present
      rw [sideEq] at side
      exact ⟨older, leftValid.mem_queue_iff.mpr ⟨present, side⟩, rfl⟩
    · rintro ⟨older, member, rfl⟩
      obtain ⟨present, side⟩ := leftValid.mem_queue_iff.mp member
      rw [idEq, sideEq]
      exact ⟨⟨older, present, rfl⟩, side⟩
  have permuted : (right.queue buy).Perm ((left.queue buy).map onOrder) := by
    refine (List.perm_ext_iff_of_nodup ?_ ?_).mpr members
    · exact (rightValid.queue_nodup buy).of_map
    · exact List.Nodup.of_map Order.id (sameIds ▸ leftValid.queue_nodup buy)
  have leftSorted : ((left.queue buy).map onOrder).Pairwise (Prior buy) := by
    refine List.pairwise_map.mpr ((leftValid.queue_prior buy).imp ?_)
    intro first second prior
    unfold Prior
    rw [priceEq, priceEq, idEq, idEq]
    exact prior
  refine permuted.eq_of_pairwise ?_ (rightValid.queue_prior buy) leftSorted
  intro first second firstMem secondMem forward backward
  exact absurd backward (forward.not_prior (rightValid.price_num_of_mem_queue firstMem)
    (rightValid.price_num_of_mem_queue ((members second).mpr secondMem)))

end Determined

theorem orderAt_rebuilt {ops : List BookOp} (num : ∀ op ∈ ops, op.Num) (symbol : Symbol)
    (poolSize otherPoolSize : Nat) :
    let book := ops.foldl call (new symbol poolSize)
    let rebuilt := (book.survivors (additions 1 ops)).foldl addAgain (new symbol otherPoolSize)
    rebuilt.Valid ∧ ∀ id, rebuilt.orderAt id = (book.orderAt id).map Order.asAdded := by
  intro book rebuilt
  have increasing := additions_increasing 1 ops
  have later : ∀ survivor ∈ book.survivors (additions 1 ops), 1 ≤ survivor.id := by
    intro survivor member
    obtain ⟨addition, added, order, -, rfl⟩ := mem_survivors.mp member
    exact (additions_later added :)
  have priced : ∀ survivor ∈ book.survivors (additions 1 ops), survivor.price ≠ .nan := by
    intro survivor member
    obtain ⟨addition, added, order, -, rfl⟩ := mem_survivors.mp member
    exact (additions_num num added :)
  have distinct : ((additions 1 ops).map Addition.id).Nodup :=
    List.pairwise_map.mpr (increasing.imp fun less => Nat.ne_of_lt less)
  obtain ⟨valid, orders⟩ := (valid_new symbol otherPoolSize).addAgain
    (survivors_increasing increasing) later priced
  refine ⟨valid, fun id => Option.ext fun order => ?_⟩
  rw [orders, orderAt_new, Option.map_eq_some_iff]
  -- what an order on the book was added as
  have origin : ∀ older, book.orderAt id = some older →
      ∃ addition ∈ additions 1 ops, addition.id = id ∧
        older = { addition.order with remainingQty := older.remainingQty } := by
    intro older present
    obtain ⟨added, olderEq, before | ⟨addition, member, idEq, addedEq⟩⟩ :=
      (valid_new symbol poolSize).orderAt_calls num present
    · rw [orderAt_new] at before
      cases before
    · exact ⟨addition, member, idEq, addedEq ▸ olderEq⟩
  constructor
  · rintro (absent | ⟨survivor, member, idEq, rfl⟩)
    · cases absent
    · obtain ⟨addition, added, older, present, rfl⟩ := mem_survivors.mp member
      rw [show addition.id = id from idEq] at present
      obtain ⟨other, otherAdded, otherId, olderEq⟩ := origin older present
      obtain rfl : other = addition :=
        List.inj_on_of_nodup_map distinct otherAdded added (otherId.trans idEq.symm)
      refine ⟨older, present, ?_⟩
      rw [olderEq]
      rfl
  · rintro ⟨older, present, rfl⟩
    obtain ⟨addition, added, idEq, olderEq⟩ := origin older present
    refine Or.inr ⟨{ addition with quantity := older.remainingQty },
      mem_survivors.mpr ⟨addition, added, older, idEq ▸ present, rfl⟩, idEq, ?_⟩
    rw [olderEq]
    rfl

/-- After any adds, cancels and reductions, the levels with their queues and the
index are those of a book on which only the orders still there have been added,
in the same order, under the same identifiers and with what they have left. -/
theorem cancels_leave_no_trace {ops : List BookOp} (num : ∀ op ∈ ops, op.Num) (symbol : Symbol)
    (poolSize otherPoolSize : Nat) :
    let book := ops.foldl call (new symbol poolSize)
    let rebuilt := (book.survivors (additions 1 ops)).foldl addAgain (new symbol otherPoolSize)
    (∀ buy, rebuilt.contents.levels buy =
        (book.contents.levels buy).map (Prod.map id (List.map Order.asAdded))) ∧
      ∀ orderId, rebuilt.contents.index orderId =
        (book.contents.index orderId).map fun entry => (entry.1, entry.2.1, entry.2.2.asAdded) := by
  intro book rebuilt
  have valid : book.Valid := (valid_new symbol poolSize).calls num
  obtain ⟨rebuiltValid, orders⟩ := orderAt_rebuilt num symbol poolSize otherPoolSize
  refine ⟨?_, ?_⟩
  · intro buy
    have queues : rebuilt.queue buy = (book.queue buy).map Order.asAdded := by
      refine valid.queue_of_orderAt rebuiltValid ?_ ?_ ?_ orders buy
      all_goals exact fun _ => rfl
    refine valid.levels_of_queue rebuiltValid Function.injective_id ?_ queues
    exact fun _ => rfl
  · intro orderId
    rw [rebuiltValid.index_eq, valid.index_eq, orders, Option.map_map, Option.map_map]
    rfl

/-- Two offers at one price; the first is cancelled, the second reduced, and the
level is left and joined again. -/
theorem cancels_leave_no_trace_rejoined :
    let ops : List BookOp := [.add .sell .limit (.finite 100) 5 0, .cancel 1,
      .add .sell .limit (.finite 100) 7 1, .add .sell .limit (.finite 100) 2 2, .reduce 2 4]
    let book := ops.foldl call (new [65] 2)
    let rebuilt := (book.survivors (additions 1 ops)).foldl addAgain (new [65] 0)
    (rebuilt.contents.levels false).map (fun level => level.2.map fun order =>
        (order.id, order.remainingQty)) = [[(2, 4), (3, 2)]] ∧
      rebuilt.contents.levels false =
        (book.contents.levels false).map (Prod.map id (List.map Order.asAdded)) := by
  intro ops book rebuilt
  have num : ∀ op ∈ ops, op.Num := by simp [ops, BookOp.Num]
  exact ⟨by decide +kernel, (cancels_leave_no_trace num [65] 2 0).1 false⟩

end OrderBook

end OrderBookExchange
