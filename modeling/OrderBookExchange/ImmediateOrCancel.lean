import OrderBookExchange.CosmeticChange
import OrderBookExchange.OrderFate

/-!
# An IOC order is a limit order cancelled at once

The two orders differ in their type, which matching does not read.  So they meet
the same resting orders, and what is left of either leaves the book: the IOC
order in the post-match step of its own submission, the limit order through the
index.  The books agree afterwards in everything but the object in the slot that
both have just released.
-/

namespace OrderBookExchange

namespace OrderBook

/-- What a book says about its orders and about its pool: everything but the
objects in slots that no order uses. -/
structure LivePart where
  symbol : Symbol
  bids : List (Price × PriceLevel)
  asks : List (Price × PriceLevel)
  orderLookup : Finmap fun _ : Nat => OrderLocation
  live : Nat → Option Order
  nextOrderId : Nat
  freeList : List Nat
  capacity : Nat

def livePart (book : OrderBook) : LivePart where
  symbol := book.symbol
  bids := book.bids
  asks := book.asks
  orderLookup := book.orderLookup
  live := book.orderAt
  nextOrderId := book.nextOrderId
  freeList := book.orderPool.freeList
  capacity := book.orderPool.capacity

/-- Change the type of the order in one slot. -/
def retype (ptr : Nat) (type : OrderType) (slot : Nat) (order : Order) : Order :=
  if slot = ptr then { order with type } else order

theorem cosmetic_retype (ptr : Nat) (type : OrderType) : Cosmetic (retype ptr type) := by
  constructor <;> intro slot <;> intros <;> unfold retype <;> split <;> rfl

variable {book : OrderBook}

theorem recast_retype (ptr : Nat) (type : OrderType) :
    book.recast (retype ptr type) = book.store ptr { book.load ptr with type } := by
  have storageEq : (fun slot => retype ptr type slot (book.orderPool.storage slot)) =
      Function.update book.orderPool.storage ptr { book.load ptr with type } := by
    funext slot
    by_cases same : slot = ptr
    · subst same
      rw [Function.update_self, retype, if_pos rfl]
      rfl
    · rw [Function.update_of_ne same, retype, if_neg same]
  unfold recast store ObjectPool.mapSlots ObjectPool.store
  rw [storageEq]

theorem unlink_store (id : Nat) (location : OrderLocation) (ptr other : Nat) (order : Order) :
    (book.store other order).unlink id location ptr =
      (book.unlink id location ptr).store other order := by
  have overwrite : ∀ target : OrderBook, target.store other order =
      target.recast fun slot stored => if slot = other then order else stored := by
    intro target
    unfold recast store ObjectPool.mapSlots ObjectPool.store
    congr 2
    funext slot
    exact Function.update_apply _ _ _ _
  rw [overwrite, overwrite, recast_unlink]

/-- What stood in a slot does not matter once its order has left the book. -/
theorem livePart_unlink_store (linked : book.Linked) {id : Nat} {location : OrderLocation}
    (found : book.orderLookup.lookup id = some location) {order : Order} (idEq : order.id = id) :
    ((book.store location.iterator order).unlink id location location.iterator).livePart =
      (book.unlink id location location.iterator).livePart := by
  obtain ⟨member, storedId, -⟩ := linked.indexed id location found
  have liveEq : ((book.store location.iterator order).unlink id location
      location.iterator).orderAt = (book.unlink id location location.iterator).orderAt := by
    funext other
    rw [orderAt_unlink, orderAt_unlink]
    by_cases own : other = id
    · rw [if_pos own, if_pos own]
    · rw [if_neg own, if_neg own, orderAt_store linked member order (idEq.trans storedId.symm),
        idEq, if_neg own]
  unfold livePart
  rw [liveEq, unlink_store]
  rfl

/-! ### Leaving the book -/

section Leave

variable {buy : Bool} {ptr : Nat} (linked : book.Linked) (live : ptr ∈ book.nodePtrs buy)
include linked live

theorem livePart_removeOrder_store {order : Order} (idEq : order.id = (book.load ptr).id) :
    ((book.store ptr order).removeOrder ptr).livePart = (book.removeOrder ptr).livePart := by
  obtain ⟨location, found, rfl, -⟩ := linked.placed buy ptr live
  unfold removeOrder
  dsimp only
  rw [load_store_self, idEq, orderLookup_store, found]
  exact livePart_unlink_store linked found idEq

/-- The engine removes an order by its pointer, a client by its identifier. -/
theorem livePart_cancelOrder :
    (book.cancelOrder (book.load ptr).id).1.livePart = (book.removeOrder ptr).livePart := by
  obtain ⟨location, found, rfl, -⟩ := linked.placed buy ptr live
  unfold cancelOrder removeOrder
  dsimp only
  rw [found]
  apply livePart_unlink_store linked found
  rfl

theorem livePart_postMatch_ioc :
    (book.postMatch ptr .ioc).livePart = (book.removeOrder ptr).livePart := by
  unfold postMatch
  dsimp only
  split
  · rfl
  · rw [if_pos (Or.inr rfl)]
    apply livePart_removeOrder_store linked live
    rfl

/-- A limit order leaves after matching if it is filled, and with the cancel if
it is not. -/
theorem livePart_postMatch_limit :
    ((book.postMatch ptr .limit).cancelOrder (book.load ptr).id).1.livePart =
      (book.removeOrder ptr).livePart := by
  unfold postMatch
  dsimp only
  split
  · have gone : (book.removeOrder ptr).orderAt (book.load ptr).id = none := by
      rw [(linked.removeOrder live).2.2.2.2, if_pos rfl]
    have missing : (book.removeOrder ptr).orderLookup.lookup (book.load ptr).id = none := by
      rw [orderAt, Option.map_eq_none_iff] at gone
      exact gone
    rw [cancelOrder, missing]
  · rw [if_neg (by simp)]
    exact livePart_cancelOrder linked live

end Leave

section Submission

variable (clock : Clock) (side : Side) (price : Price) (quantity : Quantity)

theorem addOrder_type (type other : OrderType) (now : Nat) :
    book.addOrder side other price quantity now =
      ((book.addOrder side type price quantity now).1.recast
          (retype (book.addOrder side type price quantity now).2 other),
        (book.addOrder side type price quantity now).2) := by
  rw [addOrder_ptr, recast_retype, load_addOrder_self]
  unfold addOrder store ObjectPool.store
  dsimp only
  rw [Function.update_idem]
  rfl

/-- Matching does not read the type of the order it matches. -/
theorem matched_type (type other : OrderType) :
    book.matched clock side other price quantity =
      ((book.matched clock side type price quantity).1.recast
          (retype (book.addOrder side type price quantity (clock 1)).2 other),
        (book.matched clock side type price quantity).2) := by
  unfold matched
  rw [addOrder_type side price quantity type other]
  dsimp only
  rw [recast_matchOrder _ (cosmetic_retype _ _)]

theorem acceptOrder_ioc_result :
    (book.acceptOrder clock side .ioc price quantity).2 =
      (book.acceptOrder clock side .limit price quantity).2 := by
  rw [acceptOrder_eq, acceptOrder_eq, matched_type clock side price quantity .ioc .limit]

variable (linked : book.Linked) (unfilled : book.Unfilled)
include linked unfilled

theorem livePart_acceptOrder_ioc :
    (book.acceptOrder clock side .ioc price quantity).1.livePart =
      ((book.acceptOrder clock side .limit price quantity).1.cancelOrder
        book.nextOrderId).1.livePart := by
  have matched := matched_from clock side .ioc price quantity linked unfilled
  rw [acceptOrder_eq, acceptOrder_eq, matched_type clock side price quantity .ioc .limit,
    recast_retype]
  have samePtr : (book.addOrder side .limit price quantity (clock 1)).2 =
      (book.addOrder side .ioc price quantity (clock 1)).2 := rfl
  dsimp only
  rw [samePtr]
  generalize (book.matched clock side .ioc price quantity).1 = next at matched ⊢
  generalize (book.addOrder side .ioc price quantity (clock 1)).2 = ptr at matched ⊢
  have retyped : (next.store ptr { next.load ptr with type := .limit }).Linked :=
    matched.linked.store _ _ rfl rfl
  have retypedLive : ptr ∈
      (next.store ptr { next.load ptr with type := .limit }).nodePtrs side.isBuy := by
    rw [nodePtrs_store]
    exact matched.live
  have limitLeaves := livePart_postMatch_limit retyped retypedLive
  rw [load_store_self] at limitLeaves
  rw [← matched.idEq, livePart_postMatch_ioc matched.linked matched.live, limitLeaves]
  symm
  apply livePart_removeOrder_store matched.linked matched.live
  rfl

theorem cancelOrder_acceptOrder_limit :
    ((book.acceptOrder clock side .limit price quantity).1.cancelOrder
        book.nextOrderId).2 = false ↔
      tradedQty (book.acceptOrder clock side .limit price quantity).2.2 book.nextOrderId =
        quantity.toNat := by
  obtain ⟨nextLinked, nextUnfilled, -, balance⟩ :=
    acceptOrder_conserved clock side .limit price quantity linked unfilled
  have balanced := balance book.nextOrderId
  have fresh := remainingOf_of_none (linked.orderAt_none_of_le (le_refl book.nextOrderId))
  rw [if_pos rfl, if_pos rfl, fresh, discardedQty, if_neg (by simp)] at balanced
  rw [(cancelOrder_conserved nextLinked nextUnfilled _).2.2.2.1, Option.isSome_eq_false_iff,
    Option.isNone_iff_eq_none, ← remainingOf_eq_zero_iff nextUnfilled]
  omega

end Submission

end OrderBook

namespace MatchingEngine

/-- An IOC order does what a limit order with an immediate cancel does. -/
theorem ioc_eq_limit_then_cancel (ops : List EngineOp) (clock : Clock) (symbol : Symbol)
    (side : Side) (price : Price) (quantity : Quantity) (pricePositive : Double.lt 0 price = true)
    (quantityPositive : 0 < quantity) :
    let engine := (Transition.run step .new ops).1
    let immediate := engine.submitOrder clock symbol side .ioc price quantity
    let limit := engine.submitOrder clock symbol side .limit price quantity
    let cancelled := limit.1.cancelOrder symbol limit.2.1
    immediate.2.1 = limit.2.1 ∧ immediate.2.2 = limit.2.2 ∧
      (immediate.1.book symbol).livePart = (cancelled.1.book symbol).livePart ∧
      (∀ other, other ≠ symbol → immediate.1.book other = cancelled.1.book other) ∧
      (cancelled.2 = false ↔ tradedQty limit.2.2 limit.2.1 = quantity.toNat) := by
  intro engine immediate limit cancelled
  have quantityNonzero : quantity ≠ 0 := by
    rintro rfl
    exact absurd quantityPositive (by decide)
  have iocAccepted : ¬rejects .ioc price quantity = true := by
    simp [rejects, quantityNonzero]
  have limitAccepted : ¬rejects .limit price quantity = true := by
    have priceAccepted := Double.le_eq_false_of_lt pricePositive
    rw [rejects, priceAccepted]
    simp [quantityNonzero]
  obtain ⟨bookLinked, bookUnfilled⟩ := linked_new.run ops symbol
  have iocResult : immediate.2 = ((engine.book symbol).acceptOrder clock side .ioc price
      quantity).2 := submitOrder_result engine clock symbol side iocAccepted
  have limitResult : limit.2 = ((engine.book symbol).acceptOrder clock side .limit price
      quantity).2 := submitOrder_result engine clock symbol side limitAccepted
  have idEq : limit.2.1 = (engine.book symbol).nextOrderId :=
    submitOrder_id engine clock symbol side limitAccepted
  have iocBook : ∀ other, immediate.1.book other = if other = symbol then
      ((engine.book symbol).acceptOrder clock side .ioc price quantity).1
      else engine.book other :=
    fun other => book_submitOrder_accepted engine clock symbol other side iocAccepted
  have limitBook : ∀ other, limit.1.book other = if other = symbol then
      ((engine.book symbol).acceptOrder clock side .limit price quantity).1
      else engine.book other :=
    fun other => book_submitOrder_accepted engine clock symbol other side limitAccepted
  have results : immediate.2 = limit.2 := by
    rw [iocResult, limitResult, OrderBook.acceptOrder_ioc_result]
  refine ⟨congrArg Prod.fst results, congrArg Prod.snd results, ?_, ?_, ?_⟩
  · rw [iocBook, if_pos rfl, (book_cancelOrder limit.1 symbol symbol limit.2.1).1, if_pos rfl,
      limitBook, if_pos rfl, idEq]
    exact OrderBook.livePart_acceptOrder_ioc clock side price quantity bookLinked bookUnfilled
  · intro other different
    rw [iocBook, if_neg different, (book_cancelOrder limit.1 symbol other limit.2.1).1,
      if_neg different, limitBook, if_neg different]
  · rw [(book_cancelOrder limit.1 symbol symbol limit.2.1).2, limitBook, if_pos rfl, idEq,
      limitResult]
    exact OrderBook.cancelOrder_acceptOrder_limit clock side price quantity bookLinked
      bookUnfilled

/-- Seven shares bid for against an offer of four. -/
theorem ioc_eq_limit_then_cancel_four_of_seven :
    let engine := (Transition.run step .new
      [.submit (fun _ => 0) [65] .sell .limit (.finite 100) 4]).1
    let immediate := engine.submitOrder (fun _ => 0) [65] .buy .ioc (.finite 101) 7
    let limit := engine.submitOrder (fun _ => 0) [65] .buy .limit (.finite 101) 7
    let cancelled := limit.1.cancelOrder [65] limit.2.1
    cancelled.2 = true ∧ tradedQty limit.2.2 limit.2.1 = 4 ∧
      (immediate.1.book [65]).livePart = (cancelled.1.book [65]).livePart := by
  have equal := ioc_eq_limit_then_cancel
    [.submit (fun _ => 0) [65] .sell .limit (.finite 100) 4] (fun _ => 0) [65] .buy (.finite 101) 7
    (by decide) (by decide)
  exact ⟨by decide +kernel, by decide +kernel, equal.2.2.1⟩

end MatchingEngine

end OrderBookExchange
