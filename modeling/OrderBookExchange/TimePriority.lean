import OrderBookExchange.BookRuns
import OrderBookExchange.HistoryIndependence
import OrderBookExchange.Ladder
import OrderBookExchange.MatchWalk
import OrderBookExchange.SweepOutcome
import OrderBookExchange.TransitionHistory

/-!
# Nobody is served out of turn

An order that stands behind another one on its side does not trade while the other
one is there, over any number of calls.  Orders come and go around the two; what
carries the argument is that the operations on a queue never change the order in
which two identifiers stand, and that matching takes from the head.
-/

namespace OrderBookExchange

/-- Two items of a list keep their places in a part of it that has both. -/
theorem sublist_pair_of_sublist {Item : Type*} {whole part : List Item} {first second : Item}
    (distinct : whole.Nodup) (partOf : part.Sublist whole)
    (ahead : [first, second].Sublist whole) (firstMem : first ∈ part) (secondMem : second ∈ part) :
    [first, second].Sublist part := by
  induction partOf with
  | slnil => simp at firstMem
  | @cons part whole item partOf induction =>
      rw [List.nodup_cons] at distinct
      have other : first ≠ item := by
        rintro rfl
        exact distinct.1 (partOf.subset firstMem)
      cases ahead with
      | cons _ later => exact (induction distinct.2 later firstMem secondMem)
      | cons_cons _ later => exact absurd rfl other
  | @cons_cons part whole item partOf induction =>
      rw [List.nodup_cons] at distinct
      have inRest {member : Item} (isMember : member ∈ item :: part) (other : member ≠ item) :
          member ∈ part := by
        rcases List.mem_cons.mp isMember with same | rest
        · exact absurd same other
        · exact rest
      cases ahead with
      | cons _ later =>
          have apart {member : Item} (isMember : member ∈ whole) : member ≠ item := by
            rintro rfl
            exact distinct.1 isMember
          have firstRest := inRest firstMem (apart (later.subset (by simp)))
          have secondRest := inRest secondMem (apart (later.subset (by simp)))
          exact (induction distinct.2 later firstRest secondRest).cons item
      | cons_cons _ later =>
          have inWhole : second ∈ whole := List.singleton_sublist.mp later
          have apart : second ≠ first := by
            rintro rfl
            exact distinct.1 inWhole
          exact (List.singleton_sublist.mpr (inRest secondMem apart)).cons_cons first

/-! ### Matching takes from the head -/

theorem ids_sweep (clock : Clock) (count : Nat) (incoming : Order) (queue : List Order) :
    (sweep clock count incoming queue).queue.map Order.id <:+ queue.map Order.id := by
  rcases sweep_queue clock count incoming queue with
    empty | ⟨older, tail, head, suffix, shrunk, shape⟩
  · rw [empty]
    exact List.nil_suffix
  · have idEq : head.id = older.id := by rw [shrunk.same]
    rw [shape, List.map_cons, idEq, ← List.map_cons]
    exact suffix.map Order.id

/-- While an order is left on the queue, the ones behind it have not traded. -/
theorem sweep_in_turn (clock : Clock) (count : Nat) (incoming : Order) (queue : List Order)
    {first second : Nat} (distinct : (queue.map Order.id).Nodup)
    (ahead : [first, second].Sublist (queue.map Order.id))
    (survives : first ∈ (sweep clock count incoming queue).queue.map Order.id)
    (fresh : incoming.id ≠ second) {trade : Trade}
    (traded : trade ∈ (sweep clock count incoming queue).trades) :
    trade.buyOrderId ≠ second ∧ trade.sellOrderId ≠ second := by
  induction queue generalizing count incoming with
  | nil => simp [sweep] at traded
  | cons resting rest induction =>
      rw [List.map_cons, List.nodup_cons] at distinct
      -- the head is not the one behind
      have other : resting.id ≠ second := by
        rintro rfl
        cases ahead with
        | cons _ later => exact distinct.1 (later.subset (by simp))
        | cons_cons _ later => exact distinct.1 (List.singleton_sublist.mp later)
      have headTrade : (executeMatch incoming resting (clock count)).trade.buyOrderId ≠ second ∧
          (executeMatch incoming resting (clock count)).trade.sellOrderId ≠ second := by
        rw [executeMatch]
        dsimp only
        split
        · exact ⟨fresh, other⟩
        · exact ⟨other, fresh⟩
      unfold sweep at traded survives
      split at traded
      · simp at traded
      · next wanted =>
          rw [if_neg wanted] at survives
          split at traded
          · next inReach =>
              rw [if_pos inReach] at survives
              dsimp only at traded survives
              split at traded
              · next filled =>
                  rw [if_pos filled] at survives
                  -- a filled head is gone, so the survivor is further back
                  have firstRest : first ∈ rest.map Order.id :=
                    (ids_sweep clock _ _ rest).subset survives
                  have aheadRest : [first, second].Sublist (rest.map Order.id) := by
                    cases ahead with
                    | cons _ later => exact later
                    | cons_cons _ later => exact absurd firstRest distinct.1
                  rcases List.mem_cons.mp traded with rfl | later
                  · exact headTrade
                  · exact induction (count + 1) _ distinct.2 aheadRest survives fresh later
              · rcases List.mem_singleton.mp traded with rfl
                exact headTrade
          · simp at traded

/-! ### The other operations keep the order of the queue -/

/-- What an operation may do to a queue of identifiers: take some away, or let a
new one join. -/
def Shifts (fresh : Nat) (earlier later : List Nat) : Prop :=
  later.Sublist earlier ∨
    earlier.Sublist later ∧ ∀ id ∈ later, id ∈ earlier ∨ id = fresh

namespace Shifts

variable {fresh first second : Nat} {earlier later : List Nat}

theorem refl (fresh : Nat) (queue : List Nat) : Shifts fresh queue queue :=
  Or.inl (List.Sublist.refl queue)

theorem mem (shifts : Shifts fresh earlier later) {id : Nat} (member : id ∈ later)
    (old : id < fresh) : id ∈ earlier := by
  rcases shifts with taken | ⟨-, joined⟩
  · exact taken.subset member
  · rcases joined id member with before | new
    · exact before
    · omega

theorem ahead (shifts : Shifts fresh earlier later) (distinct : earlier.Nodup)
    (ahead : [first, second].Sublist earlier) (firstMem : first ∈ later)
    (secondMem : second ∈ later) : [first, second].Sublist later := by
  rcases shifts with taken | ⟨kept, -⟩
  · exact sublist_pair_of_sublist distinct taken ahead firstMem secondMem
  · exact ahead.trans kept

end Shifts

namespace PriorityBook

variable {book : PriorityBook} {buy : Bool} {first second : Nat}

/-- The identifiers on one side in the order of the queue. -/
def ids (book : PriorityBook) (buy : Bool) : List Nat :=
  (book.queue buy).map Order.id

theorem Ordered.nodup_ids (ordered : book.Ordered) (buy : Bool) : (book.ids buy).Nodup := by
  rw [ids, List.Nodup, List.pairwise_map]
  apply (ordered.prior buy).imp_of_mem
  intro earlier later earlierMem laterMem prior same
  obtain rfl := ordered.unique buy buy earlier earlierMem later laterMem same
  rcases prior with better | ⟨-, younger⟩
  · simp [better_irrefl] at better
  · exact lt_irrefl _ younger

theorem Ordered.sublist_of_prior (ordered : book.Ordered) {earlier later : Order}
    (earlierMem : earlier ∈ book.queue buy) (laterMem : later ∈ book.queue buy)
    (prior : Prior buy earlier later) : [earlier, later].Sublist (book.queue buy) := by
  have notPrior := prior.not_prior (ordered.num buy earlier earlierMem)
    (ordered.num buy later laterMem)
  obtain ⟨front, back, split⟩ := List.append_of_mem earlierMem
  have sorted := ordered.prior buy
  rw [split] at laterMem sorted ⊢
  rcases List.mem_append.mp laterMem with inFront | inBack
  · have backward := (List.pairwise_append.mp sorted).2.2 later inFront earlier (by simp)
    exact absurd backward notPrior
  · rcases List.mem_cons.mp inBack with rfl | behind
    · exact absurd prior notPrior
    · exact ((List.singleton_sublist.mpr behind).cons_cons earlier).trans
        (List.sublist_append_right front _)

theorem ids_drop (book : PriorityBook) (id : Nat) (buy : Bool) :
    ((book.drop id).ids buy).Sublist (book.ids buy) :=
  List.filter_sublist.map Order.id

theorem ids_replace (book : PriorityBook) (order : Order) (buy : Bool) :
    (book.replace order).ids buy = book.ids buy := by
  unfold ids replace replaceOrder
  rw [List.map_map]
  apply List.map_congr_left
  intro other _
  rw [Function.comp_apply]
  split
  · next same => exact same.symm
  · rfl

theorem shifts_cancelOrder (book : PriorityBook) (id : Nat) (buy : Bool) (fresh : Nat) :
    Shifts fresh (book.ids buy) ((book.cancelOrder id).1.ids buy) := by
  rw [cancelOrder]
  split
  · exact .refl fresh _
  · exact Or.inl (book.ids_drop id buy)

theorem shifts_reduceOrder (book : PriorityBook) (id : Nat) (newQuantity : Quantity) (buy : Bool)
    (fresh : Nat) : Shifts fresh (book.ids buy) ((book.reduceOrder id newQuantity).1.ids buy) := by
  rw [reduceOrder]
  split
  · exact .refl fresh _
  · split
    · exact .refl fresh _
    · split
      · exact Or.inl (book.ids_drop id buy)
      · rw [ids_replace]
        exact .refl fresh _

/-- A submission adds its order to one side, or takes from the head of the other. -/
theorem shifts_acceptOrder (book : PriorityBook) (clock : Clock) (side : Side) (type : OrderType)
    (price : Price) (quantity : Quantity) (buy : Bool) :
    Shifts book.nextOrderId (book.ids buy)
      ((book.acceptOrder clock side type price quantity).1.ids buy) := by
  let result := book.matching clock side type price quantity
  unfold ids acceptOrder
  dsimp only
  split
  · next own =>
      split
      · apply Or.inr
        constructor
        · exact (List.sublist_orderedInsert _ _).map Order.id
        · intro id member
          obtain ⟨order, inserted, rfl⟩ := List.mem_map.mp member
          rcases mem_insertOrder.mp inserted with rfl | old
          · have incomingId : result.incoming.id = book.nextOrderId := by
              change (sweep _ _ _ _).incoming.id = _
              rw [sweep_incoming]
              rfl
            exact Or.inr incomingId
          · exact Or.inl (List.mem_map_of_mem old)
      · exact .refl _ _
  · next other =>
      have opposite : buy = !side.isBuy := by
        cases buy <;> cases isBuy : side.isBuy <;> simp_all
      subst opposite
      exact Or.inl (ids_sweep clock _ _ _).sublist

/-- Two orders of a side, the second behind the first as long as both are there. -/
structure InTurn (book : PriorityBook) (buy : Bool) (first second : Nat) : Prop where
  firstOld : first < book.nextOrderId
  secondOld : second < book.nextOrderId
  ownSide : second ∉ book.ids (!buy)
  ahead : first ∈ book.ids buy → second ∈ book.ids buy →
    [first, second].Sublist (book.ids buy)

theorem InTurn.shifts (inTurn : book.InTurn buy first second) (ordered : book.Ordered)
    {later : PriorityBook} (grown : book.nextOrderId ≤ later.nextOrderId)
    (shifts : ∀ buy, Shifts book.nextOrderId (book.ids buy) (later.ids buy)) :
    later.InTurn buy first second := by
  obtain ⟨firstOld, secondOld, ownSide, ahead⟩ := inTurn
  constructor
  · omega
  · omega
  · intro member
    exact ownSide ((shifts (!buy)).mem member secondOld)
  · intro firstMem secondMem
    have inOrder := ahead ((shifts buy).mem firstMem firstOld)
      ((shifts buy).mem secondMem secondOld)
    exact (shifts buy).ahead (ordered.nodup_ids buy) inOrder firstMem secondMem

/-- A submission that leaves the first order on the book has not traded with the
second. -/
theorem InTurn.acceptOrder (inTurn : book.InTurn buy first second) (ordered : book.Ordered)
    (clock : Clock) (side : Side) (type : OrderType) (price : Price) (quantity : Quantity)
    (survives : first ∈ (book.acceptOrder clock side type price quantity).1.ids buy)
    {trade : Trade} (traded : trade ∈ (book.acceptOrder clock side type price quantity).2.2) :
    trade.buyOrderId ≠ second ∧ trade.sellOrderId ≠ second := by
  have fresh : book.nextOrderId ≠ second := inTurn.secondOld.ne'
  have onBook := (book.shifts_acceptOrder clock side type price quantity buy).mem survives
    inTurn.firstOld
  by_cases swept : second ∈ book.ids (!side.isBuy)
  · have opposite : buy = !side.isBuy := by
      by_contra other
      have otherSide : (!side.isBuy) = !buy := by
        cases buy <;> cases isBuy : side.isBuy <;> simp_all
      exact inTurn.ownSide (otherSide ▸ swept)
    subst opposite
    have left : first ∈ (book.matching clock side type price quantity).queue.map Order.id := by
      simpa [ids, PriorityBook.acceptOrder] using survives
    exact sweep_in_turn clock 2 _ _ (ordered.nodup_ids _) (inTurn.ahead onBook swept) left fresh
      traded
  · obtain ⟨resting, member, -, -, buyer, seller⟩ := sweep_trade_terms clock 2 _ _ traded
    have other : resting.id ≠ second := by
      rintro rfl
      exact swept (List.mem_map_of_mem member)
    rw [buyer, seller]
    split
    · exact ⟨fresh, other⟩
    · exact ⟨other, fresh⟩

end PriorityBook

namespace PriorityExchange

variable (books : PriorityExchange) (op : EngineOp) (symbol : Symbol)

theorem shifts_step (buy : Bool) :
    Shifts (books symbol).nextOrderId ((books symbol).ids buy)
      (((books.step op).1 symbol).ids buy) := by
  -- only the book of the call changes
  have updated {own : Symbol} {later : PriorityBook}
      (shifts : Shifts (books own).nextOrderId ((books own).ids buy) (later.ids buy)) :
      Shifts (books symbol).nextOrderId ((books symbol).ids buy)
        ((Function.update books own later symbol).ids buy) := by
    by_cases same : symbol = own
    · subst same
      rw [Function.update_self]
      exact shifts
    · rw [Function.update_of_ne same]
      exact .refl _ _
  cases op with
  | submit clock own side type price quantity =>
      by_cases rejected : rejects type price quantity = true
      · rw [step_submit_of_rejects books clock own side rejected]
        exact .refl _ _
      · rw [step_submit_of_accepts books clock own side rejected]
        exact updated ((books own).shifts_acceptOrder clock side type _ quantity buy)
  | cancel own orderId => exact updated ((books own).shifts_cancelOrder orderId buy _)
  | reduce own orderId newQuantity =>
      exact updated ((books own).shifts_reduceOrder orderId newQuantity buy _)

theorem nextOrderId_step : (books symbol).nextOrderId ≤ ((books.step op).1 symbol).nextOrderId := by
  have updated {own : Symbol} {later : PriorityBook}
      (grown : (books own).nextOrderId ≤ later.nextOrderId) :
      (books symbol).nextOrderId ≤ (Function.update books own later symbol).nextOrderId := by
    by_cases same : symbol = own
    · subst same
      rw [Function.update_self]
      exact grown
    · rw [Function.update_of_ne same]
  cases op with
  | submit clock own side type price quantity =>
      by_cases rejected : rejects type price quantity = true
      · rw [step_submit_of_rejects books clock own side rejected]
      · rw [step_submit_of_accepts books clock own side rejected]
        exact updated (Nat.le_succ _)
  | cancel own orderId =>
      apply updated
      rw [PriorityBook.cancelOrder]
      split <;> rfl
  | reduce own orderId newQuantity =>
      apply updated
      rw [PriorityBook.reduceOrder]
      split
      · rfl
      · split
        · rfl
        · split <;> rfl

end PriorityExchange

namespace MatchingEngine

variable {engine : MatchingEngine} {symbol : Symbol} {buy : Bool} {first second : Nat}

/-- An identifier that is on the book at the end of a run was there all along. -/
theorem mem_ids_of_run (valid : engine.Valid) {ops : List EngineOp}
    (nanFree : ∀ op ∈ ops, op.NanFree) {id : Nat} (old : id < (engine.view symbol).nextOrderId)
    (member : id ∈ ((Transition.run step engine ops).1.view symbol).ids buy) :
    id ∈ (engine.view symbol).ids buy := by
  induction ops generalizing engine with
  | nil => exact member
  | cons op ops induction =>
      rw [List.forall_mem_cons] at nanFree
      obtain ⟨nextValid, viewEq, -⟩ := step_refines valid nanFree.1
      have grown := engine.view.nextOrderId_step op symbol
      rw [← viewEq] at grown
      have afterCall := induction nextValid nanFree.2 (old.trans_le grown) member
      rw [viewEq] at afterCall
      exact (engine.view.shifts_step op symbol buy).mem afterCall old

theorem trades_in_turn_step {books : PriorityExchange}
    (inTurn : (books symbol).InTurn buy first second) (ordered : (books symbol).Ordered)
    (op : EngineOp) (own : op.symbol = symbol)
    (survives : first ∈ ((books.step op).1 symbol).ids buy) {trade : Trade}
    (traded : trade ∈ (books.step op).2.trades) :
    trade.buyOrderId ≠ second ∧ trade.sellOrderId ≠ second := by
  subst own
  cases op with
  | submit clock symbol side type price quantity =>
      by_cases rejected : rejects type price quantity = true
      · rw [PriorityExchange.step_submit_of_rejects books clock symbol side rejected] at traded
        simp [EngineOutput.trades] at traded
      · rw [PriorityExchange.step_submit_of_accepts books clock symbol side rejected]
          at traded survives
        dsimp only [EngineOp.symbol] at survives
        rw [Function.update_self] at survives
        exact inTurn.acceptOrder ordered clock side type _ quantity survives traded
  | cancel symbol orderId => simp [PriorityExchange.step_cancel, EngineOutput.trades] at traded
  | reduce symbol orderId newQuantity =>
      simp [PriorityExchange.step_reduce, EngineOutput.trades] at traded

theorem trades_in_turn_run (valid : engine.Valid) {ops : List EngineOp}
    (nanFree : ∀ op ∈ ops, op.NanFree) (inTurn : (engine.view symbol).InTurn buy first second)
    (survives : first ∈ ((Transition.run step engine ops).1.view symbol).ids buy)
    {entry : EngineOp × EngineOutput} (member : entry ∈ Transition.history step engine ops)
    (own : entry.1.symbol = symbol) {trade : Trade} (traded : trade ∈ entry.2.trades) :
    trade.buyOrderId ≠ second ∧ trade.sellOrderId ≠ second := by
  induction ops generalizing engine with
  | nil => simp at member
  | cons op ops induction =>
      rw [List.forall_mem_cons] at nanFree
      obtain ⟨nextValid, viewEq, outputEq⟩ := step_refines valid nanFree.1
      have ordered : (engine.view symbol).Ordered := (valid symbol).ordered
      have nextInTurn : ((engine.step op).1.view symbol).InTurn buy first second := by
        rw [viewEq]
        exact inTurn.shifts ordered (engine.view.nextOrderId_step op symbol)
          (engine.view.shifts_step op symbol)
      rw [Transition.history_cons] at member
      rcases List.mem_cons.mp member with rfl | later
      · have afterCall := mem_ids_of_run nextValid nanFree.2 nextInTurn.firstOld survives
        dsimp only at traded own
        rw [viewEq] at afterCall
        rw [outputEq] at traded
        exact trades_in_turn_step inTurn ordered op own afterCall traded
      · exact induction nextValid nanFree.2 nextInTurn survives later

/-- Price-time priority over whole runs: if one order stands ahead of another on its
side, by a better price or by an earlier identifier at the same price, and is
still on the book after any further calls, then the other one has not traded in
any of them. -/
theorem trades_in_priority {before after : List EngineOp}
    (nanFree : ∀ op ∈ before ++ after, op.NanFree) (symbol : Symbol) (buy : Bool)
    {first second : Order}
    (firstMem : first ∈ ((Transition.run step .new before).1.book symbol).queue buy)
    (secondMem : second ∈ ((Transition.run step .new before).1.book symbol).queue buy)
    (prior : Prior buy first second)
    (survives : ∃ order ∈ ((Transition.run step .new (before ++ after)).1.book symbol).queue buy,
      order.id = first.id) :
    ∀ entry ∈ Transition.history step (Transition.run step .new before).1 after,
      entry.1.symbol = symbol → ∀ trade ∈ entry.2.trades,
        trade.buyOrderId ≠ second.id ∧ trade.sellOrderId ≠ second.id := by
  rw [List.forall_mem_append] at nanFree
  have valid : (Transition.run step .new before).1.Valid := (run_refines valid_new nanFree.1).1
  have ordered := (valid symbol).ordered
  have inTurn : ((Transition.run step .new before).1.view symbol).InTurn buy first.id second.id := by
    constructor
    · exact (ordered.bounds buy first firstMem).2
    · exact (ordered.bounds buy second secondMem).2
    · intro otherSide
      obtain ⟨order, orderMem, same⟩ := List.mem_map.mp otherSide
      obtain rfl := ordered.unique (!buy) buy order orderMem second secondMem same
      have bothSides := (ordered.side (!buy) order orderMem).symm.trans
        (ordered.side buy order secondMem)
      cases buy <;> simp at bothSides
    · intro _ _
      exact (ordered.sublist_of_prior firstMem secondMem prior).map Order.id
  intro entry member own trade traded
  obtain ⟨order, orderMem, idEq⟩ := survives
  rw [Transition.run_append] at orderMem
  exact trades_in_turn_run valid nanFree.2 inTurn
    (idEq ▸ List.mem_map_of_mem orderMem : first.id ∈ _) member own traded

/-- Three shares are offered at 100 and one at 101, and a buyer takes two. -/
theorem trades_in_priority_two_offers :
    let offers : List EngineOp :=
      [.submit (fun _ => 0) [65] .sell .limit (.finite 101) 1,
        .submit (fun _ => 0) [65] .sell .limit (.finite 100) 3]
    let buys : List EngineOp := [.submit (fun _ => 0) [65] .buy .market 0 2]
    ∀ entry ∈ Transition.history step (Transition.run step .new offers).1 buys,
      entry.1.symbol = [65] → ∀ trade ∈ entry.2.trades,
        trade.buyOrderId ≠ 1 ∧ trade.sellOrderId ≠ 1 :=
  trades_in_priority (by simp [EngineOp.NanFree]) [65] false
    (by decide +kernel : Order.new 2 .sell .limit (.finite 100) 3 0 ∈ _)
    (by decide +kernel : Order.new 1 .sell .limit (.finite 101) 1 0 ∈ _)
    (Or.inl (by decide +kernel))
    (by decide +kernel)

end MatchingEngine

end OrderBookExchange
