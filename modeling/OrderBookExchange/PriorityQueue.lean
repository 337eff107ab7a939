import OrderBookExchange.OrderBookInvariant
import Mathlib.Data.List.Sort

/-!
# Sides as priority queues

Read best price first and front to back, a side of the book is one list of
orders in price-time priority.  The book's operations act on that list by
inserting behind every order that is at least as good, by rewriting the order
with a given identifier, and by dropping it.
-/

namespace OrderBookExchange

/-- Strict price-time priority between two orders on one side. -/
def Prior (buy : Bool) (first second : Order) : Prop :=
  better buy first.price second.price = true ∨
    (first.price = second.price ∧ first.id < second.id)

/-- Join the queue behind every order whose price is at least as good. -/
def insertOrder (buy : Bool) (order : Order) (queue : List Order) : List Order :=
  queue.orderedInsert (fun first second => better buy first.price second.price = true)
    order

def replaceOrder (order : Order) (queue : List Order) : List Order :=
  queue.map fun other => if other.id = order.id then order else other

def dropOrder (id : Nat) (queue : List Order) : List Order :=
  queue.filter fun other => other.id ≠ id

section Insert

variable {buy : Bool} {order : Order} {queue : List Order}

@[simp]
theorem mem_insertOrder {other : Order} :
    other ∈ insertOrder buy order queue ↔ other = order ∨ other ∈ queue :=
  List.mem_orderedInsert _

theorem insertOrder_perm (buy : Bool) (order : Order) (queue : List Order) :
    (insertOrder buy order queue).Perm (order :: queue) :=
  List.perm_orderedInsert _ order queue

theorem insertOrder_append {front back : List Order}
    (frontKeeps : ∀ other ∈ front, better buy order.price other.price = false)
    (backYields : ∀ other ∈ back, better buy order.price other.price = true) :
    insertOrder buy order (front ++ back) = front ++ order :: back := by
  induction front with
  | nil =>
      cases back with
      | nil => rfl
      | cons other back => simp [insertOrder, backYields other (by simp)]
  | cons other front ih =>
      have keeps := frontKeeps other (by simp)
      have rest := ih fun later member => frontKeeps later (by simp [member])
      simp only [insertOrder, List.cons_append, List.orderedInsert_cons, keeps,
        Bool.false_eq_true, if_false] at rest ⊢
      rw [rest]

theorem dropOrder_of_absent {id : Nat} (absent : ∀ other ∈ queue, other.id ≠ id) :
    dropOrder id queue = queue := by
  unfold dropOrder
  rw [List.filter_eq_self]
  intro other member
  simpa using absent other member

theorem replaceOrder_of_absent (absent : ∀ other ∈ queue, other.id ≠ order.id) :
    replaceOrder order queue = queue := by
  unfold replaceOrder
  conv_rhs => rw [← List.map_id queue]
  apply List.map_congr_left
  intro other member
  simp [absent other member]

theorem replaceOrder_insertOrder {updated : Order} (idEq : updated.id = order.id)
    (priceEq : updated.price = order.price)
    (fresh : ∀ other ∈ queue, other.id ≠ updated.id) :
    replaceOrder updated (insertOrder buy order queue) =
      insertOrder buy updated queue := by
  induction queue with
  | nil => simp [insertOrder, replaceOrder, idEq]
  | cons other queue ih =>
      have otherFresh := fresh other (by simp)
      have rest := ih fun later member => fresh later (by simp [member])
      have unchanged := replaceOrder_of_absent fresh
      unfold insertOrder replaceOrder at *
      simp only [List.orderedInsert_cons, priceEq]
      split
      · rw [List.map_cons, unchanged, if_pos idEq.symm]
      · rw [List.map_cons, rest, if_neg otherFresh]

theorem dropOrder_insertOrder (fresh : ∀ other ∈ queue, other.id ≠ order.id) :
    dropOrder order.id (insertOrder buy order queue) = queue := by
  induction queue with
  | nil => simp [insertOrder, dropOrder]
  | cons other queue ih =>
      have otherFresh := fresh other (by simp)
      have restFresh : ∀ later ∈ queue, later.id ≠ order.id :=
        fun later member => fresh later (by simp [member])
      have rest := ih restFresh
      unfold insertOrder at rest ⊢
      rw [List.orderedInsert_cons]
      split
      · have unchanged := dropOrder_of_absent fresh
        simp only [dropOrder, List.filter_cons, ne_eq, not_true_eq_false,
          decide_false, Bool.false_eq_true, if_false] at unchanged ⊢
        exact unchanged
      · simp only [dropOrder, List.filter_cons, ne_eq, otherFresh,
          not_false_eq_true, decide_true, if_true] at rest ⊢
        rw [rest]

end Insert

section Identify

variable {order : Order} {queue : List Order}

theorem replaceOrder_cons_self {head : Order} (idEq : head.id = order.id)
    (others : ∀ other ∈ queue, other.id ≠ order.id) :
    replaceOrder order (head :: queue) = order :: queue := by
  have unchanged := replaceOrder_of_absent others
  unfold replaceOrder at unchanged ⊢
  rw [List.map_cons, if_pos idEq, unchanged]

theorem dropOrder_cons_self {id : Nat} {head : Order} (idEq : head.id = id)
    (others : ∀ other ∈ queue, other.id ≠ id) :
    dropOrder id (head :: queue) = queue := by
  have unchanged := dropOrder_of_absent others
  unfold dropOrder at unchanged ⊢
  simp only [List.filter_cons, idEq, ne_eq, not_true_eq_false, decide_false,
    Bool.false_eq_true, if_false] at unchanged ⊢
  exact unchanged

theorem mem_dropOrder {id : Nat} {other : Order} :
    other ∈ dropOrder id queue ↔ other ∈ queue ∧ other.id ≠ id := by
  simp [dropOrder]

theorem replaceOrder_replaceOrder {first second : Order} (idEq : first.id = second.id) :
    replaceOrder second (replaceOrder first queue) = replaceOrder second queue := by
  unfold replaceOrder
  rw [List.map_map]
  apply List.map_congr_left
  intro other _
  simp only [Function.comp_apply]
  split <;> simp_all

theorem dropOrder_replaceOrder {id : Nat} (idEq : order.id = id) :
    dropOrder id (replaceOrder order queue) = dropOrder id queue := by
  subst idEq
  induction queue with
  | nil => rfl
  | cons other queue ih =>
      unfold dropOrder replaceOrder at ih ⊢
      rw [List.map_cons, List.filter_cons, List.filter_cons, ih]
      split <;> simp_all

end Identify

end OrderBookExchange
