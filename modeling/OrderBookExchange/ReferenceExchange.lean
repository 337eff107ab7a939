import OrderBookExchange.MatchingEngine
import Mathlib.Data.List.Sort

/-!
# A naive reference exchange

The reference keeps one flat list of live orders for each symbol, in arrival
order, and nothing else.  To match a submission it searches that list again
for every trade.  Its quantities are natural numbers and its prices are
compared in their order, so nothing here depends on machine arithmetic, on a
pool or on price levels.
-/

namespace OrderBookExchange

/-- One line of the reference's list. -/
structure LiveOrder where
  id : Nat
  buy : Bool
  price : Price
  remaining : Nat
  deriving DecidableEq

structure ReferenceTrade where
  buyOrderId : Nat
  sellOrderId : Nat
  price : Price
  quantity : Nat
  deriving DecidableEq

/-- A price is strictly better than another for orders of a side. -/
def BetterPrice (buy : Bool) (first second : Price) : Prop :=
  if buy then second < first else first < second

instance (buy : Bool) (first second : Price) : Decidable (BetterPrice buy first second) :=
  inferInstanceAs (Decidable (if buy then second < first else first < second))

/-- Price priority, and arrival among equal prices. -/
def LiveOrder.Before (buy : Bool) (first second : LiveOrder) : Prop :=
  BetterPrice buy first.price second.price ∨
    first.price = second.price ∧ first.id < second.id

instance (buy : Bool) (first second : LiveOrder) :
    Decidable (LiveOrder.Before buy first second) :=
  inferInstanceAs (Decidable (_ ∨ _ ∧ _))

/-- The reflexive form of `Before`, by which the reference's orders are
sorted for comparison. -/
def LiveOrder.AtOrBefore (buy : Bool) (first second : LiveOrder) : Prop :=
  BetterPrice buy first.price second.price ∨
    first.price = second.price ∧ first.id ≤ second.id

instance (buy : Bool) (first second : LiveOrder) :
    Decidable (LiveOrder.AtOrBefore buy first second) :=
  inferInstanceAs (Decidable (_ ∨ _ ∧ _))

/-- Search a list for the order that comes before all others. -/
def best? (buy : Bool) : List LiveOrder → Option LiveOrder
  | [] => none
  | order :: rest =>
      match best? buy rest with
      | none => some order
      | some other => if LiveOrder.Before buy other order then some other else some order

/-- Take shares from one order; it leaves the list when none are left. -/
def fill (id quantity : Nat) (live : List LiveOrder) : List LiveOrder :=
  live.filterMap fun order =>
    if order.id = id then
      if order.remaining = quantity then none
      else some { order with remaining := order.remaining - quantity }
    else some order

/-- A submission as the reference sees it. -/
structure Request where
  id : Nat
  buy : Bool
  market : Bool
  price : Price

namespace Request

/-- Market orders cross every price. -/
def Crosses (request : Request) (price : Price) : Prop :=
  request.market ∨ if request.buy then price ≤ request.price else request.price ≤ price

instance (request : Request) (price : Price) : Decidable (request.Crosses price) :=
  inferInstanceAs (Decidable (_ ∨ if request.buy then price ≤ request.price
    else request.price ≤ price))

/-- A trade with a live order, at that order's price. -/
def trade (request : Request) (resting : LiveOrder) (quantity : Nat) : ReferenceTrade where
  buyOrderId := if request.buy then request.id else resting.id
  sellOrderId := if request.buy then resting.id else request.id
  price := resting.price
  quantity := quantity

/-- Trade with the best opposite order while there is one that crosses. -/
def matchLive (request : Request) :
    Nat → Nat → List LiveOrder → List ReferenceTrade × Nat × List LiveOrder
  | 0, remaining, live => ([], remaining, live)
  | fuel + 1, remaining, live =>
      if remaining = 0 then ([], 0, live)
      else
        match best? (!request.buy) (live.filter fun order => order.buy = !request.buy) with
        | none => ([], remaining, live)
        | some resting =>
            if request.Crosses resting.price then
              let quantity := min remaining resting.remaining
              let later := request.matchLive fuel (remaining - quantity)
                (fill resting.id quantity live)
              (request.trade resting quantity :: later.1, later.2)
            else ([], remaining, live)

end Request

structure ReferenceBook where
  live : List LiveOrder
  nextOrderId : Nat

namespace ReferenceBook

def empty : ReferenceBook where
  live := []
  nextOrderId := 1

/-- Match a submission against the live orders.  Every trade but the last
removes one of them, so there are at most as many trades as live orders. -/
def matching (book : ReferenceBook) (side : Side) (type : OrderType) (price : Price)
    (quantity : Quantity) : List ReferenceTrade × Nat × List LiveOrder :=
  Request.matchLive ⟨book.nextOrderId, side.isBuy, type = .market, price⟩
    (book.live.length + 1) quantity.toNat book.live

/-- Match a valid submission, then rest the remainder of a limit order. -/
def submit (book : ReferenceBook) (side : Side) (type : OrderType) (price : Price)
    (quantity : Quantity) : ReferenceBook × Nat × List ReferenceTrade :=
  if rejects type price quantity then (book, 0, [])
  else
    let result := book.matching side type price quantity
    let live :=
      if result.2.1 ≠ 0 ∧ type = .limit then
        result.2.2 ++ [⟨book.nextOrderId, side.isBuy, price, result.2.1⟩]
      else result.2.2
    (⟨live, book.nextOrderId + 1⟩, book.nextOrderId, result.1)

def cancel (book : ReferenceBook) (id : Nat) : ReferenceBook × Bool :=
  if ∃ order ∈ book.live, order.id = id then
    ({ book with live := book.live.filter fun order => order.id ≠ id }, true)
  else (book, false)

/-- Shrink an order in place; shrinking to nothing cancels it, and an order
never grows. -/
def reduce (book : ReferenceBook) (id newQuantity : Nat) : ReferenceBook × Bool :=
  if ∃ order ∈ book.live, order.id = id ∧ newQuantity < order.remaining then
    if newQuantity = 0 then
      ({ book with live := book.live.filter fun order => order.id ≠ id }, true)
    else
      ({ book with
          live := book.live.map fun order =>
            if order.id = id then { order with remaining := newQuantity } else order }, true)
  else (book, false)

end ReferenceBook

inductive ReferenceOutput where
  | submitted (id : Nat) (trades : List ReferenceTrade)
  | cancelled (found : Bool)
  | reduced (done : Bool)
  deriving DecidableEq

/-- A flat list for every symbol. -/
abbrev ReferenceExchange := Symbol → ReferenceBook

namespace ReferenceExchange

def empty : ReferenceExchange :=
  fun _ => ReferenceBook.empty

def step (books : ReferenceExchange) : EngineOp → ReferenceExchange × ReferenceOutput
  | .submit _ symbol side type price quantity =>
      let result := (books symbol).submit side type price quantity
      (Function.update books symbol result.1, .submitted result.2.1 result.2.2)
  | .cancel symbol orderId =>
      let result := (books symbol).cancel orderId
      (Function.update books symbol result.1, .cancelled result.2)
  | .reduce symbol orderId newQuantity =>
      let result := (books symbol).reduce orderId newQuantity.toNat
      (Function.update books symbol result.1, .reduced result.2)

end ReferenceExchange

/-! ### The order of the reference -/

section Order

variable {buy : Bool}

theorem BetterPrice.trans {first second third : Price}
    (firstBetter : BetterPrice buy first second) (secondBetter : BetterPrice buy second third) :
    BetterPrice buy first third := by
  cases buy
  · exact lt_trans (show first < second from firstBetter) secondBetter
  · exact lt_trans (show third < second from secondBetter) firstBetter

theorem not_betterPrice_self (price : Price) : ¬BetterPrice buy price price := by
  cases buy <;> simp [BetterPrice]

theorem betterPrice_or (first second : Price) :
    BetterPrice buy first second ∨ first = second ∨ BetterPrice buy second first := by
  rcases lt_trichotomy first second with less | same | more
  · cases buy <;> simp [BetterPrice, less]
  · exact Or.inr (Or.inl same)
  · cases buy <;> simp [BetterPrice, more]

namespace LiveOrder

theorem Before.trans {first second third : LiveOrder} (firstBefore : Before buy first second)
    (secondBefore : Before buy second third) : Before buy first third := by
  rcases firstBefore with firstBetter | ⟨firstPrice, firstId⟩
  · rcases secondBefore with secondBetter | ⟨secondPrice, -⟩
    · exact Or.inl (firstBetter.trans secondBetter)
    · exact Or.inl (secondPrice ▸ firstBetter)
  · rcases secondBefore with secondBetter | ⟨secondPrice, secondId⟩
    · exact Or.inl (firstPrice ▸ secondBetter)
    · exact Or.inr ⟨firstPrice.trans secondPrice, firstId.trans secondId⟩

theorem not_before_self (order : LiveOrder) : ¬Before buy order order := by
  rintro (better | ⟨-, less⟩)
  · exact not_betterPrice_self _ better
  · exact lt_irrefl _ less

/-- What does not come before an order cannot stand between it and an earlier
one. -/
theorem Before.of_not_before {first second other : LiveOrder}
    (before : Before buy first second) (notBefore : ¬Before buy other second) :
    Before buy first other := by
  rcases betterPrice_or second.price other.price with better | same | worse
  · exact before.trans (Or.inl better)
  · rcases Nat.lt_trichotomy second.id other.id with less | idEq | more
    · exact before.trans (Or.inr ⟨same, less⟩)
    · rcases before with better | ⟨priceEq, less⟩
      · exact Or.inl (same ▸ better)
      · exact Or.inr ⟨priceEq.trans same, idEq ▸ less⟩
    · exact absurd (Or.inr ⟨same.symm, more⟩) notBefore
  · exact absurd (Or.inl worse) notBefore

theorem Before.atOrBefore {first second : LiveOrder} (before : Before buy first second) :
    AtOrBefore buy first second := by
  rcases before with better | ⟨same, less⟩
  · exact Or.inl better
  · exact Or.inr ⟨same, less.le⟩

instance : Std.Total (AtOrBefore buy) where
  total := by
    intro first second
    rcases betterPrice_or first.price second.price with better | same | worse
    · exact Or.inl (Or.inl better)
    · rcases Nat.le_total first.id second.id with atMost | atLeast
      · exact Or.inl (Or.inr ⟨same, atMost⟩)
      · exact Or.inr (Or.inr ⟨same.symm, atLeast⟩)
    · exact Or.inr (Or.inl worse)

instance : IsTrans LiveOrder (AtOrBefore buy) where
  trans := by
    rintro first second third (firstBetter | ⟨firstPrice, firstId⟩)
      (secondBetter | ⟨secondPrice, secondId⟩)
    · exact Or.inl (firstBetter.trans secondBetter)
    · exact Or.inl (secondPrice ▸ firstBetter)
    · exact Or.inl (firstPrice ▸ secondBetter)
    · exact Or.inr ⟨firstPrice.trans secondPrice, firstId.trans secondId⟩

theorem AtOrBefore.id_eq {first second : LiveOrder} (forward : AtOrBefore buy first second)
    (backward : AtOrBefore buy second first) : first.id = second.id := by
  rcases forward with firstBetter | ⟨firstPrice, firstId⟩
  · rcases backward with secondBetter | ⟨secondPrice, -⟩
    · exact absurd (firstBetter.trans secondBetter) (not_betterPrice_self _)
    · rw [secondPrice] at firstBetter
      exact absurd firstBetter (not_betterPrice_self _)
  · rcases backward with secondBetter | ⟨-, secondId⟩
    · rw [firstPrice] at secondBetter
      exact absurd secondBetter (not_betterPrice_self _)
    · exact le_antisymm firstId secondId

end LiveOrder

end Order

theorem best?_of_before {buy : Bool} {live : List LiveOrder} {order : LiveOrder}
    (member : order ∈ live)
    (first : ∀ other ∈ live, other ≠ order → LiveOrder.Before buy order other) :
    best? buy live = some order := by
  -- whatever is found is in the list, and nothing in the list comes before it
  have spec : ∀ live : List LiveOrder, live ≠ [] → ∃ found, best? buy live = some found ∧
      found ∈ live ∧ ∀ other ∈ live, ¬LiveOrder.Before buy other found := by
    intro live
    induction live with
    | nil => simp
    | cons head tail ih =>
        intro _
        cases tail with
        | nil =>
            refine ⟨head, rfl, by simp, ?_⟩
            intro other otherMem
            rw [List.mem_singleton] at otherMem
            subst otherMem
            exact LiveOrder.not_before_self other
        | cons second rest =>
            obtain ⟨found, foundEq, foundMem, least⟩ := ih (by simp)
            rw [best?, foundEq]
            by_cases earlier : LiveOrder.Before buy found head
            · refine ⟨found, by simp [earlier], List.mem_cons_of_mem head foundMem, ?_⟩
              intro other otherMem
              rcases List.mem_cons.mp otherMem with rfl | inTail
              · intro back
                exact LiveOrder.not_before_self _ (earlier.trans back)
              · exact least other inTail
            · refine ⟨head, by simp [earlier], by simp, ?_⟩
              intro other otherMem
              rcases List.mem_cons.mp otherMem with rfl | inTail
              · exact LiveOrder.not_before_self other
              · intro otherEarlier
                exact least other inTail (otherEarlier.of_not_before earlier)
  obtain ⟨found, foundEq, foundMem, least⟩ := spec live (List.ne_nil_of_mem member)
  rw [foundEq]
  by_contra different
  exact least order member (first found foundMem (fun same => different (by rw [same])))

end OrderBookExchange
