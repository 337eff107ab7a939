import OrderBookExchange.BookRuns
import OrderBookExchange.RestingOrders

/-!
# Orders as their submitters know them

A caller sees the calls it made and their results, and nothing of the book.
From these alone one can tell which orders were accepted and under which
identifier, and how much of each is still open.  This file follows one book and
shows that the book agrees with that account at every step.
-/

namespace OrderBookExchange

/-- An accepted submission. -/
structure Submission where
  symbol : Symbol
  id : Nat
  side : Side
  type : OrderType
  price : Price
  quantity : Quantity
  deriving DecidableEq

/-- A submission that passes validation. -/
def EngineOp.Accepted : EngineOp → Prop
  | .submit _ _ _ type price quantity => ¬rejects type price quantity = true
  | _ => False

instance EngineOp.decidableAccepted : (op : EngineOp) → Decidable op.Accepted
  | .submit .. => inferInstanceAs (Decidable (¬_))
  | .cancel .. => .isFalse id
  | .reduce .. => .isFalse id

/-- The submission recorded by a call that returned an identifier. -/
def submissionOf : EngineOp × EngineOutput → Option Submission
  | (.submit _ symbol side type price quantity, .submitted id _) =>
      if id = 0 then none else some ⟨symbol, id, side, type, price, quantity⟩
  | _ => none

def submissions (history : List (EngineOp × EngineOutput)) : List Submission :=
  history.filterMap submissionOf

theorem submissionOf_eq_some {entry : EngineOp × EngineOutput} {submission : Submission}
    (recorded : submissionOf entry = some submission) :
    ∃ clock, entry.1 = .submit clock submission.symbol submission.side submission.type
      submission.price submission.quantity ∧
        entry.2 = .submitted submission.id entry.2.trades := by
  unfold submissionOf at recorded
  split at recorded
  · split at recorded
    · simp at recorded
    · rw [Option.some.injEq] at recorded
      subst recorded
      exact ⟨_, rfl, rfl⟩
  · simp at recorded

/-- The entries of a history that concern a symbol. -/
def historyOn (symbol : Symbol) (history : List (EngineOp × EngineOutput)) :
    List (EngineOp × EngineOutput) :=
  history.filter fun entry => entry.1.symbol = symbol

theorem submissions_historyOn (symbol : Symbol) (history : List (EngineOp × EngineOutput)) :
    submissions (historyOn symbol history) =
      (submissions history).filter fun submission => submission.symbol = symbol := by
  induction history with
  | nil => rfl
  | cons entry history ih =>
      rw [submissions, submissions, List.filterMap_cons]
      rw [historyOn, submissions, submissions] at ih
      cases recorded : submissionOf entry with
      | none =>
          rw [← ih, historyOn]
          by_cases onSymbol : entry.1.symbol = symbol
          · rw [List.filter_cons_of_pos (by simpa using onSymbol), List.filterMap_cons, recorded]
          · rw [List.filter_cons_of_neg (by simpa using onSymbol)]
      | some submission =>
          obtain ⟨clock, opEq, -⟩ := submissionOf_eq_some recorded
          have named : entry.1.symbol = submission.symbol := by
            rw [opEq]
            rfl
          dsimp only
          rw [historyOn]
          by_cases onSymbol : submission.symbol = symbol
          · rw [List.filter_cons_of_pos (by simpa [named] using onSymbol), List.filterMap_cons,
              recorded, List.filter_cons_of_pos (by simpa using onSymbol), ← ih]
          · rw [List.filter_cons_of_neg (by simpa [named] using onSymbol),
              List.filter_cons_of_neg (by simpa using onSymbol), ← ih]

theorem mem_submissions_historyOn {symbol : Symbol} {history : List (EngineOp × EngineOutput)}
    {submission : Submission} :
    submission ∈ submissions (historyOn symbol history) ↔
      submission ∈ submissions history ∧ submission.symbol = symbol := by
  rw [submissions_historyOn, List.mem_filter, decide_eq_true_eq]

/-- All trades of a history, in the order in which they were reported. -/
def reportedTrades (history : List (EngineOp × EngineOutput)) : List Trade :=
  history.flatMap fun entry => entry.2.trades

@[simp]
theorem reportedTrades_nil : reportedTrades [] = [] :=
  rfl

@[simp]
theorem reportedTrades_cons (entry : EngineOp × EngineOutput)
    (history : List (EngineOp × EngineOutput)) :
    reportedTrades (entry :: history) = entry.2.trades ++ reportedTrades history :=
  rfl

theorem reportedTrades_append (first second : List (EngineOp × EngineOutput)) :
    reportedTrades (first ++ second) = reportedTrades first ++ reportedTrades second := by
  rw [reportedTrades, List.flatMap_append]
  rfl

/-- Whether a call cancelled the order with an identifier. -/
def cancels (id : Nat) : EngineOp × EngineOutput → Bool
  | (.cancel _ orderId, .cancelled true) => orderId = id
  | _ => false

/-- The order a call cancelled. -/
def cancelledId : EngineOp × EngineOutput → Option Nat
  | (.cancel _ orderId, .cancelled true) => some orderId
  | _ => none

theorem cancels_eq (id : Nat) (entry : EngineOp × EngineOutput) :
    cancels id entry = decide (cancelledId entry = some id) := by
  rcases entry with ⟨_ | _ | _, _ | found | _⟩
  case cancel.cancelled => cases found <;> simp [cancels, cancelledId]
  all_goals simp [cancels, cancelledId]

/-- What a call leaves open of an order, apart from cancelling it: trades take
their quantity off and a reduction sets the quantity. -/
def openAfter (id : Nat) (left : Nat) : EngineOp × EngineOutput → Nat
  | (.submit _ _ _ _ _ _, .submitted _ trades) => left - tradedQty trades id
  | (.reduce _ orderId newQuantity, .reduced true) =>
      if orderId = id then newQuantity.toNat else left
  | _ => left

/-- What a sequence of calls leaves open of an order. -/
def openQty (id : Nat) (left : Nat) (history : List (EngineOp × EngineOutput)) : Nat :=
  history.foldl (openAfter id) left

/-- Orders of this type stay on the book with what matching leaves of them.
Among the declared types that is the limit order alone. -/
def OrderType.Rests (type : OrderType) : Prop :=
  ¬(type = .market ∨ type = .ioc)

instance OrderType.decidableRests (type : OrderType) : Decidable type.Rests :=
  inferInstanceAs (Decidable (¬_))

theorem OrderType.rests_iff (type : OrderType) :
    type.Rests ↔ type = .limit ∨ ¬type.Declared := by
  cases type <;> simp [Rests, Declared]

namespace OrderBook

variable {book : OrderBook}

theorem remainingOf_eq_zero_iff (unfilled : book.Unfilled) {id : Nat} :
    book.remainingOf id = 0 ↔ book.orderAt id = none := by
  refine ⟨?_, remainingOf_of_none⟩
  intro zero
  cases found : book.orderAt id with
  | none => rfl
  | some order =>
      rw [remainingOf, found] at zero
      have empty : order.remainingQty.toNat = (0 : Quantity).toNat := zero
      exact absurd (UInt32.toNat_inj.mp empty) (unfilled id order found)

/-! ### What an accepted submission does to the orders -/

section Accept

variable (clock : Clock) (side : Side) (type : OrderType) (price : Price) (quantity : Quantity)
  (linked : book.Linked) (unfilled : book.Unfilled)
include linked unfilled

theorem acceptOrder_old {id : Nat} (old : id ≠ book.nextOrderId) :
    (book.acceptOrder clock side type price quantity).1.remainingOf id =
      book.remainingOf id -
        tradedQty (book.acceptOrder clock side type price quantity).2.2 id := by
  obtain ⟨-, -, -, balance⟩ :=
    acceptOrder_conserved clock side type price quantity linked unfilled
  have balanced := balance id
  rw [if_neg old, if_neg old] at balanced
  omega

theorem acceptOrder_new_rests (rests : type.Rests) :
    (book.acceptOrder clock side type price quantity).1.remainingOf book.nextOrderId =
      quantity.toNat - tradedQty (book.acceptOrder clock side type price quantity).2.2
        book.nextOrderId := by
  obtain ⟨-, -, -, balance⟩ :=
    acceptOrder_conserved clock side type price quantity linked unfilled
  have balanced := balance book.nextOrderId
  have fresh := remainingOf_of_none (linked.orderAt_none_of_le (le_refl book.nextOrderId))
  rw [if_pos rfl, if_pos rfl, discardedQty, if_neg rests, fresh] at balanced
  omega

theorem acceptOrder_new_gone (immediate : ¬type.Rests) :
    (book.acceptOrder clock side type price quantity).1.orderAt book.nextOrderId = none := by
  cases found : (book.acceptOrder clock side type price quantity).1.orderAt book.nextOrderId with
  | none => rfl
  | some order =>
      rcases acceptOrder_terms clock side type price quantity linked unfilled found with
        ⟨older, olderFound, -⟩ | ⟨-, rests⟩
      · exact absurd (linked.lt_of_orderAt olderFound) (lt_irrefl _)
      · exact absurd rests immediate

theorem acceptOrder_names {trade : Trade}
    (member : trade ∈ (book.acceptOrder clock side type price quantity).2.2) {id : Nat}
    (named : trade.Names id) : id = book.nextOrderId ∨ book.orderAt id ≠ none := by
  rw [acceptOrder_eq] at member
  obtain ⟨-, ⟨buyer, buyerFound, -⟩, seller, sellerFound, -⟩ :=
    (matched_from clock side type price quantity linked unfilled).parties trade member
  rw [orderAt_addOrder side type price quantity (clock 1) linked] at buyerFound sellerFound
  by_cases own : id = book.nextOrderId
  · exact Or.inl own
  · right
    rcases named with rfl | rfl
    · rw [if_neg own] at buyerFound
      simp [buyerFound]
    · rw [if_neg own] at sellerFound
      simp [sellerFound]

end Accept

/-! ### Following one order -/

section Follow

variable (linked : book.Linked) (unfilled : book.Unfilled) {id : Nat}
include linked unfilled

theorem nextOrderId_le_step (op : EngineOp) :
    book.nextOrderId ≤ (book.step op).1.nextOrderId := by
  cases op with
  | submit clock symbol side type price quantity =>
      by_cases rejected : rejects type price quantity = true
      · rw [step_submit_of_rejects book clock symbol side rejected]
      · rw [step_submit_of_accepts book clock symbol side rejected]
        obtain ⟨-, -, nextEq, -⟩ := acceptOrder_conserved clock side type
          (effectivePrice side type price) quantity linked unfilled
        rw [nextEq]
        exact Nat.le_succ _
  | cancel symbol orderId => exact (cancelOrder_conserved linked unfilled orderId).2.2.1.ge
  | reduce symbol orderId newQuantity =>
      exact (reduceOrder_conserved linked unfilled orderId newQuantity).2.2.1.ge

/-- What a call does to an order that was accepted before it. -/
theorem remainingOf_step (old : id < book.nextOrderId) (op : EngineOp) :
    (book.step op).1.remainingOf id =
      if cancels id (op, (book.step op).2) then 0
      else openAfter id (book.remainingOf id) (op, (book.step op).2) := by
  cases op with
  | submit clock symbol side type price quantity =>
      rw [if_neg (by simp [cancels])]
      by_cases rejected : rejects type price quantity = true
      · rw [step_submit_of_rejects book clock symbol side rejected]
        rfl
      · rw [step_submit_of_accepts book clock symbol side rejected]
        exact acceptOrder_old clock side type _ quantity linked unfilled (Nat.ne_of_lt old)
  | cancel symbol orderId =>
      obtain ⟨-, -, -, foundEq, orders⟩ := cancelOrder_conserved linked unfilled orderId
      rw [step_cancel]
      dsimp only
      by_cases same : id = orderId
      · subst same
        rw [remainingOf_of_none (by rw [orders, if_pos rfl]), foundEq]
        cases found : book.orderAt id with
        | none => simp [cancels, openAfter, remainingOf_of_none found]
        | some order => simp [cancels]
      · have kept : (book.cancelOrder orderId).1.remainingOf id = book.remainingOf id :=
          remainingOf_of_orderAt (by rw [orders, if_neg same])
        have otherId : orderId ≠ id := fun eq => same eq.symm
        rw [kept]
        cases (book.cancelOrder orderId).2 <;> simp [cancels, openAfter, otherId]
  | reduce symbol orderId newQuantity =>
      obtain ⟨-, -, -, others, outcome⟩ :=
        reduceOrder_conserved linked unfilled orderId newQuantity
      rw [step_reduce, if_neg (by simp [cancels])]
      dsimp only
      by_cases same : id = orderId
      · subst same
        rcases outcome with ⟨done, leftEq, -⟩ | ⟨failed, unchanged⟩
        · rw [leftEq, done, openAfter, if_pos rfl]
        · rw [unchanged, failed, openAfter]
          all_goals simp
      · rw [remainingOf_of_orderAt (others id same)]
        have otherId : orderId ≠ id := fun eq => same eq.symm
        cases (book.reduceOrder orderId newQuantity).2 <;> simp [openAfter, otherId]

theorem orderAt_of_cancels {op : EngineOp} (cancelled : cancels id (op, (book.step op).2) = true) :
    book.orderAt id ≠ none := by
  cases op with
  | submit clock symbol side type price quantity => simp [cancels] at cancelled
  | cancel symbol orderId =>
      obtain ⟨-, -, -, foundEq, -⟩ := cancelOrder_conserved linked unfilled orderId
      rw [step_cancel, foundEq] at cancelled
      intro absent
      by_cases same : orderId = id
      · rw [same, absent] at cancelled
        simp [cancels] at cancelled
      · cases present : (book.orderAt orderId).isSome <;> simp [cancels, present, same] at cancelled
  | reduce symbol orderId newQuantity => simp [cancels] at cancelled

/-- A call that cancels or shrinks an order, or trades with it, finds it on the
book. -/
theorem untouched_step (old : id < book.nextOrderId) (gone : book.orderAt id = none)
    (op : EngineOp) :
    (book.step op).1.orderAt id = none ∧
      (∀ trade ∈ (book.step op).2.trades, ¬trade.Names id) ∧
      cancels id (op, (book.step op).2) = false ∧
      ∀ symbol newQuantity, op = .reduce symbol id newQuantity →
        (book.step op).2 = .reduced false := by
  obtain ⟨nextLinked, nextUnfilled⟩ := linked_step linked unfilled op
  rw [← remainingOf_eq_zero_iff nextUnfilled, remainingOf_step linked unfilled old]
  have nothing := remainingOf_of_none gone
  have fails : cancels id (op, (book.step op).2) = false :=
    Bool.eq_false_iff.mpr fun cancelled => orderAt_of_cancels linked unfilled cancelled gone
  rw [fails, if_neg Bool.false_ne_true]
  cases op with
  | submit clock symbol side type price quantity =>
      refine ⟨?_, ?_, rfl, by simp⟩
      · by_cases rejected : rejects type price quantity = true
        · rw [step_submit_of_rejects book clock symbol side rejected, nothing]
          rfl
        · rw [step_submit_of_accepts book clock symbol side rejected, nothing]
          simp [openAfter]
      · intro trade member named
        by_cases rejected : rejects type price quantity = true
        · rw [step_submit_of_rejects book clock symbol side rejected] at member
          simp [EngineOutput.trades] at member
        · rw [step_submit_of_accepts book clock symbol side rejected] at member
          rcases acceptOrder_names clock side type _ quantity linked unfilled member named with
            own | present
          · exact Nat.ne_of_lt old own
          · exact present gone
  | cancel symbol orderId =>
      refine ⟨?_, by simp [step_cancel, EngineOutput.trades], rfl, by simp⟩
      rw [step_cancel, nothing]
      simp [openAfter]
  | reduce symbol orderId newQuantity =>
      obtain ⟨-, -, -, -, outcome⟩ := reduceOrder_conserved linked unfilled orderId newQuantity
      have refused : orderId = id → (book.reduceOrder orderId newQuantity).2 = false := by
        rintro rfl
        rcases outcome with ⟨-, -, smaller⟩ | ⟨failed, -⟩
        · omega
        · exact failed
      refine ⟨?_, by simp [step_reduce, EngineOutput.trades], rfl, ?_⟩
      · rw [step_reduce]
        by_cases same : orderId = id
        · rw [refused same, openAfter, nothing]
          all_goals simp
        · cases (book.reduceOrder orderId newQuantity).2 <;> simp [openAfter, same, nothing]
      · rintro named other shape
        injection shape with _ sameId _
        rw [step_reduce, refused sameId]

end Follow

end OrderBook

end OrderBookExchange
