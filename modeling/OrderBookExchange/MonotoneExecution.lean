import OrderBookExchange.LadderWalk
import OrderBookExchange.LimitProtection
import OrderBookExchange.TimestampErasure

/-!
# More aggressive orders trade more

With a limit that reaches further an order does what it did before and goes on:
its trades begin with those under the tighter limit.  With a larger quantity the
last trade may also grow, because it took only part of a resting order.
-/

namespace OrderBookExchange

/-- The first list begins the second, except that its last entry is only below
its counterpart. -/
def BeginsUpToLast {Entry : Type*} (below : Entry → Entry → Prop) (shorter longer : List Entry) :
    Prop :=
  shorter = [] ∨ ∃ front last counterpart rest, shorter = front ++ [last] ∧
    longer = front ++ counterpart :: rest ∧ below last counterpart

namespace BeginsUpToLast

variable {Entry Other : Type*} {below : Entry → Entry → Prop} {shorter longer : List Entry}

theorem cons (reflexive : ∀ entry, below entry entry) (entry : Entry)
    (begins : BeginsUpToLast below shorter longer) :
    BeginsUpToLast below (entry :: shorter) (entry :: longer) := by
  rcases begins with rfl | ⟨front, last, counterpart, rest, rfl, rfl, smaller⟩
  · exact Or.inr ⟨[], entry, entry, longer, rfl, rfl, reflexive entry⟩
  · exact Or.inr ⟨entry :: front, last, counterpart, rest, rfl, rfl, smaller⟩

theorem map {otherBelow : Other → Other → Prop} {onEntry : Entry → Other}
    (kept : ∀ last ∈ shorter, ∀ counterpart ∈ longer, below last counterpart →
      otherBelow (onEntry last) (onEntry counterpart))
    (begins : BeginsUpToLast below shorter longer) :
    BeginsUpToLast otherBelow (shorter.map onEntry) (longer.map onEntry) := by
  rcases begins with rfl | ⟨front, last, counterpart, rest, rfl, rfl, smaller⟩
  · exact Or.inl rfl
  · refine Or.inr ⟨front.map onEntry, onEntry last, onEntry counterpart, rest.map onEntry,
      by simp, by simp, kept last (by simp) counterpart (by simp) smaller⟩

end BeginsUpToLast

/-- A fill of the same order, at the same price, for no more. -/
structure RestingFill.Below (fill counterpart : RestingFill) : Prop where
  restingId : fill.restingId = counterpart.restingId
  price : fill.price = counterpart.price
  quantity : fill.quantity ≤ counterpart.quantity

/-- A trade between the same orders, at the same price, for no more. -/
structure Trade.Below (trade counterpart : Trade) : Prop where
  same : trade = { counterpart with quantity := trade.quantity }
  quantity : trade.quantity ≤ counterpart.quantity

namespace Ladder

theorem walk_fills_reach {narrow wide : Price → Bool} (left : Nat) (ladder : Ladder)
    (wider : ∀ order ∈ ladder.orders, narrow order.price = true → wide order.price = true) :
    (ladder.walk narrow left).fills <+: (ladder.walk wide left).fills := by
  induction ladder using front_induction generalizing left with
  | bare ladder bare =>
      rw [walk_of_bare bare]
      exact List.nil_prefix
  | front key order rest levels ih =>
      by_cases stop : left = 0 ∨ narrow order.price = false
      · rw [walk_stop stop]
        exact List.nil_prefix
      · simp only [not_or, Bool.not_eq_false] at stop
        have wideReach : wide order.price = true :=
          wider order (by simp [orders]) stop.2
        by_cases enough : order.remainingQty.toNat ≤ left
        · rw [walk_take stop.1 stop.2 enough, walk_take stop.1 wideReach enough]
          refine (List.prefix_cons_inj _).mpr (ih _ ?_)
          intro other member
          rw [orders_shelve] at member
          exact wider other (List.mem_cons_of_mem order member)
        · rw [walk_part stop.1 stop.2 (by omega), walk_part stop.1 wideReach (by omega)]

/-- A larger quantity adds fills at the end and may enlarge the last one. -/
theorem walk_fills_quantity (reach : Price → Bool) {less more : Nat} (atMost : less ≤ more)
    (ladder : Ladder) :
    BeginsUpToLast RestingFill.Below (ladder.walk reach less).fills
      (ladder.walk reach more).fills := by
  induction ladder using front_induction generalizing less more with
  | bare ladder bare =>
      rw [walk_of_bare bare]
      exact Or.inl rfl
  | front key order rest levels ih =>
      by_cases stop : less = 0 ∨ reach order.price = false
      · rw [walk_stop stop]
        exact Or.inl rfl
      · simp only [not_or, Bool.not_eq_false] at stop
        by_cases enough : order.remainingQty.toNat ≤ less
        · rw [walk_take stop.1 stop.2 enough, walk_take (by omega) stop.2 (by omega)]
          exact (ih (by omega)).cons (fun _ => ⟨rfl, rfl, le_rfl⟩) _
        · rw [walk_part stop.1 stop.2 (by omega)]
          right
          by_cases moreTakes : order.remainingQty.toNat ≤ more
          · rw [walk_take (by omega) stop.2 moreTakes]
            exact ⟨[], _, _, _, rfl, rfl, ⟨rfl, rfl, by dsimp only; omega⟩⟩
          · rw [walk_part (by omega) stop.2 (by omega)]
            exact ⟨[], _, _, [], rfl, rfl, ⟨rfl, rfl, atMost⟩⟩

end Ladder

/-- The trade of an aggressor with a resting order, apart from its time. -/
def RestingFill.trade (buyAggressor : Bool) (aggressorId : Nat) (fill : RestingFill) : Trade where
  buyOrderId := if buyAggressor then aggressorId else fill.restingId
  sellOrderId := if buyAggressor then fill.restingId else aggressorId
  price := fill.price
  quantity := UInt32.ofNat fill.quantity
  timestamp := 0

/-- The second limit is at least as good to trade against as the first. -/
def atLeastAsAggressive (side : Side) (limit other : Price) : Bool :=
  if side.isBuy then limit.le other else other.le limit

theorem reaches_of_aggressive {side : Side} {limit other price : Price}
    (aggressive : atLeastAsAggressive side limit other = true)
    (reached : reaches side.isBuy limit price = true) : reaches side.isBuy other price = true := by
  unfold atLeastAsAggressive at aggressive
  unfold reaches at reached ⊢
  cases isBuy : side.isBuy
  · rw [isBuy] at aggressive reached
    exact Double.le_trans_eq_true aggressive reached
  · rw [isBuy] at aggressive reached
    exact Double.le_trans_eq_true reached aggressive

namespace OrderBook

variable {book : OrderBook}

section Submission

variable (clock otherClock : Clock) (side : Side) (type otherType : OrderType)
  (price otherPrice : Price) (quantity otherQuantity : Quantity)

/-- The trades of a submission, apart from their times, are what the walk up the
opposite ladder takes. -/
theorem acceptOrder_untimed (linked : book.Linked) (unfilled : book.Unfilled)
    (shelved : book.Shelved) :
    (book.acceptOrder clock side type price quantity).2.2.map Trade.untimed =
      (book.walked side price quantity).fills.map
        (RestingFill.trade side.isBuy book.nextOrderId) := by
  rw [← (acceptOrder_walked clock side type price quantity linked shelved).2.2.1, List.map_map]
  apply List.map_congr_left
  intro trade member
  obtain ⟨resting, -, -, -, -, -, buyer, seller⟩ :=
    acceptOrder_trade_terms clock side type price quantity linked unfilled member
  rw [Function.comp_apply, RestingFill.trade, Trade.fill, Trade.untimed]
  cases isBuy : side.isBuy
  · rw [isBuy] at seller
    simpa using seller
  · rw [isBuy] at buyer
    simpa using buyer

theorem acceptOrder_trades_reach (linked : book.Linked) (unfilled : book.Unfilled)
    (shelved : book.Shelved)
    (wider : ∀ order ∈ (book.ladder (!side.isBuy)).orders,
      reaches side.isBuy price order.price = true →
        reaches side.isBuy otherPrice order.price = true) :
    (book.acceptOrder clock side type price quantity).2.2.map Trade.untimed <+:
      (book.acceptOrder otherClock side otherType otherPrice quantity).2.2.map Trade.untimed := by
  rw [acceptOrder_untimed clock side type price quantity linked unfilled shelved,
    acceptOrder_untimed otherClock side otherType otherPrice quantity linked unfilled shelved]
  exact (Ladder.walk_fills_reach quantity.toNat _ wider).map _

theorem acceptOrder_trades_quantity (linked : book.Linked) (unfilled : book.Unfilled)
    (shelved : book.Shelved) (atMost : quantity ≤ otherQuantity) :
    BeginsUpToLast Trade.Below
      ((book.acceptOrder clock side type price quantity).2.2.map Trade.untimed)
      ((book.acceptOrder otherClock side type price otherQuantity).2.2.map Trade.untimed) := by
  have begins := Ladder.walk_fills_quantity (reaches side.isBuy price)
    (UInt32.le_iff_toNat_le.mp atMost) (book.ladder (!side.isBuy))
  have counterpartFills :=
    (acceptOrder_walked otherClock side type price otherQuantity linked shelved).2.2.1
  rw [acceptOrder_untimed clock side type price quantity linked unfilled shelved,
    acceptOrder_untimed otherClock side type price otherQuantity linked unfilled shelved]
  apply begins.map
  intro last _ counterpart member smaller
  have bounded : counterpart.quantity < UInt32.size := by
    change counterpart ∈ (book.walked side price otherQuantity).fills at member
    rw [← counterpartFills, List.mem_map] at member
    obtain ⟨trade, -, rfl⟩ := member
    exact UInt32.toNat_lt_size trade.quantity
  refine ⟨?_, ?_⟩
  · unfold RestingFill.trade
    rw [smaller.restingId, smaller.price]
  · unfold RestingFill.trade
    rw [UInt32.le_iff_toNat_le, UInt32.toNat_ofNat_of_lt' bounded,
      UInt32.toNat_ofNat_of_lt' (smaller.quantity.trans_lt bounded)]
    exact smaller.quantity

end Submission

/-! ### Resting prices are positive -/

theorem accepted_of_submissionOf {op : EngineOp} {submission : Submission}
    (issued : submissionOf (op, (book.step op).2) = some submission) : op.Accepted := by
  obtain ⟨clock, opEq, -⟩ := submissionOf_eq_some issued
  dsimp only at opEq
  subst opEq
  intro rejected
  rw [step_submit_of_rejects book clock submission.symbol submission.side rejected] at issued
  simp [submissionOf] at issued

theorem priced_run (symbol : Symbol) (poolSize : Nat) {ops : List EngineOp}
    (declared : ∀ op ∈ ops, op.Declared) {id : Nat} {order : Order}
    (found : (Transition.run step (new symbol poolSize) ops).1.orderAt id = some order) :
    order.price.le 0 = false := by
  rcases run_terms (linked_new symbol poolSize) (unfilled_new symbol poolSize) one_ne_zero ops
    found with ⟨_, absent, -⟩ | ⟨submission, member, recorded⟩
  · simp at absent
  · obtain ⟨⟨op, output⟩, inHistory, issued⟩ := List.mem_filterMap.mp member
    obtain ⟨before, after, opsEq, outputEq⟩ := Transition.exists_of_mem_history inHistory
    obtain ⟨clock, opEq, -⟩ := submissionOf_eq_some issued
    dsimp only at opsEq outputEq opEq
    have allowed := declared op (by simp [opsEq])
    rw [outputEq] at issued
    have accepted := accepted_of_submissionOf issued
    rw [opEq] at allowed accepted
    have limit : submission.type = .limit :=
      ((OrderType.rests_iff _).mp recorded.rests).resolve_right (not_not.mpr allowed.2)
    change ¬rejects submission.type submission.price submission.quantity = true at accepted
    rw [limit, recorded.price] at accepted
    apply Bool.eq_false_of_not_eq_true
    intro low
    apply accepted
    rw [rejects, low]
    simp

end OrderBook

namespace MatchingEngine

/-- Trades of a submission on an engine, apart from their times. -/
def tradesOf (engine : MatchingEngine) (clock : Clock) (symbol : Symbol) (side : Side)
    (type : OrderType) (price : Price) (quantity : Quantity) : List Trade :=
  (engine.submitOrder clock symbol side type price quantity).2.2.map Trade.untimed

theorem tradesOf_of_rejects (engine : MatchingEngine) (clock : Clock) (symbol : Symbol)
    (side : Side) {type : OrderType} {price : Price} {quantity : Quantity}
    (rejected : rejects type price quantity = true) :
    engine.tradesOf clock symbol side type price quantity = [] := by
  rw [tradesOf, submitOrder]
  simp [rejected]

theorem tradesOf_of_accepts (engine : MatchingEngine) (clock : Clock) (symbol : Symbol)
    (side : Side) {type : OrderType} {price : Price} {quantity : Quantity}
    (accepted : ¬rejects type price quantity = true) :
    engine.tradesOf clock symbol side type price quantity =
      ((engine.book symbol).acceptOrder clock side type (effectivePrice side type price)
        quantity).2.2.map Trade.untimed := by
  rw [tradesOf, submitOrder_result engine clock symbol side accepted]

theorem effectivePrice_of_limit_or_ioc (side : Side) {type : OrderType} (price : Price)
    (priced : type = .limit ∨ type = .ioc) : effectivePrice side type price = price := by
  rcases priced with rfl | rfl <;> rfl

theorem priced_run {ops : List EngineOp} (declared : ∀ op ∈ ops, op.Declared) {symbol : Symbol}
    {id : Nat} {order : Order}
    (found : ((Transition.run step .new ops).1.book symbol).orderAt id = some order) :
    order.price.le 0 = false := by
  rw [book_run, book_new] at found
  refine OrderBook.priced_run symbol defaultPoolSize ?_ found
  intro op onSymbol
  exact declared op (List.mem_of_mem_filter onSymbol)

/-- A market order reaches whatever a finite limit reaches among prices that are
not below or at zero. -/
theorem market_reaches {side : Side} {limit price marketPrice : Price}
    (finite : limit.isFinite = true) (positive : price.le 0 = false)
    (reached : reaches side.isBuy limit price = true) :
    reaches side.isBuy (effectivePrice side .market marketPrice) price = true := by
  unfold reaches effectivePrice at *
  cases isBuy : side.isBuy
  · rw [isBuy] at reached
    simp only [Bool.false_eq_true, if_false, if_true] at reached ⊢
    have priceNum : price ≠ .nan := by
      rintro rfl
      rw [Double.le_nan_eq_false] at reached
      exact Bool.false_ne_true reached
    have zeroNum : (0 : Double) ≠ .nan := by simp
    rw [Double.le_eq_true_iff zeroNum priceNum]
    apply le_of_not_ge
    intro low
    rw [(Double.le_eq_true_iff priceNum zeroNum).mpr low] at positive
    exact Bool.false_ne_true positive.symm
  · rw [isBuy] at reached
    simp only [if_true] at reached ⊢
    refine Double.le_trans_eq_true reached ?_
    cases limit <;> simp_all [Double.isFinite, Double.le]

/-- On the book of any run, the trades of a limit or IOC order begin those of
the same order with a more aggressive limit that is accepted as well, and, if all
types so far were declared, those of the market order.  For a larger quantity
they do too, except that the last one may grow. -/
theorem monotone_execution (ops : List EngineOp) (symbol : Symbol) (side : Side) :
    let engine := (Transition.run step .new ops).1
    (∀ clock otherClock type price otherPrice quantity, type = .limit ∨ type = .ioc →
      price.isFinite = true → otherPrice.isFinite = true →
      ¬rejects type price quantity = true → ¬rejects type otherPrice quantity = true →
      atLeastAsAggressive side price otherPrice = true →
        engine.tradesOf clock symbol side type price quantity <+:
          engine.tradesOf otherClock symbol side type otherPrice quantity) ∧
      ((∀ op ∈ ops, op.Declared) →
        ∀ clock otherClock type price marketPrice quantity, type = .limit ∨ type = .ioc →
          price.isFinite = true → ¬rejects type price quantity = true →
            engine.tradesOf clock symbol side type price quantity <+:
              engine.tradesOf otherClock symbol side .market marketPrice quantity) ∧
      ∀ clock otherClock type price quantity otherQuantity, quantity ≤ otherQuantity →
        BeginsUpToLast Trade.Below (engine.tradesOf clock symbol side type price quantity)
          (engine.tradesOf otherClock symbol side type price otherQuantity) := by
  intro engine
  obtain ⟨linked, unfilled⟩ := linked_new.run ops symbol
  have shelved := shelved_run ops symbol
  refine ⟨?_, ?_, ?_⟩
  · intro clock otherClock type price otherPrice quantity priced _ _ accepted otherAccepted aggressive
    rw [tradesOf_of_accepts _ _ _ _ accepted, tradesOf_of_accepts _ _ _ _ otherAccepted,
      effectivePrice_of_limit_or_ioc side price priced,
      effectivePrice_of_limit_or_ioc side otherPrice priced]
    apply OrderBook.acceptOrder_trades_reach clock otherClock side type type price otherPrice
      quantity linked unfilled shelved
    intro order _ reached
    exact reaches_of_aggressive aggressive reached
  · intro declared clock otherClock type price marketPrice quantity priced finite accepted
    have marketAccepted : ¬rejects .market marketPrice quantity = true := by
      intro rejected
      apply accepted
      have zero : quantity = 0 := by simpa [rejects] using rejected
      simp [rejects, zero]
    rw [tradesOf_of_accepts _ _ _ _ accepted, tradesOf_of_accepts _ _ _ _ marketAccepted,
      effectivePrice_of_limit_or_ioc side price priced]
    apply OrderBook.acceptOrder_trades_reach clock otherClock side type .market price _
      quantity linked unfilled shelved
    intro order member reached
    rw [OrderBook.orders_ladder, List.mem_map] at member
    obtain ⟨ptr, live, rfl⟩ := member
    exact market_reaches finite (priced_run declared (linked.orderAt_of_mem live)) reached
  · intro clock otherClock type price quantity otherQuantity atMost
    by_cases rejected : rejects type price quantity = true
    · rw [tradesOf_of_rejects _ _ _ _ rejected]
      exact Or.inl rfl
    · have otherAccepted : ¬rejects type price otherQuantity = true := by
        rw [rejects] at rejected ⊢
        have nonzero : quantity ≠ 0 := by
          rintro rfl
          simp at rejected
        have otherNonzero : otherQuantity ≠ 0 := by
          rintro rfl
          exact nonzero (UInt32.le_zero_iff.mp atMost)
        simpa [nonzero, otherNonzero] using rejected
      rw [tradesOf_of_accepts _ _ _ _ rejected, tradesOf_of_accepts _ _ _ _ otherAccepted]
      exact OrderBook.acceptOrder_trades_quantity clock otherClock side type _ quantity
        otherQuantity linked unfilled shelved atMost

/-- A sell order for five shares against bids of three and four: it trades once
at 101, twice at 100 or at the market, and once with a smaller last trade for two
shares. -/
theorem monotone_execution_three_and_four :
    let ops : List EngineOp :=
      [.submit (fun _ => 0) [65] .buy .limit (.finite 101) 3,
        .submit (fun _ => 0) [65] .buy .limit (.finite 100) 4]
    let engine := (Transition.run step .new ops).1
    let trades := fun type price quantity =>
      engine.tradesOf (fun _ => 0) [65] .sell type (.finite price) quantity
    (trades .limit 101 5).length = 1 ∧ (trades .limit 100 5).length = 2 ∧
      trades .limit 101 5 <+: trades .limit 100 5 ∧
      trades .limit 101 5 <+: trades .market 0 5 ∧
      BeginsUpToLast Trade.Below (trades .ioc 100 2) (trades .ioc 100 5) := by
  intro ops engine trades
  obtain ⟨limits, markets, quantities⟩ := monotone_execution ops [65] .sell
  refine ⟨by decide +kernel, by decide +kernel, ?_, ?_, ?_⟩
  · exact limits _ _ .limit (.finite 101) (.finite 100) 5 (Or.inl rfl) (by decide +kernel)
      (by decide +kernel) (by decide +kernel) (by decide +kernel) (by decide +kernel)
  · exact markets (by decide) _ _ .limit (.finite 101) (.finite 0) 5 (Or.inl rfl)
      (by decide +kernel) (by decide +kernel)
  · exact quantities _ _ .ioc (.finite 100) 2 5 (by decide)

/-- A limit sell order at 1 trades with a bid, and at 0, which is more
aggressive, it is rejected and trades nothing.  An IOC sell order at -5 trades
with a bid at -3 of an undeclared type, and the market order, priced at 0, does
not. -/
theorem aggressive_limit_rejected :
    let declared := (Transition.run step .new
      [.submit (fun _ => 0) [65] .buy .limit (.finite 10) 3]).1
    let undeclared := (Transition.run step .new
      [.submit (fun _ => 0) [65] .buy (.undeclared 3 (by decide)) (.finite (-3)) 3]).1
    (¬rejects .limit (.finite 1) 3 = true ∧
        atLeastAsAggressive .sell (.finite 1) (.finite 0) = true ∧
        ¬declared.tradesOf (fun _ => 0) [65] .sell .limit (.finite 1) 3 <+:
          declared.tradesOf (fun _ => 0) [65] .sell .limit (.finite 0) 3) ∧
      ¬rejects .ioc (.finite (-5)) 3 = true ∧
      ¬undeclared.tradesOf (fun _ => 0) [65] .sell .ioc (.finite (-5)) 3 <+:
        undeclared.tradesOf (fun _ => 0) [65] .sell .market (.finite 0) 3 := by
  decide +kernel

end MatchingEngine

end OrderBookExchange
