import OrderBookExchange.CosmeticChange

/-!
# Timestamps are never read

Clock readings are stored in orders and trades and nowhere else.  Setting all
of them to zero is a change of orders that a book does not notice, so two runs
that differ in their clocks only agree once their timestamps are forgotten.
-/

namespace OrderBookExchange

def Order.untimed (order : Order) : Order :=
  { order with timestamp := 0 }

def Trade.untimed (trade : Trade) : Trade :=
  { trade with timestamp := 0 }

def EngineOutput.untimed : EngineOutput → EngineOutput
  | .submitted id trades => .submitted id (trades.map Trade.untimed)
  | output => output

/-- A call whose clock always reads zero. -/
def EngineOp.untimed : EngineOp → EngineOp
  | .submit _ symbol side type price quantity =>
      .submit (fun _ => 0) symbol side type price quantity
  | op => op

@[simp]
theorem EngineOp.symbol_untimed (op : EngineOp) : op.untimed.symbol = op.symbol := by
  cases op <;> rfl

@[simp]
theorem EngineOp.opensBook_untimed (op : EngineOp) : op.untimed.opensBook = op.opensBook := by
  cases op <;> rfl

theorem EngineOutput.trades_untimed (output : EngineOutput) :
    output.untimed.trades = output.trades.map Trade.untimed := by
  cases output <;> rfl

theorem cosmetic_untimed : Cosmetic fun _ => Order.untimed where
  id := fun _ _ => rfl
  side := fun _ _ => rfl
  price := fun _ _ => rfl
  quantity := fun _ _ => rfl
  remainingQty := fun _ _ => rfl
  statusEq := fun _ _ => rfl
  remaining := fun _ _ _ => rfl
  status := fun _ _ _ => rfl

namespace ObjectPool

variable {T : Type} (change : T → T) (pool : ObjectPool T)

/-- The pool with every object replaced by its image. -/
def mapObjects : ObjectPool T where
  storage := fun ptr => change (pool.storage ptr)
  capacity := pool.capacity
  freeList := pool.freeList

end ObjectPool

namespace OrderBook

/-- The book with every timestamp set to zero. -/
def untimed (book : OrderBook) : OrderBook :=
  { book with orderPool := book.orderPool.mapObjects Order.untimed }

variable (book : OrderBook)

theorem untimed_new (symbol : Symbol) (poolSize : Nat) :
    (new symbol poolSize).untimed = new symbol poolSize :=
  rfl

theorem untimed_eq_recast : book.untimed = book.recast fun _ => Order.untimed :=
  rfl

/-! ### Where the clock is read -/

theorem untimed_addOrder (side : Side) (type : OrderType) (price : Price) (quantity : Quantity)
    (now : Nat) :
    book.untimed.addOrder side type price quantity 0 =
      ((book.addOrder side type price quantity now).1.untimed,
        (book.addOrder side type price quantity now).2) := by
  unfold addOrder
  rw [untimed_eq_recast, levels_recast, recast, ObjectPool.acquire_mapSlots]
  dsimp only
  rw [untimed_eq_recast, recast, ObjectPool.mapSlots_store]
  cases side.isBuy <;> rfl

theorem afterMatch_clock (incoming resting now : Nat) :
    book.afterMatch incoming resting now = book.afterMatch incoming resting 0 :=
  rfl

/-- The loop reads the clock for the timestamps of the trades alone. -/
theorem matchLoop_clock (clock : Clock) (incoming fuel : Nat) (trades : List Trade) :
    matchLoop (fun _ => 0) incoming fuel book (trades.map Trade.untimed) =
      ((matchLoop clock incoming fuel book trades).1,
        (matchLoop clock incoming fuel book trades).2.map Trade.untimed) := by
  induction fuel generalizing book trades with
  | zero => rfl
  | succ fuel ih =>
      rw [matchLoop_succ, matchLoop_succ]
      cases book.nextMatch incoming with
      | none => rfl
      | some resting =>
          dsimp only
          rw [← ih, afterMatch_clock book incoming resting (clock _), List.map_append]
          rfl

theorem matchOrder_clock (clock : Clock) (incoming : Nat) :
    book.matchOrder (fun _ => 0) incoming =
      ((book.matchOrder clock incoming).1,
        (book.matchOrder clock incoming).2.map Trade.untimed) := by
  have loop := matchLoop_clock book clock incoming
    (book.nodeCount (!(book.load incoming).side.isBuy) + 1) []
  rw [List.map_nil] at loop
  unfold matchOrder
  dsimp only
  rw [loop]

/-! ### Calls on a book -/

theorem untimed_acceptOrder (clock : Clock) (side : Side) (type : OrderType) (price : Price)
    (quantity : Quantity) :
    book.untimed.acceptOrder (fun _ => 0) side type price quantity =
      ((book.acceptOrder clock side type price quantity).1.untimed,
        (book.acceptOrder clock side type price quantity).2.1,
        (book.acceptOrder clock side type price quantity).2.2.map Trade.untimed) := by
  unfold acceptOrder
  rw [untimed_addOrder book side type price quantity (clock 1)]
  dsimp only
  rw [matchOrder_clock _ clock, untimed_eq_recast, recast_matchOrder _ cosmetic_untimed]
  dsimp only
  rw [← recast_postMatch _ cosmetic_untimed]
  rfl

/-- Forgetting the timestamps commutes with every call on a book. -/
theorem untimed_step (op : EngineOp) :
    book.untimed.step op.untimed = ((book.step op).1.untimed, (book.step op).2.untimed) := by
  cases op with
  | submit clock symbol side type price quantity =>
      rw [EngineOp.untimed, step, step]
      by_cases rejected : rejects type price quantity = true
      · rw [if_pos rejected, if_pos rejected]
        rfl
      · rw [if_neg rejected, if_neg rejected, untimed_acceptOrder book clock]
        rfl
  | cancel symbol orderId =>
      rw [EngineOp.untimed, step, step, untimed_eq_recast, recast_cancelOrder _ cosmetic_untimed]
      · rfl
      · simp
  | reduce symbol orderId newQuantity =>
      rw [EngineOp.untimed, step, step, untimed_eq_recast, recast_reduceOrder _ cosmetic_untimed]
      · rfl
      · simp

theorem untimed_run (ops : List EngineOp) :
    Transition.run step book.untimed (ops.map EngineOp.untimed) =
      ((Transition.run step book ops).1.untimed,
        (Transition.run step book ops).2.map EngineOutput.untimed) :=
  Transition.run_image untimed_step book ops

end OrderBook

end OrderBookExchange
