import OrderBookExchange.RestingOrders
import OrderBookExchange.TcpServer

/-!
# Orders from the wire

A byte on the wire may name no order type, and a price may be any double.  The
checks test the declared types with `==` and prices with `<=`, so an undeclared
type and a NaN limit price pass all of them and come to rest.  Messages without
these two leave only priced limit orders behind.
-/

namespace OrderBookExchange

/-- A limit order with a finite positive price. -/
def Order.Priced (order : Order) : Prop :=
  order.type = .limit ∧ ∃ value : ℚ, order.price = .finite value ∧ 0 < value

theorem Order.Priced.of_sameTerms {older order : Order} (terms : older.SameTerms order)
    (priced : older.Priced) : order.Priced := by
  obtain ⟨isLimit, value, priceEq, positive⟩ := priced
  exact ⟨terms.type ▸ isLimit, value, terms.price ▸ priceEq, positive⟩

/-- A declared order type, and no limit order priced at a NaN. -/
def OrderMessage.Regular (msg : OrderMessage) : Prop :=
  msg.orderType.Declared ∧ ¬(msg.orderType = .limit ∧ msg.price = .nan)

instance OrderMessage.decidableRegular (msg : OrderMessage) : Decidable msg.Regular :=
  inferInstanceAs (Decidable (_ ∧ _))

def Frame.Regular : Frame → Prop
  | .newOrder body _ => (OrderMessage.ofBody body).Regular
  | _ => True

theorem lt_orderNotional_posInf {quantity : Quantity} (nonzero : quantity ≠ 0) (cap : ℚ) :
    (Double.finite cap).lt (orderNotional .posInf quantity) = true := by
  have positive : (0 : ℚ) < quantity.toNat := by
    have : quantity.toNat ≠ 0 := fun eq => nonzero (UInt32.toNat_inj.mp eq)
    exact_mod_cast Nat.pos_of_ne_zero this
  simp [orderNotional, Double.ofNat, Double.mul, Double.infinityWithSign, positive, Double.lt]

/-- What the gate and the engine let through and the post-match rule leaves on
the book is priced. -/
theorem priced_of_passes {checker : RiskChecker} {msg : OrderMessage} {cap : ℚ}
    (capEq : checker.limits.maxOrderNotional = .finite cap) (regular : msg.Regular)
    (passes : checker.Passes (getSymbol msg.symbol) msg.side msg.orderType msg.price msg.quantity)
    (rests : ¬(msg.orderType = .market ∨ msg.orderType = .ioc)) (id now : Nat) :
    (Order.new id msg.side msg.orderType msg.price msg.quantity now).Priced := by
  have isLimit : msg.orderType = .limit := by
    rcases regular.1 with limit | others
    · exact limit
    · exact absurd others rests
  have aboveZero := passes.priceValid isLimit
  have notional := passes.notionalCap (by rw [isLimit]; simp)
  refine ⟨isLimit, ?_⟩
  change ∃ value, msg.price = .finite value ∧ 0 < value
  cases price : msg.price with
  | nan => exact absurd ⟨isLimit, price⟩ regular.2
  | negInf =>
      rw [price] at aboveZero
      simp [Double.le] at aboveZero
  | finite value =>
      rw [price] at aboveZero
      exact ⟨value, rfl, by simpa [Double.le] using aboveZero⟩
  | posInf =>
      rw [price, capEq, lt_orderNotional_posInf passes.nonzero] at notional
      simp at notional

namespace TcpServer

variable {server : TcpServer} {cap : ℚ}

/-- Only priced orders rest, and the checker caps the notional of an order. -/
structure Guarded (cap : ℚ) (server : TcpServer) : Prop where
  priced : server.engine.AllResting Order.Priced
  gated : ∃ risk, server.risk = some risk ∧ risk.limits.maxOrderNotional = .finite cap

theorem guarded_new {limits : RiskLimits} (capEq : limits.maxOrderNotional = .finite cap) :
    Guarded cap (new limits) :=
  ⟨MatchingEngine.allResting_new, _, rfl, capEq⟩

theorem Guarded.handleNewOrder (guarded : Guarded cap server) (clock : Clock)
    {msg : OrderMessage} (regular : msg.Regular) :
    Guarded cap (server.handleNewOrder clock msg).1 := by
  obtain ⟨priced, risk, gate, capEq⟩ := guarded
  unfold TcpServer.handleNewOrder
  dsimp only
  rw [checkOrder_of_some gate]
  split
  · exact ⟨priced, _, rfl, capEq⟩
  · next accepted =>
      have passes := RiskChecker.passes_of_none (not_not.mp accepted)
      refine ⟨?_, _, rfl, ?_⟩
      · exact priced.submitOrder Order.Priced.of_sameTerms clock _ _ _ _ _
          fun _ rests => priced_of_passes capEq regular passes rests _ _
      · rw [limits_foldl_tradeCallback]
        exact capEq

theorem Guarded.handleFrame (guarded : Guarded cap server) (clock : Clock) {frame : Frame}
    (regular : frame.Regular) : Guarded cap (server.handleFrame clock frame).1 := by
  cases frame with
  | newOrder body complete => exact guarded.handleNewOrder clock regular
  | cancel body complete =>
      exact ⟨guarded.priced.cancelOrder _ _, guarded.gated⟩
  | other tag unknown => exact guarded

theorem Guarded.handleFrames (guarded : Guarded cap server) (clocks : Nat → Clock)
    {frames : List Frame} (regular : ∀ frame ∈ frames, frame.Regular) :
    Guarded cap (handleFrames clocks server frames).1 := by
  induction frames generalizing clocks server with
  | nil => exact guarded
  | cons frame frames ih =>
      have first := guarded.handleFrame (clocks 0) (regular frame (by simp))
      exact ih first (fun index => clocks (index + 1))
        fun other member => regular other (by simp [member])

/-- Every order resting in any book after a stream of regular messages is a
limit order with a finite positive price. -/
theorem handleClient_resting_priced (stack : Nat → UInt8) (clocks : Nat → Clock)
    {frames : List Frame} (regular : ∀ frame ∈ frames, frame.Regular) (symbol : Symbol)
    (buy : Bool) (ptr : Nat)
    (node : ptr ∈ (((TcpServer.new {}).handleClient stack clocks
      (frameBytes frames)).1.engine.book symbol).nodePtrs buy) :
    ((((TcpServer.new {}).handleClient stack clocks
      (frameBytes frames)).1.engine.book symbol).load ptr).Priced := by
  rw [handleClient_frames] at node ⊢
  have guarded : Guarded 10000000 (handleFrames clocks (TcpServer.new {}) frames).1 :=
    (guarded_new rfl).handleFrames clocks regular
  exact guarded.priced.of_node node

/-- A buy order for one share of `"A"` at a price of 100, with the given byte
for its type. -/
def buyFrame (type : UInt8) : Frame :=
  .newOrder [65, 0, 0, 0, 0, 0, 0, 0, 0, type, 0, 0, 0, 0, 0, 0, 89, 64, 1, 0, 0, 0] rfl

/-- An order whose type byte is 7 passes every check and rests. -/
theorem undeclared_type_rests :
    ∃ ptr ∈ (((TcpServer.new {}).handleClient (fun _ => 0) (fun _ _ => 0)
        (frameBytes [buyFrame 7])).1.engine.book [65]).nodePtrs true,
      ¬((((TcpServer.new {}).handleClient (fun _ => 0) (fun _ _ => 0)
        (frameBytes [buyFrame 7])).1.engine.book [65]).load ptr).Priced := by
  refine ⟨99999, by decide +kernel, ?_⟩
  intro priced
  exact absurd priced.1 (by decide +kernel)

theorem handleClient_resting_priced_limit :
    99999 ∈ (((TcpServer.new {}).handleClient (fun _ => 0) (fun _ _ => 0)
        (frameBytes [buyFrame 0])).1.engine.book [65]).nodePtrs true ∧
      ((((TcpServer.new {}).handleClient (fun _ => 0) (fun _ _ => 0)
        (frameBytes [buyFrame 0])).1.engine.book [65]).load 99999).Priced := by
  have node : 99999 ∈ (((TcpServer.new {}).handleClient (fun _ => 0) (fun _ _ => 0)
      (frameBytes [buyFrame 0])).1.engine.book [65]).nodePtrs true := by
    decide +kernel
  refine ⟨node, handleClient_resting_priced _ _ ?_ [65] true 99999 node⟩
  intro frame member
  rw [List.mem_singleton] at member
  subst member
  change (OrderMessage.ofBody _).Regular
  decide +kernel

end TcpServer

end OrderBookExchange
