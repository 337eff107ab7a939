import OrderBookExchange.TapeReplay
import OrderBookExchange.TapeRows
import OrderBookExchange.WireRoundTrip

/-!
# Two ways into the engine

Orders reach an engine over a connection or from a tape.  Without a checker the
two front ends are the same front end: a client whose messages carry some orders
and a tape whose rows carry the same ones leave the same books and the same
counters behind, times aside.
-/

namespace OrderBookExchange

/-- A row of a tape that says what a message says.  The row of an order has no
tape identifier, so that cancel rows name the engine's identifiers as cancel
messages do. -/
inductive Tells : ClientMessage → ReplayEvent → Prop
  | newOrder {symbol : WireSymbol} {side : Side} {type : OrderType} {price : UInt64}
      {quantity : Quantity} {event : ReplayEvent} (isNew : event.isNew = true)
      (symbolEq : event.symbol = symbol.bytes) (sideEq : event.side = side)
      (typeEq : event.type = type) (priceEq : event.price = .ofBits price.toNat)
      (quantityEq : event.quantity = quantity) (unnamed : event.orderId = 0) :
      Tells (.newOrder symbol side type price quantity) event
  | cancel {symbol : WireSymbol} {orderId : UInt64} {event : ReplayEvent}
      (notNew : event.isNew = false) (isCancel : event.isCancel = true)
      (symbolEq : event.symbol = symbol.bytes) (idEq : event.orderId = orderId.toNat) :
      Tells (.cancel symbol orderId) event

/-- A server and a replay that have done the same. -/
structure FrontEndsAgree (server : TcpServer) (replay : Replay) : Prop where
  ungated : server.risk = none
  replayUngated : replay.harness.risk = none
  unmapped : replay.harness.idMap = fun _ => none
  engines : server.engine.SameBooks replay.harness.engine
  tallies : server.engine.stats.tally = replay.harness.engine.stats.tally

namespace FrontEndsAgree

variable {server : TcpServer} {replay : Replay}

theorem newOrder (agree : FrontEndsAgree server replay) {symbol : WireSymbol} {side : Side}
    {type : OrderType} {price : UInt64} {quantity : Quantity} {event : ReplayEvent}
    (tells : Tells (.newOrder symbol side type price quantity) event) (clock : Clock)
    (rowClock : RowClock) :
    FrontEndsAgree
      (server.handleFrame clock (ClientMessage.newOrder symbol side type price quantity).frame).1
      (replay.step event rowClock) := by
  cases tells with
  | newOrder isNew symbolEq sideEq typeEq priceEq quantityEq unnamed =>
      obtain ⟨ungated, replayUngated, unmapped, engines, tallies⟩ := agree
      have handled : (server.handleFrame clock
          (ClientMessage.newOrder symbol side type price quantity).frame).1 =
          { engine := (server.engine.submitOrder clock symbol.bytes side type (.ofBits price.toNat)
              quantity).1
            risk := none } := by
        rw [ClientMessage.frame, TcpServer.handleFrame, OrderMessage.ofBody_toBody,
          TcpServer.handleNewOrder, TcpServer.checkOrder, ungated]
        dsimp only
        rw [riskGate, if_neg (not_not.mpr rfl), TcpServer.submit, WireSymbol.getSymbol_setSymbol]
        rfl
      have replayed : (replay.step event rowClock).harness.engine =
          (replay.harness.engine.submitOrder rowClock.engine symbol.bytes side type
            (.ofBits price.toNat) quantity).1 ∧
          (replay.step event rowClock).harness.risk = none ∧
          (replay.step event rowClock).harness.idMap = replay.harness.idMap := by
        rw [Replay.step, ReplayHarness.step, if_pos isNew, ReplayHarness.replayNew, replayUngated]
        dsimp only
        rw [riskGate, if_neg (not_not.mpr rfl), symbolEq, sideEq, typeEq, priceEq, quantityEq]
        exact ⟨rfl, rfl, if_neg (not_not.mpr unnamed)⟩
      obtain ⟨engineEq, riskEq, idMapEq⟩ := replayed
      rw [handled]
      constructor
      · rfl
      · exact riskEq
      · exact idMapEq.trans unmapped
      · rw [engineEq]
        exact (engines.submitOrder clock rowClock.engine symbol.bytes side type _ quantity).1
      · rw [engineEq]
        exact engines.tally_step tallies
          (.submit clock symbol.bytes side type (.ofBits price.toNat) quantity)
          (.submit rowClock.engine symbol.bytes side type (.ofBits price.toNat) quantity) rfl

theorem cancel (agree : FrontEndsAgree server replay) {symbol : WireSymbol} {orderId : UInt64}
    {event : ReplayEvent} (tells : Tells (.cancel symbol orderId) event) (clock : Clock)
    (rowClock : RowClock) :
    FrontEndsAgree (server.handleFrame clock (ClientMessage.cancel symbol orderId).frame).1
      (replay.step event rowClock) := by
  cases tells with
  | cancel notNew isCancel symbolEq idEq =>
      obtain ⟨ungated, replayUngated, unmapped, engines, tallies⟩ := agree
      have handled : (server.handleFrame clock (ClientMessage.cancel symbol orderId).frame).1 =
          { server with engine := (server.engine.cancelOrder symbol.bytes orderId.toNat).1 } := by
        rw [ClientMessage.frame, TcpServer.handleFrame, CancelMessage.ofBody_toBody,
          TcpServer.handleCancel, WireSymbol.getSymbol_setSymbol]
      have replayed : (replay.step event rowClock).harness =
          { replay.harness with
            engine := (replay.harness.engine.cancelOrder symbol.bytes orderId.toNat).1
            result := (replay.step event rowClock).harness.result } := by
        rw [Replay.step, ReplayHarness.step, if_neg (by simp [notNew]), if_pos isCancel,
          ReplayHarness.replayCancel, ReplayHarness.target]
        dsimp only
        rw [unmapped, Option.getD_none, symbolEq, idEq]
      rw [handled]
      constructor
      · exact ungated
      · rw [replayed]
        exact replayUngated
      · rw [replayed]
        exact unmapped
      · rw [replayed]
        exact engines.cancelOrder symbol.bytes orderId.toNat
      · rw [replayed]
        exact engines.tally_step tallies (.cancel symbol.bytes orderId.toNat)
          (.cancel symbol.bytes orderId.toNat) rfl

theorem message (agree : FrontEndsAgree server replay) {message : ClientMessage}
    {event : ReplayEvent} (tells : Tells message event) (clock : Clock) (rowClock : RowClock) :
    FrontEndsAgree (server.handleFrame clock message.frame).1 (replay.step event rowClock) := by
  cases message with
  | newOrder symbol side type price quantity => exact agree.newOrder tells clock rowClock
  | cancel symbol orderId => exact agree.cancel tells clock rowClock

/-- A stream that carries messages against the rows that tell them. -/
theorem stream {messages : List ClientMessage} {bytes : List UInt8}
    (carried : Carries messages bytes) {events : List ReplayEvent}
    (told : List.Forall₂ Tells messages events) :
    ∃ frames, frameBytes frames = bytes ∧
      ∀ (server : TcpServer) (replay : Replay), FrontEndsAgree server replay →
        ∀ (clocks : Nat → Clock) (rowClocks : Nat → RowClock),
          FrontEndsAgree (TcpServer.handleFrames clocks server frames).1
            (replay.steps rowClocks events) := by
  induction carried generalizing events with
  | nil =>
      cases told
      exact ⟨[], rfl, fun server replay agree _ _ => agree⟩
  | @skipped messages bytes byte unknown rest induction =>
      obtain ⟨frames, bytesEq, handled⟩ := induction told
      refine ⟨.other byte unknown :: frames, ?_, ?_⟩
      · rw [← bytesEq]
        rfl
      · intro server replay agree clocks rowClocks
        exact handled server replay agree (fun index => clocks (index + 1)) rowClocks
  | @message messages bytes message rest induction =>
      obtain ⟨event, events, tells, toldRest, rfl⟩ := List.forall₂_cons_left_iff.mp told
      obtain ⟨frames, bytesEq, handled⟩ := induction toldRest
      refine ⟨message.frame :: frames, ?_, ?_⟩
      · rw [← bytesEq, ← message.bytes_frame]
        rfl
      · intro server replay agree clocks rowClocks
        exact handled _ _ (agree.message tells (clocks 0) (rowClocks 0))
          (fun index => clocks (index + 1)) (fun index => rowClocks (index + 1))

end FrontEndsAgree

/-- A connection and a tape with the same orders leave the same behind. -/
theorem front_ends_agree (conversions : Conversions) {messages : List ClientMessage}
    {bytes : List UInt8} (carried : Carries messages bytes) {file : Text}
    (told : List.Forall₂ Tells messages
      ((TapeReader.new file).lines.filterMap conversions.lineEvent))
    (stack : Nat → UInt8) (clocks : Nat → Clock) (clock : ReplayClock)
    (uninitialised : ReplayEvent) :
    let server : TcpServer := { engine := .new, risk := none }
    let served := (server.handleClient stack clocks bytes).1.engine
    let replayed := (Replay.replayFile conversions none clock uninitialised file).1.harness.engine
    (∀ symbol, (served.books.lookup symbol).map OrderBook.untimed =
        (replayed.books.lookup symbol).map OrderBook.untimed) ∧
      served.stats.tally = replayed.stats.tally := by
  intro server served replayed
  obtain ⟨frames, bytesEq, handled⟩ := FrontEndsAgree.stream carried told
  have fresh : FrontEndsAgree server (Replay.new none) := ⟨rfl, rfl, rfl, .refl _, rfl⟩
  have agree := handled server (Replay.new none) fresh clocks clock.rows
  rw [← TcpServer.handleClient_frames server stack, bytesEq,
    ← Replay.replayFile_eq conversions none clock uninitialised file] at agree
  refine ⟨?_, agree.tallies⟩
  intro symbol
  exact MatchingEngine.lookup_untimed (agree.engines.opened symbol) (agree.engines.books symbol)

/-- `5,A,S,L,1,2,N,0` and `6,A,,,,,C,1` under a header. -/
def sellThenCancelTape : Text :=
  joined newline [[104], joined comma [[53], [65], [83], [76], [49], [50], [78]] [48],
    joined comma [[54], [65], [], [], [], [], [67]] [49]] []

theorem events_sellThenCancelTape :
    (TapeReader.new sellThenCancelTape).lines.filterMap
        (Conversions.library TapeReader.exactStod).lineEvent =
      [⟨5, [65], .sell, .limit, .finite 1, 2, 'N', 0⟩,
        ⟨6, [65], .buy, .limit, 0, 0, 'C', 1⟩] := by
  decide +kernel

/-- A client offers two shares at 1 and takes the offer back. -/
theorem front_ends_agree_sellThenCancel :
    let symbol : WireSymbol := ⟨[65], by simp, by simp⟩
    let offer := ClientMessage.newOrder symbol .sell .limit 4607182418800017408 2
    let withdrawal := ClientMessage.cancel symbol 1
    let server : TcpServer := { engine := .new, risk := none }
    let clock : ReplayClock := ⟨0, fun _ => ⟨0, fun _ => 0, 0⟩, 0⟩
    let served := (server.handleClient (fun _ => 0) (fun _ _ => 0)
      (offer.bytes ++ withdrawal.bytes)).1.engine
    served.stats.tally = (Replay.replayFile (.library TapeReader.exactStod) none clock
      ⟨0, [], .buy, .limit, 0, 0, 'N', 0⟩ sellThenCancelTape).1.harness.engine.stats.tally := by
  intro symbol offer withdrawal server clock served
  have carried : Carries [offer, withdrawal] (offer.bytes ++ (withdrawal.bytes ++ [])) :=
    .message offer (.message withdrawal .nil)
  rw [List.append_nil] at carried
  have told : List.Forall₂ Tells [offer, withdrawal]
      ((TapeReader.new sellThenCancelTape).lines.filterMap
        (Conversions.library TapeReader.exactStod).lineEvent) := by
    rw [events_sellThenCancelTape]
    exact .cons (.newOrder rfl rfl rfl rfl (by decide +kernel) rfl rfl)
      (.cons (.cancel rfl rfl rfl rfl) .nil)
  exact (front_ends_agree (.library TapeReader.exactStod) carried told (fun _ => 0)
    (fun _ _ => 0) clock ⟨0, [], .buy, .limit, 0, 0, 'N', 0⟩).2

end OrderBookExchange
