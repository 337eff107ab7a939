import OrderBookExchange.TcpServer

/-!
# Input that ends inside a message

The handler leaves its loop when a read returns nothing.  A read at the end of
the stream may also return some of the bytes it asked for, and that case is
not told apart from a complete read: the fields that did not arrive are
whatever the stack held.  A cut message is without effect exactly when the
stream ends right after its tag.
-/

namespace OrderBookExchange

/-- A message that has a body, by its tag and the size of that body. -/
inductive HasBody : UInt8 → Nat → Prop
  | newOrder : HasBody MessageType.newOrder OrderMessage.bodySize
  | cancel : HasBody MessageType.cancel CancelMessage.bodySize

namespace TcpServer

theorem handleNewOrder_calls (server : TcpServer) (clock : Clock) (msg : OrderMessage) :
    (server.handleNewOrder clock msg).2 ≠ [] := by
  unfold handleNewOrder
  dsimp only
  split <;> simp [submitCalls]

theorem handleCancel_calls (server : TcpServer) (msg : CancelMessage) :
    (server.handleCancel msg).2 ≠ [] := by
  simp [handleCancel]

/-- At the end of the stream a message makes no call exactly if none of its
body arrived. -/
theorem handleLoop_calls_eq_nil {tag : UInt8} {size : Nat} (kind : HasBody tag size)
    (stack : Nat → UInt8) (fuel : Nat) (clocks : Nat → Clock) (server : TcpServer)
    {part : List UInt8} (cut : part.length < size) :
    (handleLoop stack (fuel + 1) clocks server (tag :: part)).2 = [] ↔ part = [] := by
  have taken : part.take size = part := List.take_of_length_le (by omega)
  by_cases empty : part = []
  · subst empty
    cases kind <;> exact iff_of_true rfl rfl
  · have some : part.length ≠ 0 := by simpa using empty
    cases kind with
    | newOrder =>
        rw [handleLoop, if_pos rfl]
        dsimp only
        rw [taken, if_neg some]
        simp [empty, handleNewOrder_calls]
    | cancel =>
        rw [handleLoop, if_neg (by decide), if_pos rfl]
        dsimp only
        rw [taken, if_neg some]
        simp [empty, handleCancel_calls]

/-- A stream that ends inside a message leads to the calls of the complete
messages before it, and to no others, if and only if it ends right after the
tag of the cut message. -/
theorem handleClient_truncated_iff (server : TcpServer) (stack : Nat → UInt8)
    (clocks : Nat → Clock) (frames : List Frame) {tag : UInt8} {size : Nat}
    (kind : HasBody tag size) {part : List UInt8} (cut : part.length < size) :
    (server.handleClient stack clocks (frameBytes frames ++ tag :: part)).2 =
        (server.handleClient stack clocks (frameBytes frames)).2 ↔
      part = [] := by
  obtain ⟨left, enough, handled⟩ := handleLoop_frames stack clocks server frames (tag :: part)
    (frameBytes frames ++ tag :: part).length le_rfl
  obtain ⟨fuel, rfl⟩ : ∃ fuel, left = fuel + 1 :=
    ⟨left - 1, by rw [List.length_cons] at enough; omega⟩
  rw [handleClient_frames, handleClient, handled]
  dsimp only
  rw [List.append_right_eq_self]
  exact handleLoop_calls_eq_nil kind stack fuel _ _ cut

/-- A buy order for `"A"` at a price of 100 that lacks the last byte of its
quantity. -/
def cutBuy : List UInt8 :=
  [65, 0, 0, 0, 0, 0, 0, 0, 0, 0, 0, 0, 0, 0, 0, 0, 89, 64, 1, 0, 0]

/-- The cut order is checked, submitted and answered like a complete one. -/
theorem cutBuy_is_submitted :
    ¬((TcpServer.new {}).handleClient (fun _ => 0) (fun _ _ => 0)
        (frameBytes [] ++ MessageType.newOrder :: cutBuy)).2 =
      ((TcpServer.new {}).handleClient (fun _ => 0) (fun _ _ => 0) (frameBytes [])).2 := by
  intro same
  exact absurd (congrArg List.length same) (by decide +kernel)

theorem handleClient_truncated_after_tag :
    ((TcpServer.new {}).handleClient (fun _ => 0) (fun _ _ => 0)
        (frameBytes [.newOrder (cutBuy ++ [0]) rfl] ++ MessageType.cancel :: [])).2 =
      ((TcpServer.new {}).handleClient (fun _ => 0) (fun _ _ => 0)
        (frameBytes [.newOrder (cutBuy ++ [0]) rfl])).2 :=
  (handleClient_truncated_iff _ _ _ _ .cancel (by decide)).mpr rfl

end TcpServer

end OrderBookExchange
