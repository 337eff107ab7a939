import Mathlib.Data.List.DropRight

/-!
# Rolling windows

A window keeps the latest values of a stream, at most a fixed number of them.  It
is pushed one value at a time and forgets the oldest one when it grows too long.
Whatever it is pushed, it is the end of the stream.
-/

namespace OrderBookExchange.RollingWindow

variable {Value : Type*}

/-- A new value enters the window, and the oldest one leaves it if there are too
many. -/
def push (size : Nat) (window : List Value) (value : Value) : List Value :=
  let grown := window ++ [value]
  if size < grown.length then grown.tail else grown

theorem push_rtake (size : Nat) (values : List Value) (value : Value) :
    push size (values.rtake size) value = (values ++ [value]).rtake size := by
  have grown : values.rtake size ++ [value] =
      (values ++ [value]).drop (values.length - size) :=
    (List.drop_append_of_le_length (by omega)).symm
  have length : (values ++ [value]).length = values.length + 1 := by simp
  unfold push List.rtake at *
  dsimp only
  rw [grown, List.length_drop, length]
  by_cases full : size ≤ values.length
  · have later : values.length + 1 - size = values.length - size + 1 := by omega
    rw [if_pos (by omega), List.tail_drop, later]
  · have whole : values.length + 1 - size = values.length - size := by omega
    rw [if_neg (by omega), whole]

/-- A window that has seen a stream is the end of it. -/
theorem foldl_push (size : Nat) (earlier later : List Value) :
    later.foldl (push size) (earlier.rtake size) = (earlier ++ later).rtake size := by
  induction later generalizing earlier with
  | nil => rw [List.foldl_nil, List.append_nil]
  | cons value later induction =>
      rw [List.foldl_cons, push_rtake, induction, List.append_assoc]
      rfl

theorem length_rtake_lt {size : Nat} {values : List Value} (short : values.length < size) :
    (values.rtake size).length < size := by
  rw [List.rtake, List.length_drop]
  omega

end OrderBookExchange.RollingWindow
