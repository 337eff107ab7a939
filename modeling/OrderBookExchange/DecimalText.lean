import Mathlib.Data.List.Basic
import Mathlib.Data.Rat.Defs
import Mathlib.Tactic

/-!
# Numbers in decimal notation

The integer conversions of the C++ library on byte strings: white space, a sign
and digits are read, whatever follows is ignored, and a conversion fails if there
is no digit or the number does not fit.  A minus sign before an unsigned number
negates it in the width of the result.  What a numeral denotes is stated apart
from how it is scanned.
-/

namespace OrderBookExchange.DecimalText

def isSpace (byte : UInt8) : Bool :=
  byte = 32 || 9 ≤ byte && byte ≤ 13

def isDigit (byte : UInt8) : Bool :=
  48 ≤ byte && byte ≤ 57

def plus : UInt8 := 43

def minus : UInt8 := 45

def point : UInt8 := 46

def digitsValue (digits : List UInt8) : Nat :=
  digits.foldl (fun value digit => 10 * value + (digit.toNat - 48)) 0

/-- Skip white space and a sign; true for a minus sign. -/
def scanSign (text : List UInt8) : Bool × List UInt8 :=
  match text.dropWhile isSpace with
  | [] => (false, [])
  | byte :: rest =>
      if byte = minus then (true, rest)
      else if byte = plus then (false, rest)
      else (false, byte :: rest)

/-- The sign and the magnitude of the integer a text begins with. -/
def scanInteger (text : List UInt8) : Option (Bool × Nat) :=
  let signed := scanSign text
  let digits := signed.2.takeWhile isDigit
  if digits = [] then none else some (signed.1, digitsValue digits)

/-- `std::stoull`: the magnitude has to fit 64 bits, and is negated there. -/
def stoull (text : List UInt8) : Option Nat :=
  (scanInteger text).bind fun scanned =>
    if scanned.2 < 2 ^ 64 then
      some (if scanned.1 then (2 ^ 64 - scanned.2) % 2 ^ 64 else scanned.2)
    else none

/-- `std::stoll`. -/
def stoll (text : List UInt8) : Option Int :=
  (scanInteger text).bind fun scanned =>
    let number : Int := if scanned.1 then -scanned.2 else scanned.2
    if -2 ^ 63 ≤ number ∧ number < 2 ^ 63 then some number else none

/-- The number a text begins with, digits around an optional point. -/
def scanDecimal (text : List UInt8) : Option ℚ :=
  let signed := scanSign text
  let whole := signed.2.takeWhile isDigit
  let decimals :=
    match signed.2.dropWhile isDigit with
    | [] => []
    | byte :: rest => if byte = point then rest.takeWhile isDigit else []
  if whole ++ decimals = [] then none
  else
    let magnitude : ℚ := digitsValue (whole ++ decimals) / 10 ^ decimals.length
    some (if signed.1 then -magnitude else magnitude)

/-! ### What numerals denote -/

/-- A sign, which may be left out; true for a minus sign. -/
inductive IsSign : List UInt8 → Bool → Prop
  | absent : IsSign [] false
  | plus : IsSign [plus] false
  | minus : IsSign [minus] true

/-- An optional sign and at least one digit. -/
structure DenotesInteger (text : List UInt8) (number : Int) : Prop where
  shape : ∃ sign negative digits, IsSign sign negative ∧ digits ≠ [] ∧
    (∀ digit ∈ digits, isDigit digit = true) ∧ text = sign ++ digits ∧
    number = if negative then -(digitsValue digits : Int) else digitsValue digits

/-- An optional sign and at least one digit, with a point before, among or
behind the digits or none. -/
structure DenotesDecimal (text : List UInt8) (number : ℚ) : Prop where
  shape : ∃ sign negative whole fraction decimals, IsSign sign negative ∧
    (fraction = [] ∧ decimals = [] ∨ fraction = point :: decimals) ∧
    whole ++ decimals ≠ [] ∧ (∀ digit ∈ whole ++ decimals, isDigit digit = true) ∧
    text = sign ++ (whole ++ fraction) ∧
    number = if negative then -((digitsValue (whole ++ decimals) : ℚ) / 10 ^ decimals.length)
      else (digitsValue (whole ++ decimals) : ℚ) / 10 ^ decimals.length

/-! ### Scanning a numeral -/

/-- A byte that is neither white space nor a sign. -/
def opensNumber (byte : UInt8) : Bool :=
  isDigit byte || byte = point

theorem opensNumber_plain {byte : UInt8} (opens : opensNumber byte = true) :
    isSpace byte = false ∧ byte ≠ minus ∧ byte ≠ plus := by
  simp only [opensNumber, isDigit, point, isSpace, minus, plus, Bool.or_eq_true, Bool.and_eq_true,
    decide_eq_true_eq, Bool.or_eq_false_iff, Bool.and_eq_false_iff, decide_eq_false_iff_not, ne_eq,
    ← UInt8.toNat_inj, UInt8.le_iff_toNat_le, UInt8.reduceToNat] at opens ⊢
  omega

theorem scanSign_append {sign : List UInt8} {negative : Bool} (isSign : IsSign sign negative)
    {byte : UInt8} (opens : opensNumber byte = true) (rest : List UInt8) :
    scanSign (sign ++ byte :: rest) = (negative, byte :: rest) := by
  obtain ⟨notSpace, notMinus, notPlus⟩ := opensNumber_plain opens
  cases isSign with
  | absent => simp [scanSign, notSpace, notMinus, notPlus]
  | plus =>
      have plusSpace : isSpace plus = false := by decide
      have plusMinus : plus ≠ minus := by decide
      simp [scanSign, plusSpace, plusMinus]
  | minus =>
      have minusSpace : isSpace minus = false := by decide
      simp [scanSign, minusSpace]

theorem takeWhile_isDigit {digits : List UInt8} (all : ∀ digit ∈ digits, isDigit digit = true)
    (rest : List UInt8) (stops : rest.head?.all (fun byte => !isDigit byte) = true) :
    (digits ++ rest).takeWhile isDigit = digits ∧ (digits ++ rest).dropWhile isDigit = rest := by
  have restTaken : rest.takeWhile isDigit = [] ∧ rest.dropWhile isDigit = rest := by
    cases rest with
    | nil => exact ⟨rfl, rfl⟩
    | cons byte rest =>
        have notDigit : isDigit byte = false := by simpa using stops
        simp [notDigit]
  rw [List.takeWhile_append_of_pos all, List.dropWhile_append_of_pos all, restTaken.1, restTaken.2,
    List.append_nil]
  exact ⟨rfl, rfl⟩

theorem scanInteger_of_denotes {text : List UInt8} {number : Int}
    (denotes : DenotesInteger text number) :
    ∃ negative magnitude, scanInteger text = some (negative, magnitude) ∧
      number = if negative then -(magnitude : Int) else magnitude := by
  obtain ⟨sign, negative, digits, isSign, nonempty, all, rfl, rfl⟩ := denotes.shape
  obtain ⟨byte, rest, rfl⟩ := List.exists_cons_of_ne_nil nonempty
  have opens : opensNumber byte = true := by
    rw [opensNumber, all byte List.mem_cons_self, Bool.true_or]
  have taken := (takeWhile_isDigit all [] rfl).1
  rw [List.append_nil] at taken
  refine ⟨negative, digitsValue (byte :: rest), ?_, rfl⟩
  rw [scanInteger, scanSign_append isSign opens]
  dsimp only
  rw [taken, if_neg nonempty]

theorem stoll_of_denotes {text : List UInt8} {number : Int} (denotes : DenotesInteger text number)
    (lower : -2 ^ 63 ≤ number) (upper : number < 2 ^ 63) : stoll text = some number := by
  obtain ⟨negative, magnitude, scanned, rfl⟩ := scanInteger_of_denotes denotes
  rw [stoll, scanned, Option.bind_some]
  exact if_pos ⟨lower, upper⟩

/-- An unsigned conversion of a numeral: reduced to 64 bits, unless the magnitude
does not fit them. -/
theorem stoull_of_denotes {text : List UInt8} {number : Int}
    (denotes : DenotesInteger text number) :
    stoull text = if number.natAbs < 2 ^ 64 then some (number % 2 ^ 64).toNat else none := by
  obtain ⟨negative, magnitude, scanned, rfl⟩ := scanInteger_of_denotes denotes
  rw [stoull, scanned, Option.bind_some]
  cases negative
  · simp only [Bool.false_eq_true, if_false, Int.natAbs_natCast]
    split
    · next fits =>
        congr 1
        omega
    · rfl
  · simp only [if_true, Int.natAbs_neg, Int.natAbs_natCast]
    split
    · next fits =>
        congr 1
        omega
    · rfl

theorem scanDecimal_of_denotes {text : List UInt8} {number : ℚ}
    (denotes : DenotesDecimal text number) : scanDecimal text = some number := by
  obtain ⟨sign, negative, whole, fraction, decimals, isSign, fractionEq, nonempty, all, rfl, rfl⟩ :=
    denotes.shape
  have wholeDigits : ∀ digit ∈ whole, isDigit digit = true :=
    fun digit member => all digit (List.mem_append_left _ member)
  have decimalDigits : ∀ digit ∈ decimals, isDigit digit = true :=
    fun digit member => all digit (List.mem_append_right _ member)
  have pointDigit : isDigit point = false := by decide
  have opened : ∃ byte rest, whole ++ fraction = byte :: rest ∧ opensNumber byte = true := by
    cases whole with
    | cons byte rest =>
        refine ⟨byte, rest ++ fraction, rfl, ?_⟩
        rw [opensNumber, wholeDigits byte List.mem_cons_self, Bool.true_or]
    | nil =>
        rcases fractionEq with ⟨rfl, rfl⟩ | rfl
        · exact absurd rfl nonempty
        · exact ⟨point, decimals, rfl, by decide⟩
  have stops : fraction.head?.all (fun byte => !isDigit byte) = true := by
    rcases fractionEq with ⟨rfl, rfl⟩ | rfl
    · rfl
    · simp [pointDigit]
  obtain ⟨wholeTaken, wholeDropped⟩ := takeWhile_isDigit wholeDigits fraction stops
  have decimalsTaken := (takeWhile_isDigit decimalDigits [] rfl).1
  rw [List.append_nil] at decimalsTaken
  have scanned : scanSign (sign ++ (whole ++ fraction)) = (negative, whole ++ fraction) := by
    obtain ⟨byte, rest, shape, opens⟩ := opened
    rw [shape]
    exact scanSign_append isSign opens rest
  rw [scanDecimal, scanned]
  dsimp only
  rw [wholeTaken, wholeDropped]
  rcases fractionEq with ⟨rfl, rfl⟩ | rfl
  · dsimp only
    rw [if_neg nonempty]
  · simp only [if_true, decimalsTaken, if_neg nonempty]

end OrderBookExchange.DecimalText
