import OrderBookExchange.ReplayHarness

/-!
# Reading a tape

A tape is a text of comma-separated rows under a header line.  The reader
skips rows that are empty, have fewer than eight fields or fail to convert, and
writes the fields of the others into an event that its caller reuses.

The conversions of numbers are functions of the text of a field, which throw
when they return nothing.
-/

namespace OrderBookExchange

abbrev Text := List UInt8

/-- `std::stoll`, `std::stod` and `std::stoull`. -/
structure Conversions where
  stoll : Text → Option Int
  stod : Text → Option Double
  stoull : Text → Option Nat

/-- What successive calls of `std::getline` extract.  A delimiter at the very
end is not followed by another, empty piece. -/
def getlines (delimiter : UInt8) : Text → List Text
  | [] => []
  | byte :: rest =>
      if byte = delimiter then [] :: getlines delimiter rest
      else
        match getlines delimiter rest with
        | [] => [[byte]]
        | piece :: pieces => (byte :: piece) :: pieces

def newline : UInt8 := 10

def comma : UInt8 := 44

def splitCsv (line : Text) : List Text :=
  getlines comma line

/-- An empty side is that of a cancel. -/
def parseSide (field : Text) : Side :=
  match field with
  | [] => .buy
  | letter :: _ => if letter = 83 ∨ letter = 115 then .sell else .buy

def parseType (field : Text) : OrderType :=
  match field with
  | [] => .limit
  | letter :: _ =>
      if letter = 77 ∨ letter = 109 then .market
      else if letter = 73 ∨ letter = 105 then .ioc
      else .limit

/-- `strncpy` into the symbol's buffer and back to a string. -/
def parseSymbol (field : Text) : Symbol :=
  (field.takeWhile (· ≠ 0)).take 15

def parseAction (field : Text) : Char :=
  match field with
  | [] => 'N'
  | letter :: _ => .ofNat letter.toNat

namespace Conversions

variable (conversions : Conversions)

def parsePrice (field : Text) : Option Price :=
  if field.isEmpty then some 0 else conversions.stod field

/-- The cast keeps the low 32 bits. -/
def parseQuantity (field : Text) : Option Quantity :=
  if field.isEmpty then some 0 else (conversions.stoull field).map UInt32.ofNat

def parseOrderId (field : Text) : Option Nat :=
  if field.isEmpty then some 0 else conversions.stoull field

/-- The assignments of a row to an event, in order, up to the first conversion
that throws. -/
def assignRow (out : ReplayEvent) (fields : List Text) : ReplayEvent × Bool :=
  match conversions.stoll (fields.getD 0 []) with
  | none => (out, false)
  | some timestampNs =>
      let out :=
        { out with
          timestampNs := timestampNs
          symbol := parseSymbol (fields.getD 1 [])
          side := parseSide (fields.getD 2 [])
          type := parseType (fields.getD 3 []) }
      match conversions.parsePrice (fields.getD 4 []) with
      | none => (out, false)
      | some price =>
          let out := { out with price }
          match conversions.parseQuantity (fields.getD 5 []) with
          | none => (out, false)
          | some quantity =>
              let out := { out with quantity, action := parseAction (fields.getD 6 []) }
              match conversions.parseOrderId (fields.getD 7 []) with
              | none => (out, false)
              | some orderId => ({ out with orderId }, true)

/-- The event of a row that converts. -/
def rowEvent (fields : List Text) : Option ReplayEvent := do
  let timestampNs ← conversions.stoll (fields.getD 0 [])
  let price ← conversions.parsePrice (fields.getD 4 [])
  let quantity ← conversions.parseQuantity (fields.getD 5 [])
  let orderId ← conversions.parseOrderId (fields.getD 7 [])
  return {
    timestampNs
    symbol := parseSymbol (fields.getD 1 [])
    side := parseSide (fields.getD 2 [])
    type := parseType (fields.getD 3 [])
    price
    quantity
    action := parseAction (fields.getD 6 [])
    orderId }

/-- The event a line delivers, if it is not skipped. -/
def lineEvent (line : Text) : Option ReplayEvent :=
  if (splitCsv line).length < 8 then none else conversions.rowEvent (splitCsv line)

end Conversions

/-- A reader behind the header of its file. -/
structure TapeReader where
  lines : List Text
  count : Nat

namespace TapeReader

def new (file : Text) : TapeReader where
  lines := (getlines newline file).tail
  count := 0

variable (conversions : Conversions)

/-- The loop of `next` over the lines that are left. -/
def nextLine (count : Nat) (out : ReplayEvent) : List Text → TapeReader × ReplayEvent × Bool
  | [] => ({ lines := [], count }, out, false)
  | line :: lines =>
      if line.isEmpty then nextLine count out lines
      else if (splitCsv line).isEmpty ∨ (splitCsv line).length < 8 then nextLine count out lines
      else
        let row := conversions.assignRow out (splitCsv line)
        if row.2 then ({ lines, count := count + 1 }, row.1, true)
        else nextLine count row.1 lines

def next (reader : TapeReader) (out : ReplayEvent) : TapeReader × ReplayEvent × Bool :=
  nextLine conversions reader.count out reader.lines

end TapeReader

/-! ### Delivered events -/

namespace Conversions

variable (conversions : Conversions)

/-- A row converts whatever the event held before, and then determines all of
it. -/
theorem assignRow_eq (out : ReplayEvent) (fields : List Text) :
    (conversions.assignRow out fields).2 = (conversions.rowEvent fields).isSome ∧
      ∀ event, conversions.rowEvent fields = some event →
        (conversions.assignRow out fields).1 = event := by
  unfold assignRow rowEvent
  cases conversions.stoll (fields.getD 0 []) with
  | none => simp
  | some timestampNs =>
      cases conversions.parsePrice (fields.getD 4 []) with
      | none => simp
      | some price =>
          cases conversions.parseQuantity (fields.getD 5 []) with
          | none => simp
          | some quantity => cases conversions.parseOrderId (fields.getD 7 []) <;> simp

theorem rowEvent_eq_some_iff {fields : List Text} {event : ReplayEvent} :
    conversions.rowEvent fields = some event ↔
      conversions.stoll (fields.getD 0 []) = some event.timestampNs ∧
        conversions.parsePrice (fields.getD 4 []) = some event.price ∧
        conversions.parseQuantity (fields.getD 5 []) = some event.quantity ∧
        conversions.parseOrderId (fields.getD 7 []) = some event.orderId ∧
        event.symbol = parseSymbol (fields.getD 1 []) ∧
        event.side = parseSide (fields.getD 2 []) ∧ event.type = parseType (fields.getD 3 []) ∧
        event.action = parseAction (fields.getD 6 []) := by
  obtain ⟨timestampNs, symbol, side, type, price, quantity, action, orderId⟩ := event
  simp only [rowEvent, bind, Option.bind_eq_some_iff, pure, Option.some.injEq,
    ReplayEvent.mk.injEq]
  constructor
  · rintro ⟨_, first, _, second, _, third, _, fourth, rfl, rfl, rfl, rfl, rfl, rfl, rfl, rfl⟩
    exact ⟨first, second, third, fourth, rfl, rfl, rfl, rfl⟩
  · rintro ⟨first, second, third, fourth, rfl, rfl, rfl, rfl⟩
    exact ⟨_, first, _, second, _, third, _, fourth, rfl, rfl, rfl, rfl, rfl, rfl, rfl, rfl⟩

end Conversions

namespace TapeReader

variable {conversions : Conversions}

/-- A line without an event is passed over; it may leave some of its fields in
the reused event. -/
theorem nextLine_skips {line : Text} (skipped : conversions.lineEvent line = none) (count : Nat)
    (out : ReplayEvent) (lines : List Text) :
    ∃ left, nextLine conversions count out (line :: lines) =
      nextLine conversions count left lines := by
  rw [nextLine]
  by_cases empty : line.isEmpty = true
  · exact ⟨out, by rw [if_pos empty]⟩
  by_cases short : (splitCsv line).isEmpty = true ∨ (splitCsv line).length < 8
  · exact ⟨out, by rw [if_neg empty, if_pos short]⟩
  have long : ¬(splitCsv line).length < 8 := fun less => short (Or.inr less)
  rw [Conversions.lineEvent, if_neg long] at skipped
  have failed := (conversions.assignRow_eq out (splitCsv line)).1
  rw [skipped, Option.isSome_none] at failed
  refine ⟨(conversions.assignRow out (splitCsv line)).1, ?_⟩
  rw [if_neg empty, if_neg short]
  simp [failed]

theorem nextLine_delivers {line : Text} {event : ReplayEvent}
    (delivered : conversions.lineEvent line = some event) (count : Nat) (out : ReplayEvent)
    (lines : List Text) :
    nextLine conversions count out (line :: lines) =
      ({ lines, count := count + 1 }, event, true) := by
  rw [Conversions.lineEvent] at delivered
  have long : ¬(splitCsv line).length < 8 := by
    intro short
    simp [short] at delivered
  rw [if_neg long] at delivered
  have nonempty : ¬(splitCsv line).isEmpty = true := by
    intro none
    rw [List.isEmpty_iff] at none
    rw [none] at long
    simp at long
  have lineNonempty : ¬line.isEmpty = true := by
    intro none
    rw [List.isEmpty_iff] at none
    subst none
    exact nonempty rfl
  obtain ⟨succeeds, assigned⟩ := conversions.assignRow_eq out (splitCsv line)
  rw [delivered, Option.isSome_some] at succeeds
  rw [nextLine, if_neg lineNonempty, if_neg (not_or.mpr ⟨nonempty, long⟩)]
  simp [succeeds, assigned event delivered]

/-- A call of `next` takes lines off the front.  It takes at least one if it
delivers an event, and all of them if it does not. -/
theorem nextLine_lines (conversions : Conversions) (count : Nat) (out : ReplayEvent)
    (lines : List Text) :
    (nextLine conversions count out lines).1.lines <:+ lines ∧
      ((nextLine conversions count out lines).2.2 = true →
        (nextLine conversions count out lines).1.lines.length < lines.length) ∧
      ((nextLine conversions count out lines).2.2 = false →
        (nextLine conversions count out lines).1.lines = []) := by
  induction lines generalizing out with
  | nil => exact ⟨List.suffix_rfl, fun delivered => absurd delivered Bool.false_ne_true, fun _ => rfl⟩
  | cons line lines induction =>
      cases delivered : conversions.lineEvent line with
      | none =>
          obtain ⟨left, skips⟩ := nextLine_skips delivered count out lines
          obtain ⟨suffix, fewer, ends⟩ := induction left
          rw [skips]
          exact ⟨suffix.trans (List.suffix_cons line lines),
            fun later => (fewer later).trans (Nat.lt_succ_self _), ends⟩
      | some event =>
          rw [nextLine_delivers delivered]
          exact ⟨List.suffix_cons line lines, fun _ => Nat.lt_succ_self _,
            fun none => absurd none.symm Bool.false_ne_true⟩

/-- A call delivers its first line exactly if that line has an event. -/
theorem next_eq_iff {line : Text} {lines : List Text} {count : Nat} {out event : ReplayEvent} :
    next conversions { lines := line :: lines, count } out =
        ({ lines, count := count + 1 }, event, true) ↔
      conversions.lineEvent line = some event := by
  rw [next]
  cases delivered : conversions.lineEvent line with
  | none =>
      obtain ⟨left, skips⟩ := nextLine_skips delivered count out lines
      rw [skips]
      simp only [reduceCtorEq, iff_false]
      intro same
      have fewer := (nextLine_lines conversions count left lines).2.1
      rw [same] at fewer
      exact lt_irrefl _ (fewer rfl)
  | some row => simp [nextLine_delivers delivered]

end TapeReader

end OrderBookExchange
