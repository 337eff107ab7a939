import OrderBookExchange.DecimalText
import OrderBookExchange.TapeReader
import Mathlib.Data.List.TakeWhile

/-!
# What a row of a tape is read as

A row is written as eight fields with commas between them.  Most fields may be
left empty.  The reader splits a line at its commas, but a comma at the very end
is not followed by a field, so a row whose last field is empty has only seven.
Quantities are converted as 64-bit numbers and then cut to 32 bits.
-/

namespace OrderBookExchange

deriving instance DecidableEq for ReplayEvent, TapeReader

/-! ### Splitting a line -/

section Split

variable {delimiter : UInt8} {piece : Text}

theorem getlines_append_delimiter (plain : delimiter ∉ piece) (rest : Text) :
    getlines delimiter (piece ++ delimiter :: rest) = piece :: getlines delimiter rest := by
  induction piece with
  | nil => simp [getlines]
  | cons byte piece induction =>
      obtain ⟨different, plainRest⟩ := not_or.mp (mt List.mem_cons.mpr plain)
      rw [List.cons_append, getlines, if_neg (Ne.symm different), induction plainRest]

theorem getlines_of_plain (plain : delimiter ∉ piece) (nonempty : piece ≠ []) :
    getlines delimiter piece = [piece] := by
  induction piece with
  | nil => exact absurd rfl nonempty
  | cons byte piece induction =>
      obtain ⟨different, plainRest⟩ := not_or.mp (mt List.mem_cons.mpr plain)
      rw [getlines, if_neg (Ne.symm different)]
      cases piece with
      | nil => rfl
      | cons next piece => rw [induction plainRest (by simp)]

/-- Pieces with a delimiter behind each, and a last one. -/
def joined (delimiter : UInt8) (pieces : List Text) (last : Text) : Text :=
  pieces.foldr (fun piece rest => piece ++ delimiter :: rest) last

theorem getlines_joined {pieces : List Text} (plain : ∀ piece ∈ pieces, delimiter ∉ piece)
    (last : Text) :
    getlines delimiter (joined delimiter pieces last) = pieces ++ getlines delimiter last := by
  induction pieces with
  | nil => rfl
  | cons piece pieces induction =>
      rw [joined, List.foldr_cons, getlines_append_delimiter (plain piece List.mem_cons_self)]
      exact congrArg (List.cons piece)
        (induction fun other member => plain other (List.mem_cons_of_mem piece member))

end Split

/-! ### Rows as they are written -/

/-- The fields of a row. -/
structure TapeRow where
  timestamp : Text
  symbol : Text
  side : Text
  type : Text
  price : Text
  quantity : Text
  action : Text
  orderId : Text

namespace TapeRow

/-- The fields in front of the last. -/
def leading (row : TapeRow) : List Text :=
  [row.timestamp, row.symbol, row.side, row.type, row.price, row.quantity, row.action]

def line (row : TapeRow) : Text :=
  joined comma row.leading row.orderId

/-- The row writes the values of an event, up to the rounding of decimals to
doubles.  Empty fields stand for a buy, a limit order, zero, zero, a new order
and zero. -/
structure Writes (toDouble : ℚ → Double) (row : TapeRow) (event : ReplayEvent) : Prop where
  noComma : ∀ field ∈ row.leading ++ [row.orderId], comma ∉ field
  noNewline : ∀ field ∈ row.leading ++ [row.orderId], newline ∉ field
  timestamp : DecimalText.DenotesInteger row.timestamp event.timestampNs ∧
    -2 ^ 63 ≤ event.timestampNs ∧ event.timestampNs < 2 ^ 63
  symbol : row.symbol.length ≤ 15 ∧ event.symbol = row.symbol
  side : row.side = [] ∧ event.side = .buy ∨ row.side = [66] ∧ event.side = .buy ∨
    row.side = [83] ∧ event.side = .sell
  type : row.type = [] ∧ event.type = .limit ∨ row.type = [76] ∧ event.type = .limit ∨
    row.type = [77] ∧ event.type = .market ∨ row.type = [73] ∧ event.type = .ioc
  price : row.price = [] ∧ event.price = 0 ∨
    ∃ number, DecimalText.DenotesDecimal row.price number ∧ event.price = toDouble number
  quantity : row.quantity = [] ∧ event.quantity = 0 ∨
    DecimalText.DenotesInteger row.quantity event.quantity.toNat
  action : row.action = [] ∧ event.action = 'N' ∨
    ∃ letter, row.action = [letter] ∧ event.action = .ofNat letter.toNat
  orderId : row.orderId = [] ∧ event.orderId = 0 ∨
    DecimalText.DenotesInteger row.orderId event.orderId ∧ event.orderId < 2 ^ 64

end TapeRow

namespace Conversions

/-- The conversions with the integer ones as the library has them. -/
def library (stod : Text → Option Double) : Conversions where
  stoll := DecimalText.stoll
  stod := stod
  stoull := DecimalText.stoull

/-- `stod` rounds the decimals it converts.  It throws on those that are out of the
range of a double. -/
def ReadsDecimals (stod : Text → Option Double) (toDouble : ℚ → Double) : Prop :=
  ∀ text number double, DecimalText.DenotesDecimal text number → stod text = some double →
    double = toDouble number

end Conversions

namespace TapeRow

variable {toDouble : ℚ → Double} {row : TapeRow} {event : ReplayEvent}
  {stod : Text → Option Double}

theorem denotes_ne_nil {text : Text} {number : Int}
    (denotes : DecimalText.DenotesInteger text number) : text ≠ [] := by
  obtain ⟨sign, negative, digits, -, nonempty, -, rfl, -⟩ := denotes.shape
  simp [nonempty]

theorem stoull_of_denotes {text : Text} {number : Nat}
    (denotes : DecimalText.DenotesInteger text number) (fits : number < 2 ^ 64) :
    DecimalText.stoull text = some number := by
  rw [DecimalText.stoull_of_denotes denotes, if_pos (by simpa using fits)]
  congr 1
  omega

/-- The line has all eight fields unless the last one is empty. -/
theorem splitCsv_line (writes : row.Writes toDouble event) :
    splitCsv row.line = row.leading ++ if row.orderId = [] then [] else [row.orderId] := by
  have plain : ∀ piece ∈ row.leading, comma ∉ piece :=
    fun piece member => writes.noComma piece (List.mem_append_left _ member)
  have lastPlain : comma ∉ row.orderId := writes.noComma row.orderId (by simp)
  rw [splitCsv, line, getlines_joined plain]
  split
  · next empty =>
      rw [empty]
      rfl
  · next present => rw [getlines_of_plain lastPlain present]

theorem parseSymbol_eq_iff {symbol : Text} (short : symbol.length ≤ 15) :
    parseSymbol symbol = symbol ↔ 0 ∉ symbol := by
  have taken : parseSymbol symbol = symbol.takeWhile (· ≠ 0) := by
    rw [parseSymbol, List.take_of_length_le]
    exact (List.takeWhile_sublist _).length_le.trans short
  rw [taken, List.takeWhile_eq_self_iff]
  constructor
  · intro all present
    simpa using all 0 present
  · intro absent byte member
    have nonzero : byte ≠ 0 := by
      rintro rfl
      exact absent member
    simpa using nonzero

theorem parseSide_of_writes (writes : row.Writes toDouble event) :
    parseSide row.side = event.side := by
  rcases writes.side with ⟨field, value⟩ | ⟨field, value⟩ | ⟨field, value⟩ <;>
    rw [field, value] <;> decide

theorem parseType_of_writes (writes : row.Writes toDouble event) :
    parseType row.type = event.type := by
  rcases writes.type with ⟨field, value⟩ | ⟨field, value⟩ | ⟨field, value⟩ | ⟨field, value⟩ <;>
    rw [field, value] <;> decide

theorem parseAction_of_writes (writes : row.Writes toDouble event) :
    parseAction row.action = event.action := by
  rcases writes.action with ⟨field, value⟩ | ⟨letter, field, value⟩
  · rw [field, value]
    rfl
  · rw [field, value]
    rfl

theorem parsePrice_eq_some_iff (writes : row.Writes toDouble event)
    (reads : Conversions.ReadsDecimals stod toDouble) :
    (Conversions.library stod).parsePrice row.price = some event.price ↔
      row.price = [] ∨ (stod row.price).isSome := by
  rcases writes.price with ⟨field, value⟩ | ⟨number, denotes, value⟩
  · rw [field, value]
    exact iff_of_true rfl (Or.inl rfl)
  · have nonempty : row.price ≠ [] := by
      obtain ⟨sign, negative, whole, fraction, decimals, -, shape, some, -, textEq, -⟩ :=
        denotes.shape
      rw [textEq]
      rcases shape with ⟨rfl, rfl⟩ | rfl
      · simpa using fun _ => some
      · simp
    rw [Conversions.parsePrice, if_neg (by simpa using nonempty), value, or_iff_right nonempty,
      Option.isSome_iff_exists]
    constructor
    · exact fun converted => ⟨_, converted⟩
    · rintro ⟨double, converted⟩
      exact converted.trans (congrArg some (reads row.price number double denotes converted))

theorem parseQuantity_of_writes (writes : row.Writes toDouble event) :
    (Conversions.library stod).parseQuantity row.quantity = some event.quantity := by
  rcases writes.quantity with ⟨field, value⟩ | denotes
  · rw [field, value]
    rfl
  · have fits : event.quantity.toNat < 2 ^ 64 := event.quantity.toNat_lt.trans (by decide)
    have converted : (Conversions.library stod).stoull row.quantity =
        some event.quantity.toNat := stoull_of_denotes denotes fits
    rw [Conversions.parseQuantity, if_neg (by simpa using denotes_ne_nil denotes), converted,
      Option.map_some, UInt32.ofNat_toNat]

theorem parseOrderId_of_writes (writes : row.Writes toDouble event) :
    (Conversions.library stod).parseOrderId row.orderId = some event.orderId := by
  rcases writes.orderId with ⟨field, value⟩ | ⟨denotes, fits⟩
  · rw [field, value]
    rfl
  · rw [Conversions.parseOrderId, if_neg (by simpa using denotes_ne_nil denotes)]
    exact stoull_of_denotes denotes fits

/-- A row with all its fields converts to what it writes exactly if the symbol is
kept and the price converts. -/
theorem rowEvent_eq_some_iff (writes : row.Writes toDouble event)
    (reads : Conversions.ReadsDecimals stod toDouble) :
    (Conversions.library stod).rowEvent (row.leading ++ [row.orderId]) = some event ↔
      0 ∉ row.symbol ∧ (row.price = [] ∨ (stod row.price).isSome) := by
  have timestamp : DecimalText.stoll row.timestamp = some event.timestampNs :=
    DecimalText.stoll_of_denotes writes.timestamp.1 writes.timestamp.2.1 writes.timestamp.2.2
  have quantity : (Conversions.library stod).parseQuantity row.quantity = some event.quantity :=
    parseQuantity_of_writes writes
  have orderId : (Conversions.library stod).parseOrderId row.orderId = some event.orderId :=
    parseOrderId_of_writes writes
  rw [← parsePrice_eq_some_iff writes reads, ← parseSymbol_eq_iff writes.symbol.1,
    Conversions.rowEvent_eq_some_iff]
  constructor
  · rintro ⟨-, price, -, -, symbol, -⟩
    exact ⟨symbol.symm.trans writes.symbol.2, price⟩
  · rintro ⟨symbol, price⟩
    exact ⟨timestamp, price, quantity, orderId, writes.symbol.2.trans symbol.symm,
      (parseSide_of_writes writes).symm, (parseType_of_writes writes).symm,
      (parseAction_of_writes writes).symm⟩

end TapeRow

namespace TapeReader

/-- The next call delivers the values that a row writes if and only if its last
field is not empty, its symbol has no NUL byte and its price, if it has one, is not
out of the range of `stod`. -/
theorem next_delivers_written_iff {toDouble : ℚ → Double} {stod : Text → Option Double}
    (reads : Conversions.ReadsDecimals stod toDouble) {row : TapeRow} {event : ReplayEvent}
    (writes : row.Writes toDouble event) (lines : List Text) (count : Nat) (out : ReplayEvent) :
    next (.library stod) { lines := row.line :: lines, count } out =
        ({ lines, count := count + 1 }, event, true) ↔
      row.orderId ≠ [] ∧ 0 ∉ row.symbol ∧ (row.price = [] ∨ (stod row.price).isSome) := by
  rw [next_eq_iff, Conversions.lineEvent, TapeRow.splitCsv_line writes]
  by_cases empty : row.orderId = []
  · rw [if_pos empty, if_pos (by simp [TapeRow.leading])]
    simp [empty]
  · rw [if_neg empty, if_neg (by simp [TapeRow.leading]),
      TapeRow.rowEvent_eq_some_iff writes reads, and_iff_right empty]

/-- Plain decimals, not rounded. -/
def exactStod (text : Text) : Option Double :=
  (DecimalText.scanDecimal text).map .finite

theorem exactStod_readsDecimals : Conversions.ReadsDecimals exactStod .finite := by
  intro text number double denotes converted
  rw [exactStod, DecimalText.scanDecimal_of_denotes denotes] at converted
  exact (Option.some.inj converted).symm

theorem denotesInteger_digits {digits : Text} (nonempty : digits ≠ [])
    (all : ∀ digit ∈ digits, DecimalText.isDigit digit = true) :
    DecimalText.DenotesInteger digits (DecimalText.digitsValue digits) :=
  ⟨[], false, digits, .absent, nonempty, all, rfl, rfl⟩

/-- `5,A,,,,,,7` -/
def sparseRow : TapeRow where
  timestamp := [53]
  symbol := [65]
  side := []
  type := []
  price := []
  quantity := []
  action := []
  orderId := [55]

theorem sparseRow_writes :
    sparseRow.Writes .finite ⟨5, [65], .buy, .limit, 0, 0, 'N', 7⟩ where
  noComma := by decide +kernel
  noNewline := by decide +kernel
  timestamp := ⟨denotesInteger_digits (by decide) (by decide +kernel), by decide, by decide⟩
  symbol := ⟨by decide +kernel, rfl⟩
  side := Or.inl ⟨rfl, rfl⟩
  type := Or.inl ⟨rfl, rfl⟩
  price := Or.inl ⟨rfl, rfl⟩
  quantity := Or.inl ⟨rfl, rfl⟩
  action := Or.inl ⟨rfl, rfl⟩
  orderId := Or.inr ⟨denotesInteger_digits (by decide) (by decide +kernel), by decide⟩

/-- A row with nothing but a timestamp, a symbol and an identifier. -/
theorem next_delivers_written_sparse :
    next (.library exactStod) { lines := [sparseRow.line], count := 0 }
        ⟨0, [66], .sell, .ioc, .nan, 9, 'C', 9⟩ =
      ({ lines := [], count := 1 }, ⟨5, [65], .buy, .limit, 0, 0, 'N', 7⟩, true) :=
  (next_delivers_written_iff exactStod_readsDecimals sparseRow_writes [] 0 _).mpr
    ⟨by decide, by decide, Or.inl rfl⟩

/-- `5,A,B,L,1,2,N,` -/
def unnumberedRow : TapeRow where
  timestamp := [53]
  symbol := [65]
  side := [66]
  type := [76]
  price := [49]
  quantity := [50]
  action := [78]
  orderId := []

/-- A row that only lacks its identifier is skipped. -/
theorem next_skips_unnumbered :
    unnumberedRow.Writes .finite ⟨5, [65], .buy, .limit, .finite 1, 2, 'N', 0⟩ ∧
      ∀ out, next (.library exactStod) { lines := [unnumberedRow.line], count := 0 } out =
        ({ lines := [], count := 0 }, out, false) := by
  refine ⟨?_, fun out => ?_⟩
  · constructor
    case noComma => decide +kernel
    case noNewline => decide +kernel
    case timestamp =>
      exact ⟨denotesInteger_digits (by decide) (by decide +kernel), by decide, by decide⟩
    case symbol => exact ⟨by decide +kernel, rfl⟩
    case side => exact Or.inr (Or.inl ⟨rfl, rfl⟩)
    case type => exact Or.inr (Or.inl ⟨rfl, rfl⟩)
    case price =>
      refine Or.inr ⟨1, ⟨[], false, [49], [], [], .absent, Or.inl ⟨rfl, rfl⟩,
        by decide +kernel, by decide +kernel,
        rfl, ?_⟩, rfl⟩
      decide +kernel
    case quantity => exact Or.inr (denotesInteger_digits (by decide) (by decide +kernel))
    case action => exact Or.inr ⟨78, rfl, by decide +kernel⟩
    case orderId => exact Or.inl ⟨rfl, rfl⟩
  · rfl

/-- A delivered row has the quantity its field denotes if and only if that fits
32 bits; for a number that does not, the row is delivered with another quantity
unless it is malformed for another reason. -/
theorem quantity_kept_iff (stoll : Text → Option Int) (stod : Text → Option Double) {line : Text}
    {number : Int} (denotes : DecimalText.DenotesInteger ((splitCsv line).getD 5 []) number)
    (lines : List Text) (count : Nat) (out : ReplayEvent) :
    let conversions : Conversions := { stoll, stod, stoull := DecimalText.stoull }
    let field := fun index => (splitCsv line).getD index []
    (∀ event, next conversions { lines := line :: lines, count } out =
        ({ lines, count := count + 1 }, event, true) → (event.quantity.toNat : Int) = number) ↔
      0 ≤ number ∧ number < 2 ^ 32 ∨ 2 ^ 64 ≤ number.natAbs ∨
        (splitCsv line).length < 8 ∨ stoll (field 0) = none ∨
          conversions.parsePrice (field 4) = none ∨ conversions.parseOrderId (field 7) = none := by
  intro conversions field
  simp only [next_eq_iff]
  have nonempty : field 5 ≠ [] := TapeRow.denotes_ne_nil denotes
  have converted : conversions.parseQuantity (field 5) =
      if number.natAbs < 2 ^ 64 then some (UInt32.ofNat (number % 2 ^ 64).toNat) else none := by
    rw [Conversions.parseQuantity, if_neg (by simpa using nonempty)]
    change (DecimalText.stoull (field 5)).map UInt32.ofNat = _
    rw [DecimalText.stoull_of_denotes denotes]
    split <;> rfl
  have cut : number.natAbs < 2 ^ 64 →
      (((UInt32.ofNat (number % 2 ^ 64).toNat).toNat : Int) = number ↔
        0 ≤ number ∧ number < 2 ^ 32) := by
    intro fits
    rw [UInt32.toNat_ofNat']
    omega
  constructor
  · intro kept
    by_contra fails
    simp only [not_or, not_le, not_lt] at fails
    obtain ⟨outside, fits, long, timestamp, price, orderId⟩ := fails
    obtain ⟨timestampNs, timestamp⟩ := Option.ne_none_iff_exists'.mp timestamp
    obtain ⟨priceValue, price⟩ := Option.ne_none_iff_exists'.mp price
    obtain ⟨orderIdValue, orderId⟩ := Option.ne_none_iff_exists'.mp orderId
    rw [if_pos fits] at converted
    apply outside
    apply (cut fits).mp
    refine kept ⟨timestampNs, parseSymbol (field 1), parseSide (field 2), parseType (field 3),
      priceValue, _, parseAction (field 6), orderIdValue⟩ ?_
    rw [Conversions.lineEvent, if_neg (Nat.not_lt.mpr long), Conversions.rowEvent_eq_some_iff]
    exact ⟨timestamp, price, converted, orderId, rfl, rfl, rfl, rfl⟩
  · intro condition event delivered
    rw [Conversions.lineEvent] at delivered
    split at delivered
    · simp at delivered
    · next long =>
        obtain ⟨timestamp, price, quantity, orderId, -⟩ :=
          conversions.rowEvent_eq_some_iff.mp delivered
        rw [converted] at quantity
        split at quantity
        · next fits =>
            have inside : 0 ≤ number ∧ number < 2 ^ 32 := by
              rcases condition with inside | large | short | failed | failed | failed
              · exact inside
              · omega
              · exact absurd short long
              · exact absurd (timestamp.symm.trans failed) (by simp)
              · exact absurd (price.symm.trans failed) (by simp)
              · exact absurd (orderId.symm.trans failed) (by simp)
            rw [← Option.some.inj quantity]
            exact (cut fits).mpr inside
        · simp at quantity

/-- `5,A,B,L,1,` before the quantity of a row and `,N,7` behind it. -/
def rowWithQuantity (quantity : Text) : Text :=
  joined comma [[53], [65], [66], [76], [49], quantity, [78]] [55]

/-- A row for 20 shares. -/
theorem quantity_kept_twenty :
    ∃ event, next (.library exactStod) { lines := [rowWithQuantity [50, 48]], count := 0 }
        ⟨0, [], .buy, .limit, 0, 0, 'N', 0⟩ = ({ lines := [], count := 1 }, event, true) ∧
      (event.quantity.toNat : Int) = 20 := by
  have kept := (quantity_kept_iff DecimalText.stoll exactStod
    (denotesInteger_digits (by decide) (by decide +kernel) :
      DecimalText.DenotesInteger ((splitCsv (rowWithQuantity [50, 48])).getD 5 []) 20) [] 0
    ⟨0, [], .buy, .limit, 0, 0, 'N', 0⟩).mpr (Or.inl ⟨by decide, by decide⟩)
  exact ⟨⟨5, [65], .buy, .limit, .finite 1, 20, 'N', 7⟩, by decide +kernel,
    kept _ (by decide +kernel)⟩

/-- The quantity `-1` is delivered as 4294967295, and `4294967296` as 0. -/
theorem next_wraps_quantity :
    DecimalText.DenotesInteger [45, 49] (-1) ∧
      (next (.library exactStod) { lines := [rowWithQuantity [45, 49]], count := 0 }
          ⟨0, [], .buy, .limit, 0, 0, 'N', 0⟩).2 =
        (⟨5, [65], .buy, .limit, .finite 1, 4294967295, 'N', 7⟩, true) ∧
      DecimalText.DenotesInteger [52, 50, 57, 52, 57, 54, 55, 50, 57, 54] 4294967296 ∧
      (next (.library exactStod)
          { lines := [rowWithQuantity [52, 50, 57, 52, 57, 54, 55, 50, 57, 54]], count := 0 }
          ⟨0, [], .buy, .limit, 0, 0, 'N', 0⟩).2 =
        (⟨5, [65], .buy, .limit, .finite 1, 0, 'N', 7⟩, true) := by
  refine ⟨⟨[45], true, [49], .minus, by decide, by decide +kernel, rfl, by decide⟩,
    by decide +kernel, denotesInteger_digits (by decide) (by decide +kernel), by decide +kernel⟩

end TapeReader

end OrderBookExchange
