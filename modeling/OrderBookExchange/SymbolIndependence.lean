import OrderBookExchange.EngineTally
import OrderBookExchange.TimestampErasure

/-!
# Symbols do not see each other

Runs over many symbols, compared with runs over one symbol at a time and with
other interleavings of the same calls.  Books and results of a symbol depend on
its own calls only.  The statistics count over all symbols, and since every
call adds to them they do not depend on the interleaving either.
-/

namespace OrderBookExchange

/-- The results of the calls on a symbol. -/
def resultsOn (symbol : Symbol) (history : List (EngineOp × EngineOutput)) :
    List EngineOutput :=
  (history.filter fun entry => entry.1.symbol = symbol).map Prod.snd

/-- The trades of the book of a symbol. -/
def tradesOn (symbol : Symbol) (history : List (EngineOp × EngineOutput)) : List Trade :=
  (resultsOn symbol history).flatMap EngineOutput.trades

/-- A call with its result, without clock readings. -/
def untimedEntry (entry : EngineOp × EngineOutput) : EngineOp × EngineOutput :=
  (entry.1.untimed, entry.2.untimed)

theorem callTally_untimedEntry (entry : EngineOp × EngineOutput) :
    callTally (untimedEntry entry) = callTally entry := by
  have tradeTally : Trade.tally ∘ Trade.untimed = Trade.tally := rfl
  have counts : callCounts (untimedEntry entry) = callCounts entry := by
    rcases entry with ⟨_ | _ | _, _ | _ | _⟩ <;> rfl
  rw [callTally, counts, untimedEntry]
  dsimp only
  rw [EngineOutput.trades_untimed, List.map_map, tradeTally, callTally]

namespace MatchingEngine

variable (engine : MatchingEngine)

theorem lookup_books (symbol : Symbol) :
    engine.books.lookup symbol =
      if symbol ∈ engine.books then some (engine.book symbol) else none := by
  cases found : engine.books.lookup symbol with
  | none => rw [if_neg (Finmap.lookup_eq_none.mp found)]
  | some book =>
      rw [if_pos (Finmap.mem_of_lookup_eq_some found), MatchingEngine.book, found]
      rfl

theorem lookup_untimed {left right : MatchingEngine} {symbol : Symbol}
    (opened : symbol ∈ left.books ↔ symbol ∈ right.books)
    (books : (left.book symbol).untimed = (right.book symbol).untimed) :
    (left.books.lookup symbol).map OrderBook.untimed =
      (right.books.lookup symbol).map OrderBook.untimed := by
  rw [lookup_books, lookup_books]
  by_cases onLeft : symbol ∈ left.books
  · rw [if_pos onLeft, if_pos (opened.mp onLeft), Option.map_some, Option.map_some, books]
  · rw [if_neg onLeft, if_neg fun onRight => onLeft (opened.mpr onRight)]

theorem resultsOn_history (ops : List EngineOp) (symbol : Symbol) :
    resultsOn symbol (Transition.history step engine ops) =
      (Transition.run OrderBook.step (engine.book symbol) (callsOn symbol ops)).2 := by
  rw [resultsOn, history_on, Transition.map_snd_history]

theorem resultsOn_callsOn (ops : List EngineOp) (symbol : Symbol) :
    resultsOn symbol (Transition.history step engine (callsOn symbol ops)) =
      (Transition.run step engine (callsOn symbol ops)).2 := by
  have all : ∀ entry ∈ Transition.history step engine (callsOn symbol ops),
      decide (entry.1.symbol = symbol) = true := by
    intro entry member
    exact (List.mem_filter.mp (List.of_mem_zip member).1).2
  rw [resultsOn, List.filter_eq_self.mpr all, Transition.map_snd_history]

theorem lookup_of_callsOn {first second : List EngineOp} {symbol : Symbol}
    (agree : callsOn symbol first = callsOn symbol second) :
    (Transition.run step engine first).1.books.lookup symbol =
      (Transition.run step engine second).1.books.lookup symbol := by
  have opened : ∀ ops, symbol ∈ (Transition.run step engine ops).1.books ↔
      symbol ∈ engine.books ∨ ∃ op ∈ callsOn symbol ops, op.opensBook = true := by
    intro ops
    rw [mem_books_run]
    simp only [callsOn, List.mem_filter, decide_eq_true_eq]
    constructor
    · rintro (initial | ⟨op, member, opens, named⟩)
      · exact Or.inl initial
      · exact Or.inr ⟨op, ⟨member, named⟩, opens⟩
    · rintro (initial | ⟨op, ⟨member, named⟩, opens⟩)
      · exact Or.inl initial
      · exact Or.inr ⟨op, member, opens, named⟩
  have openedEq : (symbol ∈ (Transition.run step engine first).1.books) =
      (symbol ∈ (Transition.run step engine second).1.books) := by
    rw [propext (opened first), propext (opened second), agree]
  rw [lookup_books, lookup_books, book_run, book_run, agree]
  simp only [openedEq]

/-- Histories of books, clock readings aside, are determined by the calls,
clock readings aside. -/
theorem untimed_history_new (ops : List EngineOp) (symbol : Symbol) :
    ((Transition.history step .new ops).map untimedEntry).filter
        (fun entry => entry.1.symbol = symbol) =
      Transition.history OrderBook.step (.new symbol defaultPoolSize)
        ((callsOn symbol ops).map EngineOp.untimed) := by
  have image := Transition.history_image OrderBook.untimed_step (.new symbol defaultPoolSize)
    (callsOn symbol ops)
  rw [OrderBook.untimed_new] at image
  rw [image, ← book_new, ← history_on, List.filter_map]
  have sameSymbol : (fun entry : EngineOp × EngineOutput => decide (entry.1.symbol = symbol)) ∘
      untimedEntry = fun entry => decide (entry.1.symbol = symbol) := by
    funext entry
    rw [Function.comp_apply, untimedEntry, EngineOp.symbol_untimed]
  rw [sameSymbol]
  rfl

/-- The book of a symbol and the results on it, clock readings aside. -/
theorem untimed_run_new (ops : List EngineOp) (symbol : Symbol) :
    ((Transition.run step .new ops).1.book symbol).untimed =
        (Transition.run OrderBook.step (.new symbol defaultPoolSize)
          ((callsOn symbol ops).map EngineOp.untimed)).1 ∧
      (resultsOn symbol (Transition.history step .new ops)).map EngineOutput.untimed =
        (Transition.run OrderBook.step (.new symbol defaultPoolSize)
          ((callsOn symbol ops).map EngineOp.untimed)).2 := by
  have image := OrderBook.untimed_run (.new symbol defaultPoolSize) (callsOn symbol ops)
  rw [OrderBook.untimed_new] at image
  rw [book_run, resultsOn_history, book_new, image]
  exact ⟨rfl, rfl⟩

section Interleavings

variable {first second : List EngineOp}
  (agree : ∀ symbol, (callsOn symbol first).map EngineOp.untimed =
    (callsOn symbol second).map EngineOp.untimed)
include agree

theorem mem_books_of_agree (symbol : Symbol) :
    symbol ∈ (Transition.run step .new first).1.books →
      symbol ∈ (Transition.run step .new second).1.books := by
  rw [mem_books_run, mem_books_run]
  rintro (initial | ⟨op, member, opens, named⟩)
  · exact Or.inl initial
  · have listed : op.untimed ∈ (callsOn symbol second).map EngineOp.untimed := by
      rw [← agree symbol]
      exact List.mem_map_of_mem (List.mem_filter.mpr ⟨member, by simpa using named⟩)
    obtain ⟨other, otherMember, same⟩ := List.mem_map.mp listed
    obtain ⟨otherMember, otherNamed⟩ := List.mem_filter.mp otherMember
    refine Or.inr ⟨other, otherMember, ?_, by simpa using otherNamed⟩
    rw [← EngineOp.opensBook_untimed, same, EngineOp.opensBook_untimed, opens]

/-- The statistics do not depend on the interleaving. -/
theorem tally_of_agree :
    (Transition.run step .new first).1.stats.tally =
      (Transition.run step .new second).1.stats.tally := by
  have rearranged : ((Transition.history step .new first).map untimedEntry).Perm
      ((Transition.history step .new second).map untimedEntry) := by
    apply Transition.perm_of_filter_eq fun entry : EngineOp × EngineOutput => entry.1.symbol
    intro symbol
    rw [untimed_history_new, untimed_history_new, agree]
  have counted : ∀ ops, (Transition.history step .new ops).map callTally =
      ((Transition.history step .new ops).map untimedEntry).map callTally := by
    intro ops
    rw [List.map_map]
    apply List.map_congr_left
    intro entry _
    exact (callTally_untimedEntry entry).symm
  rw [tally_run, tally_run, counted first, counted second, (rearranged.map callTally).sum_eq]

end Interleavings

/-- The book of a symbol, the results of its calls and its trades are those of
a fresh engine that is given the calls on that symbol alone.  Two interleavings
of the same calls per symbol agree on all of them, and on the statistics; if
only the clock readings differ, they agree once timestamps are forgotten. -/
theorem symbols_independent (ops : List EngineOp) :
    let together := Transition.run step .new ops
    let history := Transition.history step .new ops
    (∀ symbol,
      let alone := Transition.run step .new (callsOn symbol ops)
      together.1.books.lookup symbol = alone.1.books.lookup symbol ∧
        resultsOn symbol history = alone.2 ∧
        tradesOn symbol history = alone.2.flatMap EngineOutput.trades) ∧
      (∀ other : List EngineOp,
        (∀ symbol, callsOn symbol ops = callsOn symbol other) →
          ∀ symbol,
            together.1.books.lookup symbol =
                (Transition.run step .new other).1.books.lookup symbol ∧
              resultsOn symbol history =
                resultsOn symbol (Transition.history step .new other) ∧
              tradesOn symbol history =
                tradesOn symbol (Transition.history step .new other)) ∧
      ∀ other : List EngineOp,
        (∀ symbol, (callsOn symbol ops).map EngineOp.untimed =
          (callsOn symbol other).map EngineOp.untimed) →
          (∀ symbol,
            (together.1.books.lookup symbol).map OrderBook.untimed =
                ((Transition.run step .new other).1.books.lookup symbol).map
                  OrderBook.untimed ∧
              (resultsOn symbol history).map EngineOutput.untimed =
                (resultsOn symbol (Transition.history step .new other)).map
                  EngineOutput.untimed ∧
              (tradesOn symbol history).map Trade.untimed =
                (tradesOn symbol (Transition.history step .new other)).map Trade.untimed) ∧
            together.1.stats.tally =
              (Transition.run step .new other).1.stats.tally := by
  intro together history
  have projected : ∀ (calls : List EngineOp) (symbol : Symbol),
      callsOn symbol ops = callsOn symbol calls →
        together.1.books.lookup symbol =
            (Transition.run step .new calls).1.books.lookup symbol ∧
          resultsOn symbol history =
            resultsOn symbol (Transition.history step .new calls) := by
    intro calls symbol agree
    refine ⟨lookup_of_callsOn .new agree, ?_⟩
    rw [show history = Transition.history step .new ops from rfl, resultsOn_history,
      resultsOn_history, agree]
  refine ⟨?_, ?_, ?_⟩
  · intro symbol alone
    obtain ⟨lookupEq, resultsEq⟩ := projected (callsOn symbol ops) symbol
      (callsOn_callsOn symbol ops).symm
    rw [resultsOn_callsOn] at resultsEq
    exact ⟨lookupEq, resultsEq, by rw [tradesOn, resultsEq]⟩
  · intro other agree symbol
    obtain ⟨lookupEq, resultsEq⟩ := projected other symbol (agree symbol)
    exact ⟨lookupEq, resultsEq, by rw [tradesOn, resultsEq, tradesOn]⟩
  · intro other agree
    refine ⟨?_, tally_of_agree agree⟩
    intro symbol
    obtain ⟨bookLeft, resultsLeft⟩ := untimed_run_new ops symbol
    obtain ⟨bookRight, resultsRight⟩ := untimed_run_new other symbol
    rw [agree, ← bookRight] at bookLeft
    rw [agree, ← resultsRight] at resultsLeft
    have openedEq : symbol ∈ together.1.books ↔
        symbol ∈ (Transition.run step .new other).1.books :=
      ⟨mem_books_of_agree agree symbol, mem_books_of_agree (fun name => (agree name).symm) symbol⟩
    have tradesEq : ∀ outputs : List EngineOutput,
        (outputs.flatMap EngineOutput.trades).map Trade.untimed =
          (outputs.map EngineOutput.untimed).flatMap EngineOutput.trades := by
      intro outputs
      rw [List.map_flatMap, List.flatMap_map]
      simp only [EngineOutput.trades_untimed]
    refine ⟨lookup_untimed openedEq bookLeft, resultsLeft, ?_⟩
    rw [tradesOn, tradesEq, resultsLeft, ← tradesEq, tradesOn]

/-- Three calls on two symbols, in two orders and with two clocks. -/
theorem symbols_independent_interleaved :
    let sale : Clock → EngineOp := fun clock => .submit clock [65] .sell .limit (.finite 100) 5
    let bid : Clock → EngineOp := fun clock => .submit clock [66] .buy .limit (.finite 50) 3
    let purchase : Clock → EngineOp := fun clock => .submit clock [65] .buy .ioc (.finite 101) 7
    let first := [sale id, bid id, purchase id]
    let second := [bid (· + 7), sale (· * 3), purchase (· + 1)]
    (∀ symbol, (callsOn symbol first).map EngineOp.untimed =
        (callsOn symbol second).map EngineOp.untimed) ∧
      (Transition.run step .new first).1.stats.tally =
        (Transition.run step .new second).1.stats.tally ∧
      (resultsOn [65] (Transition.history step .new first)).map EngineOutput.untimed =
        [.submitted 1 [], .submitted 2 [⟨2, 1, .finite 100, 5, 0⟩]] := by
  intro sale bid purchase first second
  have agree : ∀ symbol, (callsOn symbol first).map EngineOp.untimed =
      (callsOn symbol second).map EngineOp.untimed := by
    intro symbol
    by_cases onFirst : [65] = symbol
    · subst onFirst
      rfl
    · by_cases onSecond : [66] = symbol
      · subst onSecond
        rfl
      · simp [first, second, sale, bid, purchase, callsOn, EngineOp.symbol, onFirst, onSecond]
  exact ⟨agree, ((symbols_independent first).2.2 second agree).2, by decide +kernel⟩

end MatchingEngine

end OrderBookExchange
