import SearchPlan.Pattern

/-! Whether a pattern matches somewhere in a text. In a given text a pattern moves places: it takes a set
of places where matches begin to the set of places where they end. Greedy and lazy repetition come to
the same. -/

namespace SearchPlan.Pattern

/-- A place before, between or after the characters of a text. -/
structure Place where
  before : Option Char
  rest : List Char

/-- The places of the text that follows a character. -/
def places : (before : Option Char) → List Char → List Place
  | before, [] => [⟨before, []⟩]
  | before, c :: cs => ⟨before, c :: cs⟩ :: places (some c) cs

/-- A set of places: bit `n` stands for the place after `n` characters. -/
abbrev Places := Nat

/-- The places at which a condition holds. -/
def placesWhere (condition : Place → Bool) (ps : List Place) : Places :=
  ps.foldr (fun p found => 2 * found + if condition p then 1 else 0) 0

/-- What a pattern does to the places of one text. -/
inductive Moves
  /-- From each of these places, so many characters forward. -/
  | step : Places → (length : Nat) → Moves
  | seq : Moves → Moves → Moves
  | alt : Moves → Moves → Moves
  /-- `rounds` is as many repetitions as can lead to a new place. -/
  | many : (least rounds : Nat) → Moves → Moves

namespace Moves

/-- A function from places to places, `n` times. Once it changes nothing more, it is not called again. -/
def iterate (f : Places → Places) : Nat → Places → Places
  | 0, ps => ps
  | n + 1, ps =>
    let next := f ps
    if next = ps then ps else iterate f n next

/-- The places of the first set that are not in the second. -/
def without (a b : Places) : Places := a ^^^ (a &&& b)

/-- What is reached from `frontier` in at most `n` rounds, beside what has been `reached`. From the
places in `done` nothing new can be reached. -/
def spread (f : Places → Places) : Nat → (reached done frontier : Places) → Places
  | 0, reached, _, _ => reached
  | n + 1, reached, done, frontier =>
    if frontier = 0 then reached
    else
      let ends := f frontier
      let done := done ||| frontier
      spread f n (reached ||| ends) done (without ends done)

/-- The places where matches end that begin at the given places. -/
def run : Moves → Places → Places
  | .step start length, ps => (ps &&& start) <<< length
  | .seq a b, ps => b.run (a.run ps)
  | .alt a b, ps => a.run ps ||| b.run ps
  | .many least rounds a, ps =>
    let ps' := iterate a.run (least - 1) ps
    spread a.run rounds (if least = 0 then ps else 0) 0 ps'

end Moves

/-- The moves of a pattern in the text that has the given places. -/
def moves (ps : List Place) : Pattern → Moves
  | .empty => .step (placesWhere (fun _ => true) ps) 0
  | .literal cs => literalMove cs
  | .words ws => ws.foldr (fun cs m => .alt (literalMove cs) m) (.step 0 0)
  | .one s => .step (placesWhere (fun p => p.rest.head?.any fun c => s.has c.toNat) ps) 1
  | .look l => .step (placesWhere (fun p => l.holds p.before p.rest.head?) ps) 0
  | .group _ p => p.moves ps
  | .seq p q => .seq (p.moves ps) (q.moves ps)
  | .alt p q => .alt (p.moves ps) (q.moves ps)
  | .many least most p =>
    let rounds := match most with
      | some n => n - (least - 1)
      | none => ps.length
    .many least rounds (p.moves ps)
where
  literalMove (cs : List Char) : Moves :=
    .step (placesWhere (fun p => cs.isPrefixOf p.rest) ps) cs.length

/-- Whether the pattern matches anywhere in the text. -/
def matchesIn (p : Pattern) (text : String) : Bool :=
  let ps := places none text.toList
  (p.moves ps).run (placesWhere (fun _ => true) ps) ≠ 0

end SearchPlan.Pattern
