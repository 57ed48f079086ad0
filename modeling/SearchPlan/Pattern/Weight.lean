import SearchPlan.Pattern
import SearchPlan.Text.Utf8

/-! How much room a pattern takes as an automaton over the bytes of UTF-8, and how much it may take.
There are two automata: one reads forward from where a match begins and remembers the groups, the
other reads backward from where it ends. Both write repetitions out. -/

namespace SearchPlan.Pattern

open Text.Utf8 (Block ByteRange)

/-- The bytes of a state. -/
def state : Nat := 32

/-- The bytes of each range of a state that reads one of several ranges. -/
def label : Nat := 8

/-- The bytes of each way that leads on from a state that reads nothing and has several. -/
def branch : Nat := 4

/-- The bytes that each of the automata may take. -/
def weightLimit : Nat := 10 * 1024 * 1024

inductive Direction
  | forward
  | backward
  deriving DecidableEq

def total (ns : List Nat) : Nat := ns.foldl (· + ·) 0

/-! ### Sets -/

/-- The first ranges of the blocks, each with what comes after it. -/
def heads : List Block → List (ByteRange × List Block)
  | [] => []
  | [] :: rest => heads rest
  | (r :: block) :: rest =>
    match heads rest with
    | (r', blocks) :: more =>
      if r = r' then (r, block :: blocks) :: more else (r, [block]) :: (r', blocks) :: more
    | [] => [(r, [block])]

/-- What is still to be read after each beginning of a block of at most `length` bytes. -/
def remainders : (length : Nat) → List Block → List (List Block)
  | 0, _ => []
  | length + 1, blocks =>
    match heads blocks with
    | [] => []
    | hs => blocks :: hs.flatMap fun (_, rest) => remainders length rest

/-- The number of beginnings of the blocks, the empty one not counted. -/
def beginnings : (length : Nat) → List Block → Nat
  | 0, _ => 0
  | length + 1, blocks => total ((heads blocks).map fun (_, rest) => 1 + beginnings length rest)

/-- Forward, what is to be read says which state it is; backward, what has been read. A set of ASCII
characters needs one state beside the last. -/
def setWeight (d : Direction) (s : CharSet) : Nat :=
  if s.isAscii then 2 * state + label * s.ranges.length
  else
    let blocks := s.ranges.flatMap Text.Utf8.blocks
    match d with
    | .forward =>
      state + total ((remainders 4 blocks).eraseDups.map fun rest =>
        state + label * (heads rest).length)
    | .backward => 2 * state + state * beginnings 4 blocks + branch * blocks.length

/-! ### Texts -/

/-- The rests of words with only one of the ended words at the beginning. -/
def dropEnded : List (List Nat) → List (List Nat)
  | [] :: [] :: rest => dropEnded ([] :: rest)
  | ws => ws

/-- The rests of words between those that have ended. -/
def stretches : List (List Nat) → List (List (List Nat))
  | [] => [[]]
  | [] :: rest => [] :: stretches rest
  | w :: rest =>
    match stretches rest with
    | ws :: more => (w :: ws) :: more
    | [] => [[w]]

/-- The words by their first bytes. -/
def initials : List (List Nat) → List (Nat × List (List Nat))
  | [] => []
  | [] :: rest => initials rest
  | (b :: w) :: rest =>
    let found := initials rest
    match found.lookup b with
    | some ws => (b, w :: ws) :: found.filter (·.1 ≠ b)
    | none => (b, [w]) :: found

/-- The states that read one of the words, of at most `length` bytes. Words with the same beginning
share its states; a state where a word ends reads those before and those after it apart. -/
def wordTree : (length : Nat) → List (List Nat) → Nat
  | 0, _ => 0
  | length + 1, ws =>
    let found := (stretches (dropEnded ws)).map initials
    let ends := found.length - 1
    let read := found.filter (!·.isEmpty)
    state + branch * (ends + read.length) + total (read.map fun found =>
      state + (if found.length = 1 then 0 else label * found.length)
        + total (found.map fun (_, rest) =>
            if rest.all (·.isEmpty) then 0 else wordTree length rest))

def wordsWeight (d : Direction) (ws : List (List Char)) : Nat :=
  let ws := ws.map fun cs =>
    let bytes := cs.flatMap Text.Utf8.bytes
    match d with
    | .forward => bytes
    | .backward => bytes.reverse
  state + wordTree (ws.foldl (fun n w => max n w.length) 0) ws

/-! ### Patterns -/

/-- The bytes of a repetition of a pattern of the given weight. -/
def manyWeight (least : Nat) (most : Option Nat) (consumes : Bool) (weight : Nat) : Nat :=
  let fork := state + 2 * branch
  match least, most with
  | 0, some 1 => fork + weight + state
  | 0, none => if consumes then fork + weight else 2 * fork + weight + state
  | least, none => least * weight + fork
  | least, some most =>
    let exactly := if least = 0 then state else least * weight
    if least = most then exactly else exactly + state + (most - least) * (fork + weight)

/-- The bytes of a pattern. A choice has a state before and one after its branches. -/
def weight (d : Direction) : Pattern → Nat
  | .empty => state
  | .literal cs => state * total (cs.map Char.utf8Size)
  | .words ws => wordsWeight d ws
  | .one s => setWeight d s
  | .look _ => state
  | .group _ p => (if d = .forward then 2 * state else 0) + p.weight d
  | .seq p q => p.weight d + q.weight d
  | .alt p q =>
    let last := match q with
      | .alt _ _ => 0
      | _ => 2 * state + branch
    branch + p.weight d + last + q.weight d
  | .many least most p => manyWeight least most (0 < p.minLength?.getD 0) (p.weight d)

/-- Whether every match begins at the beginning of the text, as the parts that match no character say
before the first that does. -/
def startsText : Pattern → Bool
  | .look l => l = .textStart
  | .group _ p => p.startsText
  | .seq p q => p.startsText || (q.startsText && p.maxLength? = some 0)
  | .alt p q => p.startsText && q.startsText
  | .many least _ p => 0 < least && p.startsText
  | _ => false

/-- Whether every match ends at the end of the text, as the parts that match no character say after the
last that does. -/
def endsText : Pattern → Bool
  | .look l => l = .textEnd
  | .group _ p => p.endsText
  | .seq p q => q.endsText || (p.endsText && q.maxLength? = some 0)
  | .alt p q => p.endsText && q.endsText
  | .many least _ p => 0 < least && p.endsText
  | _ => false

/-- The bytes of what reads the text outside of a match, which is not needed on the side on which all
matches are at the end. -/
def skipWeight (fixed : Bool) : Nat :=
  if fixed then state else 3 * state + label + 2 * branch

/-- The bytes of the automaton for a direction. Forward, the whole match is remembered as a group is. -/
def fullWeight (p : Pattern) : Direction → Nat
  | .forward => skipWeight p.startsText + 2 * state + p.weight .forward + state
  | .backward => skipWeight p.endsText + p.weight .backward + state

/-- Whether the pattern keeps to the limit. -/
def fits (p : Pattern) : Bool :=
  p.fullWeight .forward ≤ weightLimit && p.fullWeight .backward ≤ weightLimit

end SearchPlan.Pattern
