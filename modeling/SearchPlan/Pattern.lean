import SearchPlan.Pattern.Look

/-! Regular expressions over characters, in the simplified form that the functions here build: a
sequence has no empty part, no part that is a sequence, and no two texts side by side; a choice has
no branch that is a choice, and is written `words` if its branches are texts. -/

namespace SearchPlan

inductive Pattern
  | empty : Pattern
  /-- Characters one after the other, at least one. -/
  | literal : List Char → Pattern
  /-- One of several texts. -/
  | words : List (List Char) → Pattern
  | one : CharSet → Pattern
  | look : Look → Pattern
  /-- A group that remembers what it matched, by its number. -/
  | group : Nat → Pattern → Pattern
  | seq : Pattern → Pattern → Pattern
  | alt : Pattern → Pattern → Pattern
  | many : (least : Nat) → (most : Option Nat) → Pattern → Pattern
  deriving DecidableEq

namespace Pattern

/-- The number of characters that every match has at least, if there can be a match. -/
def minLength? : Pattern → Option Nat
  | .empty => some 0
  | .literal cs => some cs.length
  | .words ws => (ws.map List.length).min?
  | .one s => if s.isEmpty then none else some 1
  | .look _ => some 0
  | .group _ p => p.minLength?
  | .seq p q => do return (← p.minLength?) + (← q.minLength?)
  | .alt p q => do return min (← p.minLength?) (← q.minLength?)
  | .many least _ p => do return least * (← p.minLength?)

/-- The number of characters that every match has at most, if there is such a number and there can be
a match. -/
def maxLength? : Pattern → Option Nat
  | .empty => some 0
  | .literal cs => some cs.length
  | .words ws => (ws.map List.length).max?
  | .one s => if s.isEmpty then none else some 1
  | .look _ => some 0
  | .group _ p => p.maxLength?
  | .seq p q => do return (← p.maxLength?) + (← q.maxLength?)
  | .alt p q => do return max (← p.maxLength?) (← q.maxLength?)
  | .many _ most p => do return (← most) * (← p.maxLength?)

/-- The parts of a sequence. -/
def parts : Pattern → List Pattern
  | .empty => []
  | .seq p q => p :: q.parts
  | p => [p]

/-- The branches of a choice. -/
def branches : Pattern → List Pattern
  | .words ws => ws.map .literal
  | .alt p q => p :: q.branches
  | p => [p]

def ofParts : List Pattern → Pattern
  | [] => .empty
  | [p] => p
  | p :: ps => .seq p (ofParts ps)

def ofBranches : List Pattern → Pattern
  | [] => .one .none
  | [p] => p
  | p :: ps => .alt p (ofBranches ps)

/-- A set with one member is a text. -/
def ofSet (s : CharSet) : Pattern :=
  match s.single? with
  | some c => .literal [c]
  | none => .one s

/-- A part before others, of which the first is continued if both are texts. -/
def glue : Pattern → List Pattern → List Pattern
  | .literal a, .literal b :: rest => .literal (a ++ b) :: rest
  | p, rest => p :: rest

/-- One after the other. -/
def concat (ps : List Pattern) : Pattern := ofParts ((ps.flatMap parts).foldr glue [])

def char? : Pattern → Option Char
  | .literal [c] => some c
  | _ => none

def literal? : Pattern → Option (List Char)
  | .literal cs => some cs
  | _ => none

def set? : Pattern → Option CharSet
  | .one s => some s
  | _ => none

/-- A choice between single characters, or between sets, is one from a set. -/
def choiceOfBranches (ps : List Pattern) : Pattern :=
  match ps with
  | [p] => p
  | ps =>
    match ps.mapM char? with
    | some cs => ofSet (.ofChars cs)
    | none =>
      match ps.mapM set? with
      | some sets => ofSet (sets.foldl .union .none)
      | none =>
        match ps.mapM literal? with
        | some ws => .words ws
        | none => ofBranches ps

/-- What two sequences have in common at their beginnings. -/
def commonParts : List Pattern → List Pattern → List Pattern
  | p :: ps, q :: qs => if p = q then p :: commonParts ps qs else []
  | _, _ => []

/-- The parts that all of the patterns begin with, if all are sequences. -/
def sharedParts : List Pattern → List Pattern
  | [] => []
  | [p] => if p.parts.length < 2 then [] else p.parts
  | p :: ps => if p.parts.length < 2 then [] else commonParts p.parts (sharedParts ps)

/-- One or the other. What all branches begin with is taken out before the choice. -/
def choice (ps : List Pattern) : Pattern :=
  let ps := ps.flatMap branches
  match ps with
  | [p] => p
  | _ =>
    match sharedParts ps with
    | [] => choiceOfBranches ps
    | shared =>
      let rests := ps.map fun p => concat (p.parts.drop shared.length)
      concat (shared ++ [choiceOfBranches (rests.flatMap branches)])

/-- The pattern `least` times or more, but not more than `most`. What matches no character at all is
not repeated. -/
def repeated (least : Nat) (most : Option Nat) (p : Pattern) : Pattern :=
  let (least, most) :=
    if p.maxLength? = some 0 then (min least 1, some (min (most.getD 1) 1)) else (least, most)
  if most = some 0 then .empty
  else if least = 1 ∧ most = some 1 then p
  else .many least most p

end Pattern

end SearchPlan
