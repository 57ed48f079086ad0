import SearchPlan.Pattern.Reader.Token

/-! Reading a set in brackets. Beside the set, its reader gives how deep brackets, operators and lists
of items stand within each other. -/

namespace SearchPlan.Pattern.Reader

/-- A set and how deep it is written. -/
structure Nested where
  set : CharSet
  depth : Nat := 0

/-- What has been read of a list of items. -/
structure Items where
  set : CharSet := .none
  count : Nat := 0
  depth : Nat := 0

def Items.add (items : Items) (s : Nested) : Items :=
  ⟨items.set.union s.set, items.count + 1, max items.depth s.depth⟩

/-- A list of several items is a level of its own. -/
def Items.nested (items : Items) : Nested :=
  ⟨items.set, if 1 < items.count then items.depth + 1 else items.depth⟩

/-- A set by name, and whether it is negated: `[:name:]` or `[:^name:]`, from the colon on. What is no name
is no error here. -/
def asciiSet? : List Char → Option (CharSet × Bool × List Char)
  | ':' :: cs =>
    let (negated, cs) := match cs with
      | '^' :: cs => (true, cs)
      | cs => (false, cs)
    match cs.span (· ≠ ':') with
    | (name, ':' :: ']' :: rest) =>
      (CharSet.ascii? (String.ofList name)).map fun s => (s, negated, rest)
    | _ => none
  | _ => none

def bracketToken? (fl : Flags) : List Char → Option (Token × List Char)
  | [] => none
  | '\\' :: cs => escape? fl cs
  | c :: cs => some (.char c false, cs)

/-- A character that may stand in brackets: without Unicode only one of ASCII. -/
def bracketChar? (fl : Flags) : Token → Option Char
  | .char c _ => if fl.unicode || c.toNat < 128 then some c else none
  | _ => none

def Token.set? (fl : Flags) : Token → Option CharSet
  | .set s => some s
  | t => (bracketChar? fl t).map .ofChar

/-- A character, a set, or a range of characters. A hyphen before the end of the brackets or before
another hyphen makes no range. -/
def bracketItem? (fl : Flags) (cs : List Char) : Option (CharSet × List Char) := do
  let (first, cs) ← bracketToken? fl cs
  let single := (first.set? fl).map fun s => (s, skip fl cs)
  match skip fl cs with
  | [] => none
  | '-' :: rest =>
    match skip fl rest with
    | [] => none
    | ']' :: _ => single
    | '-' :: _ => single
    | rest =>
      let (last, rest) ← bracketToken? fl rest
      let lo ← bracketChar? fl first
      let hi ← bracketChar? fl last
      if lo ≤ hi then return (.ofRange lo hi, rest) else none
  | _ => single

/-- A set with an operator after it. -/
structure Pending where
  op : CharSet → CharSet → CharSet
  left : Nested

/-- The items as the right side of the operator before them, if there is one. -/
def Items.close (fl : Flags) (pending : Option Pending) (items : Items) : Nested :=
  let right := items.nested
  match pending with
  | none => right
  | some ⟨op, left⟩ =>
    ⟨op (caseClosed fl left.set) (caseClosed fl right.set), max left.depth right.depth + 1⟩

/-- Hyphens at the beginning of brackets, and then a closing bracket if nothing came before it, stand
for themselves. -/
def leading (fl : Flags) : Nat → Items → List Char → Items × List Char
  | fuel + 1, items, '-' :: cs => leading fl fuel (items.add ⟨.ofChar '-', 0⟩) (skip fl cs)
  | _, items, ']' :: cs =>
    if items.count = 0 then (items.add ⟨.ofChar ']', 0⟩, skip fl cs) else (items, ']' :: cs)
  | _, items, cs => (items, cs)

/-- The set under the flags, negated if a caret says so. -/
def finish? (fl : Flags) (negated : Bool) (s : CharSet) : Option CharSet :=
  let s := caseClosed fl s
  if negated then negated? fl s else some s

mutual

/-- Brackets whose opening one has been read. Operators are taken from left to right. -/
def brackets? (fl : Flags) : Nat → List Char → Option (Nested × List Char)
  | 0, _ => none
  | fuel + 1, cs => do
    let (negated, cs) := match skip fl cs with
      | '^' :: cs => (true, skip fl cs)
      | cs => (false, cs)
    let (items, cs) := leading fl cs.length {} cs
    let (inner, cs) ← bracketsRest? fl fuel none items cs
    return (⟨← finish? fl negated inner.set, inner.depth + 1⟩, cs)

/-- The rest of the brackets after an operator with its left side and the items on its right so far. -/
def bracketsRest? (fl : Flags) : Nat → Option Pending → Items → List Char →
    Option (Nested × List Char)
  | 0, _, _, _ => none
  | fuel + 1, pending, items, cs =>
    match skip fl cs with
    | [] => none
    | ']' :: cs => some (items.close fl pending, cs)
    | '[' :: cs =>
      match asciiSet? cs with
      | some (s, negated, cs) => do
        bracketsRest? fl fuel pending (items.add ⟨← finish? fl negated s, 0⟩) cs
      | none => do
        let (s, cs) ← brackets? fl fuel cs
        bracketsRest? fl fuel pending (items.add s) cs
    | '&' :: '&' :: cs => bracketsRest? fl fuel (some ⟨.inter, items.close fl pending⟩) {} cs
    | '-' :: '-' :: cs => bracketsRest? fl fuel (some ⟨.diff, items.close fl pending⟩) {} cs
    | '~' :: '~' :: cs => bracketsRest? fl fuel (some ⟨.symmDiff, items.close fl pending⟩) {} cs
    | cs => do
      let (s, cs) ← bracketItem? fl cs
      bracketsRest? fl fuel pending (items.add ⟨s, 0⟩) cs

end

end SearchPlan.Pattern.Reader
