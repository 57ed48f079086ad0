import SearchPlan.Pattern.Reader.Brackets
import SearchPlan.Pattern.Moves
import SearchPlan.Pattern.Weight
import SearchPlan.Text.Alphabetic
import SearchPlan.Text.Numeric

/-! Reading the text of a regular expression. Look-around, references back to a group and atomic groups are
not part of the notation. What is nested too deep or too large when repetitions are written out is
refused. -/

namespace SearchPlan.Pattern.Reader

/-! ### Repetition -/

/-- A decimal number of 32 bits, with blanks around it. -/
def count? (fl : Flags) (cs : List Char) : Option (Nat × List Char) :=
  match spanSkipping fl Char.isDigit cs.length ((skip fl cs).dropWhile Text.isBlank) with
  | ([], _) => none
  | (ds, rest) =>
    let n := Text.decimalValue ds
    if n < UInt32.size then some (n, skip fl (rest.dropWhile Text.isBlank)) else none

/-- What follows the opening brace of a counted repetition. -/
def counts? (fl : Flags) (cs : List Char) : Option (Nat × Option Nat × List Char) := do
  let (least, cs) ← count? fl cs
  match cs with
  | '\x7d' :: cs => return (least, some least, cs)
  | ',' :: cs =>
    match skip fl cs with
    | '\x7d' :: cs => return (least, none, cs)
    | cs =>
      let (most, cs) ← count? fl cs
      match cs with
      | '\x7d' :: cs => if least ≤ most then return (least, some most, cs) else none
      | _ => none
  | _ => none

/-- What is left after the mark of a lazy repetition, if there is one. -/
def skipLazy : List Char → List Char
  | '?' :: cs => cs
  | cs => cs

/-! ### Groups -/

def setFlag? (fl : Flags) (value : Bool) : Char → Option Flags
  | 'i' => some { fl with ignoreCase := value }
  | 'm' => some { fl with multiLine := value }
  | 's' => some { fl with dotAll := value }
  | 'x' => some { fl with verbose := value }
  | 'R' => some { fl with crlf := value }
  | 'u' => some { fl with unicode := value }
  | 'U' => some fl
  | _ => none

/-- The flags up to a colon or a closing parenthesis, which stays. None may be given twice, and the
sign that clears those after it may not be the last. -/
def flags? (fl : Flags) (seen : List Char) : List Char → Option (Flags × List Char)
  | [] => none
  | c :: cs =>
    if c = ':' ∨ c = ')' then
      if seen.head? = some '-' then none else some (fl, c :: cs)
    else if c ∈ seen then none
    else if c = '-' then flags? fl (c :: seen) cs
    else
      match setFlag? fl ('-' ∉ seen) c with
      | some fl => flags? fl (c :: seen) cs
      | none => none

def isNameStart (c : Char) : Bool := c = '_' || Text.isAlphabetic c

def isNameRest (c : Char) : Bool :=
  isNameStart c || Text.isNumeric c || c ∈ ['.', '[', ']']

/-- The name of a group up to the closing angle, which is dropped. -/
def groupName? (cs : List Char) : Option (String × List Char) :=
  match cs.span (· ≠ '>') with
  | (c :: name, _ :: rest) =>
    if isNameStart c && name.all isNameRest then some (String.ofList (c :: name), rest) else none
  | _ => none

def isLookAround (cs : List Char) : Bool :=
  ["?=", "?!", "?<=", "?<!"].any fun start => start.toList.isPrefixOf cs

/-! ### Expressions -/

/-- A pattern and how deep it is written: groups, repetitions, brackets, choices and sequences of several
items are levels. -/
structure Part where
  pattern : Pattern
  depth : Nat := 0

/-- The deepest that may be written. -/
def depthLimit : Nat := 250

def deepest (ps : List Part) : Nat := ps.foldl (fun n p => max n p.depth) 0

/-- One after the other, latest first. An item that only changes flags is `none` and matches nothing
itself. -/
def sequence (items : List (Option Part)) : Part :=
  let ps := (items.filterMap id).reverse
  ⟨concat (ps.map (·.pattern)), if items.length < 2 then deepest ps else deepest ps + 1⟩

/-- One or the other, latest first. -/
def choose : List Part → Part
  | [p] => p
  | ps => ⟨choice (ps.reverse.map (·.pattern)), deepest ps + 1⟩

/-- The alternatives before the last one, and that one from its items. -/
def finish (before : List Part) (items : List (Option Part)) : Part :=
  choose (sequence items :: before)

/-- The items, latest first, with the last of them repeated. -/
def repeatLast? (least : Nat) (most : Option Nat) : List (Option Part) → Option (List (Option Part))
  | some p :: items => some (some ⟨repeated least most p.pattern, p.depth + 1⟩ :: items)
  | _ => none

/-- The names of the groups that have been opened so far, of those that have any. -/
abbrev Groups := List (Option String)

mutual

/-- An expression up to its end or the parenthesis that closes it. `before` are the alternatives before
the present one, `items` its parts, both latest first. -/
def expression? : Nat → Flags → Groups → (before : List Part) → (items : List (Option Part)) →
    List Char → Option (Part × Groups × List Char)
  | 0, _, _, _, _, _ => none
  | fuel + 1, fl, groups, before, items, cs =>
    match skip fl cs with
    | [] => some (finish before items, groups, [])
    | ')' :: cs => some (finish before items, groups, ')' :: cs)
    | '|' :: cs => expression? fuel fl groups (sequence items :: before) [] cs
    | '(' :: cs => group? fuel fl groups before items (skip fl cs)
    | '[' :: cs => do
      let (s, cs) ← brackets? fl fuel cs
      expression? fuel fl groups before (some ⟨ofSet s.set, s.depth⟩ :: items) cs
    | '*' :: cs => do expression? fuel fl groups before (← repeatLast? 0 none items) (skipLazy cs)
    | '+' :: cs => do expression? fuel fl groups before (← repeatLast? 1 none items) (skipLazy cs)
    | '?' :: cs => do expression? fuel fl groups before (← repeatLast? 0 (some 1) items) (skipLazy cs)
    | '\x7b' :: cs => do
      let (least, most, cs) ← counts? fl cs
      expression? fuel fl groups before (← repeatLast? least most items) (skipLazy (skip fl cs))
    | '.' :: cs => do expression? fuel fl groups before (some ⟨← dot? fl, 0⟩ :: items) cs
    | '^' :: cs => expression? fuel fl groups before (some ⟨.look (lineStart fl), 0⟩ :: items) cs
    | '$' :: cs => expression? fuel fl groups before (some ⟨.look (lineEnd fl), 0⟩ :: items) cs
    | '\\' :: cs => do
      let (token, cs) ← escape? fl cs
      expression? fuel fl groups before (some ⟨← token.pattern? fl, 0⟩ :: items) cs
    | c :: cs => do
      expression? fuel fl groups before (some ⟨← (Token.char c false).pattern? fl, 0⟩ :: items) cs

/-- What follows an opening parenthesis, and the expression after it. -/
def group? : Nat → Flags → Groups → List Part → List (Option Part) → List Char →
    Option (Part × Groups × List Char)
  | 0, _, _, _, _, _ => none
  | fuel + 1, fl, groups, before, items, cs => do
    let within (inner : Flags) (groups : Groups) (wrap : Pattern → Pattern) (cs : List Char) :
        Option (Part × Groups × List Char) := do
      match ← expression? fuel inner groups [] [] cs with
      | (p, groups, ')' :: cs) =>
        expression? fuel fl groups before (some ⟨wrap p.pattern, p.depth + 1⟩ :: items) cs
      | _ => none
    let named (cs : List Char) : Option (Part × Groups × List Char) := do
      let (name, cs) ← groupName? cs
      if some name ∈ groups then none
      else within fl (some name :: groups) (.group groups.length) cs
    if isLookAround cs then none
    else match cs with
      | '?' :: 'P' :: '<' :: cs => named cs
      | '?' :: '<' :: cs => named cs
      | '?' :: cs =>
        match ← flags? fl [] cs with
        | (inner, ':' :: rest) => within inner groups id rest
        | (changed, ')' :: rest) =>
          if cs.head? = some ')' then none
          else expression? fuel changed groups before (none :: items) rest
        | _ => none
      | cs => within fl (none :: groups) (.group groups.length) cs

end

/-- The pattern that a whole text stands for. -/
def read? (text : String) : Option Pattern :=
  let cs := text.toList
  match expression? (2 * cs.length + 2) {} [] [] [] cs with
  | some (p, _, []) => if p.depth ≤ depthLimit && p.pattern.fits then some p.pattern else none
  | _ => none

end SearchPlan.Pattern.Reader

namespace SearchPlan

/-- The test whether a text contains a match of the expression, if it is one. -/
def Pattern.compile? (text : String) : Option (String → Bool) :=
  (Pattern.Reader.read? text).map Pattern.matchesIn

end SearchPlan
