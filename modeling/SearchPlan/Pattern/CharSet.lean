import SearchPlan.Text.Blank
import SearchPlan.Text.Category
import SearchPlan.Text.Folding
import SearchPlan.Text.Word

/-! Sets of characters, the operations on them, and those that patterns can name. A set is kept as
ascending ranges of code points that neither meet nor touch, so that equal sets are written alike. -/

namespace SearchPlan

/-- A set of code points: the ends of its ranges, both of which belong to it. -/
structure CharSet where
  ranges : List (Nat × Nat)
  deriving DecidableEq

namespace CharSet

def lastCode : Nat := 0x10ffff

/-- Whether a code point is in one of the ranges, which ascend. -/
def inAscending (n : Nat) : List (Nat × Nat) → Bool
  | [] => false
  | (lo, hi) :: rest => if n < lo then false else n ≤ hi || inAscending n rest

def has (s : CharSet) (n : Nat) : Bool := inAscending n s.ranges

/-- Ranges in the order of their beginnings, with those that meet or touch made one. -/
def join : List (Nat × Nat) → List (Nat × Nat)
  | [] => []
  | [r] => [r]
  | (a, b) :: (c, d) :: rest =>
    if c ≤ b + 1 then join ((a, max b d) :: rest) else (a, b) :: join ((c, d) :: rest)
termination_by rs => rs.length

/-- The set of all that is in one of the ranges, whatever their order. -/
def ofRanges (rs : List (Nat × Nat)) : CharSet :=
  ⟨join (rs.mergeSort fun r s => r.1 ≤ s.1)⟩

def none : CharSet := ⟨[]⟩

def ofChar (c : Char) : CharSet := ⟨[(c.toNat, c.toNat)]⟩

def ofRange (lo hi : Char) : CharSet := ⟨[(lo.toNat, hi.toNat)]⟩

def ofChars (cs : List Char) : CharSet := ofRanges (cs.map fun c => (c.toNat, c.toNat))

def union (a b : CharSet) : CharSet := ofRanges (a.ranges ++ b.ranges)

/-- What lies between the ranges from `start` on, and after them. -/
def gaps (start : Nat) : List (Nat × Nat) → List (Nat × Nat)
  | [] => if start ≤ lastCode then [(start, lastCode)] else []
  | (lo, hi) :: rest => if start < lo then (start, lo - 1) :: gaps (hi + 1) rest else gaps (hi + 1) rest

def compl (a : CharSet) : CharSet := ⟨gaps 0 a.ranges⟩

def inter (a b : CharSet) : CharSet := (a.compl.union b.compl).compl

def diff (a b : CharSet) : CharSet := a.inter b.compl

def symmDiff (a b : CharSet) : CharSet := (a.union b).diff (a.inter b)

def isEmpty (a : CharSet) : Bool := a.ranges.isEmpty

def isAscii (a : CharSet) : Bool := a.ranges.all fun (_, hi) => hi < 128

/-- The member of a set that has only one. -/
def single? (a : CharSet) : Option Char :=
  match a.ranges with
  | [(lo, hi)] => if lo = hi then some (Char.ofNat lo) else Option.none
  | _ => Option.none

/-- The members of the set among the first of each pair give the second. -/
def images (a : CharSet) (pairs : List (Nat × Nat)) : CharSet :=
  ofRanges ((pairs.filter fun (n, _) => a.has n).map fun (_, m) => (m, m))

/-- The set with all that differs from its members only in case: what they fold to, and then what
folds to the same. -/
def folded (a : CharSet) : CharSet :=
  let a := a.union (a.images Text.foldings)
  a.union (a.images (Text.foldings.map Prod.swap))

/-- The letters from `A` to `Z`, each with its other case. -/
def asciiFoldings : List (Nat × Nat) := (List.range 26).map fun k => (65 + k, 97 + k)

/-- The set with the other case of its letters from `a` to `z`. -/
def foldedAscii (a : CharSet) : CharSet :=
  (a.union (a.images asciiFoldings)).union (a.images (asciiFoldings.map Prod.swap))

def any : CharSet := ⟨[(0, lastCode)]⟩

def digit : CharSet := ⟨Text.Category.decimalNumber.ranges⟩

def blank : CharSet := ⟨Text.blankRanges⟩

def word : CharSet := ⟨Text.wordRanges⟩

def asciiDigit : CharSet := ofRange '0' '9'

def asciiBlank : CharSet := ofRanges [(9, 13), (32, 32)]

def asciiUpper : CharSet := ofRange 'A' 'Z'

def asciiLower : CharSet := ofRange 'a' 'z'

def asciiAlpha : CharSet := union asciiUpper asciiLower

def asciiAlnum : CharSet := union asciiAlpha asciiDigit

def asciiWord : CharSet := union asciiAlnum (ofChar '_')

def asciiGraph : CharSet := ofRange '!' '~'

/-- The sets that are written `[:name:]` within brackets. -/
def ascii? : String → Option CharSet
  | "alnum" => some asciiAlnum
  | "alpha" => some asciiAlpha
  | "ascii" => some ⟨[(0, 127)]⟩
  | "blank" => some (ofChars ['\t', ' '])
  | "cntrl" => some (ofRanges [(0, 31), (127, 127)])
  | "digit" => some asciiDigit
  | "graph" => some asciiGraph
  | "lower" => some asciiLower
  | "print" => some (ofRange ' ' '~')
  | "punct" => some (diff asciiGraph asciiAlnum)
  | "space" => some asciiBlank
  | "upper" => some asciiUpper
  | "word" => some asciiWord
  | "xdigit" => some (union asciiDigit (union (ofRange 'A' 'F') (ofRange 'a' 'f')))
  | _ => Option.none

end CharSet

end SearchPlan
