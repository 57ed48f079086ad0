import SearchPlan.Pattern.CharSet

/-! Conditions on a place in a text, which look at the characters before and after it. At the ends of
the text there is none. -/

namespace SearchPlan

/-- The characters that count as parts of words. -/
inductive WordKind
  | unicode
  | ascii
  deriving DecidableEq

def WordKind.has (k : WordKind) : Option Char → Bool
  | some c =>
    match k with
    | .unicode => CharSet.word.has c.toNat
    | .ascii => CharSet.asciiWord.has c.toNat
  | none => false

inductive Look
  | textStart : Look
  | textEnd : Look
  /-- With `crlf` a carriage return ends a line as well, and nothing is between it and a line feed. -/
  | lineStart : (crlf : Bool) → Look
  | lineEnd : (crlf : Bool) → Look
  | wordEdge : WordKind → Look
  | noWordEdge : WordKind → Look
  | wordStart : WordKind → Look
  | wordEnd : WordKind → Look
  /-- No part of a word before the place, whatever is after it. -/
  | noWordBefore : WordKind → Look
  | noWordAfter : WordKind → Look
  deriving DecidableEq

/-- Whether the condition holds between two characters. -/
def Look.holds (before after : Option Char) : Look → Bool
  | .textStart => before.isNone
  | .textEnd => after.isNone
  | .lineStart false => before.isNone || before = some '\n'
  | .lineStart true =>
    before.isNone || before = some '\n' || (before = some '\r' && after ≠ some '\n')
  | .lineEnd false => after.isNone || after = some '\n'
  | .lineEnd true => after.isNone || after = some '\r' || (after = some '\n' && before ≠ some '\r')
  | .wordEdge k => k.has before != k.has after
  | .noWordEdge k => k.has before == k.has after
  | .wordStart k => !k.has before && k.has after
  | .wordEnd k => k.has before && !k.has after
  | .noWordBefore k => !k.has before
  | .noWordAfter k => !k.has after

end SearchPlan
