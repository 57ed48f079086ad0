import SearchPlan.Pattern
import SearchPlan.Pattern.Reader.Property
import SearchPlan.Text.Number

/-! Reading the smallest pieces of a regular expression: a character, plain or after a backslash, or the
name of a set or a place. Each reader takes the rest of the text and gives what it read with what is
left, or nothing where the text is not an expression. -/

namespace SearchPlan.Pattern.Reader

/-- The settings that `(?flags)` changes, from there to the end of the group. -/
structure Flags where
  ignoreCase : Bool := false
  multiLine : Bool := false
  dotAll : Bool := false
  verbose : Bool := false
  crlf : Bool := false
  unicode : Bool := true

/-- The remaining text when blanks and comments do not count. -/
def skipVerbose : (comment : Bool) → List Char → List Char
  | _, [] => []
  | true, c :: cs => skipVerbose (c ≠ '\n') cs
  | false, c :: cs =>
    if Text.isBlank c then skipVerbose false cs
    else if c = '#' then skipVerbose true cs
    else c :: cs

def skip (fl : Flags) (cs : List Char) : List Char := if fl.verbose then skipVerbose false cs else cs

/-- The characters of a kind at the beginning, between which others do not count, and what follows. -/
def spanSkipping (fl : Flags) (kind : Char → Bool) : Nat → List Char → List Char × List Char
  | fuel + 1, c :: cs =>
    if kind c then
      let (found, rest) := spanSkipping fl kind fuel (skip fl cs)
      (c :: found, rest)
    else ([], c :: cs)
  | _, cs => ([], cs)

/-- What stands for one character, or for a place. -/
inductive Token
  /-- With `byte`, written as two hexadecimal digits. -/
  | char : Char → (byte : Bool) → Token
  | set : CharSet → Token
  | look : Look → Token

def isMeta (c : Char) : Bool := c ∈ "\\.+*?()|[]\x7b\x7d^$#&-~".toList

/-- Whether a backslash before `c` may be left out. -/
def isEscapable (c : Char) : Bool :=
  isMeta c || (c.toNat < 128 && !c.isAlphanum && c ≠ '<' && c ≠ '>')

def Flags.wordKind (fl : Flags) : WordKind := if fl.unicode then .unicode else .ascii

def lineStart (fl : Flags) : Look := if fl.multiLine then .lineStart fl.crlf else .textStart

def lineEnd (fl : Flags) : Look := if fl.multiLine then .lineEnd fl.crlf else .textEnd

/-- A negated set. Without Unicode there is none, since bytes that are no characters would be in it. -/
def negated? (fl : Flags) (s : CharSet) : Option CharSet := if fl.unicode then some s.compl else none

/-- The set, closed under case where case is ignored. -/
def caseClosed (fl : Flags) (s : CharSet) : CharSet :=
  if !fl.ignoreCase then s else if fl.unicode then s.folded else s.foldedAscii

/-- The set of a property, whose name is a letter or stands in braces. Without Unicode there is none. -/
def property? (fl : Flags) (negated : Bool) (cs : List Char) : Option (CharSet × List Char) := do
  let (s, negated, cs) ← match skip fl cs with
    | [] => none
    | '\x7b' :: cs =>
      match spanSkipping fl (· ≠ '\x7d') cs.length (skip fl cs) with
      | (name, _ :: rest) => do
        let (s, other) ← bracedSet? name
        some (s, negated != other, rest)
      | _ => none
    | c :: rest => (namedSet? [c]).map fun s => (s, negated, rest)
  if !fl.unicode then none
  else
    let s := caseClosed fl s
    return (if negated then s.compl else s, cs)

def digitSet (fl : Flags) : CharSet := if fl.unicode then .digit else .asciiDigit

def blankSet (fl : Flags) : CharSet := if fl.unicode then .blank else .asciiBlank

def wordSet (fl : Flags) : CharSet := if fl.unicode then .word else .asciiWord

def charOf? (n : Nat) : Option Char := if n.isValidChar then some (Char.ofNat n) else none

/-- A number of `count` hexadecimal digits. -/
def hexDigits? (fl : Flags) : (count value : Nat) → List Char → Option (Nat × List Char)
  | 0, value, cs => some (value, cs)
  | n + 1, value, cs =>
    match skip fl cs with
    | [] => none
    | c :: cs => do hexDigits? fl n (value * 16 + (← Text.hexValue? c)) cs

/-- Hexadecimal digits up to a closing brace; `read` says whether there has been one. -/
def hexBraced? (fl : Flags) : Nat → (read : Bool) → (value : Nat) → List Char → Option (Nat × List Char)
  | 0, _, _, _ => none
  | fuel + 1, read, value, cs =>
    match skip fl cs with
    | [] => none
    | c :: cs =>
      if c = '\x7d' then if read then some (value, cs) else none
      else do hexBraced? fl fuel true (value * 16 + (← Text.hexValue? c)) cs

/-- The character whose code point is written after `\x`, `\u` or `\U`. -/
def hexChar? (fl : Flags) (count : Nat) (cs : List Char) : Option (Token × List Char) :=
  match skip fl cs with
  | '\x7b' :: cs => do
    let (n, cs) ← hexBraced? fl (cs.length + 1) false 0 cs
    return (.char (← charOf? n) false, cs)
  | cs => do
    let (n, cs) ← hexDigits? fl count 0 cs
    return (.char (← charOf? n) (count = 2), cs)

def isPlaceName (c : Char) : Bool := c.isAlpha || c = '-'

/-- The name in `\b{name}` with what follows it. -/
def wordPlace? (fl : Flags) (cs : List Char) : Option (Look × List Char) :=
  match spanSkipping fl isPlaceName cs.length cs with
  | (name, '\x7d' :: rest) =>
    match String.ofList name with
    | "start" => some (.wordStart fl.wordKind, rest)
    | "end" => some (.wordEnd fl.wordKind, rest)
    | "start-half" => some (.noWordBefore fl.wordKind, rest)
    | "end-half" => some (.noWordAfter fl.wordKind, rest)
    | _ => none
  | _ => none

/-- What a backslash with the characters after it stands for. After `\b` a brace without a letter behind
it begins no name. -/
def escape? (fl : Flags) : List Char → Option (Token × List Char)
  | [] => none
  | c :: cs =>
    if isEscapable c then some (.char c false, cs)
    else
      match c with
      | 'd' => some (.set (digitSet fl), cs)
      | 's' => some (.set (blankSet fl), cs)
      | 'w' => some (.set (wordSet fl), cs)
      | 'D' => do return (.set (← negated? fl (digitSet fl)), cs)
      | 'S' => do return (.set (← negated? fl (blankSet fl)), cs)
      | 'W' => do return (.set (← negated? fl (wordSet fl)), cs)
      | 'p' => (property? fl false cs).map fun (s, rest) => (.set s, rest)
      | 'P' => (property? fl true cs).map fun (s, rest) => (.set s, rest)
      | 'x' => hexChar? fl 2 cs
      | 'u' => hexChar? fl 4 cs
      | 'U' => hexChar? fl 8 cs
      | 'a' => some (.char '\x07' false, cs)
      | 'f' => some (.char '\x0c' false, cs)
      | 'n' => some (.char '\n' false, cs)
      | 'r' => some (.char '\r' false, cs)
      | 't' => some (.char '\t' false, cs)
      | 'v' => some (.char '\x0b' false, cs)
      | 'A' => some (.look .textStart, cs)
      | 'z' => some (.look .textEnd, cs)
      | '<' => some (.look (.wordStart fl.wordKind), cs)
      | '>' => some (.look (.wordEnd fl.wordKind), cs)
      | 'B' => some (.look (.noWordEdge fl.wordKind), cs)
      | 'b' =>
        match cs with
        | '\x7b' :: inner =>
          match skip fl inner with
          | [] => none
          | c :: name =>
            if isPlaceName c then (wordPlace? fl (c :: name)).map fun (l, rest) => (.look l, rest)
            else some (.look (.wordEdge fl.wordKind), cs)
        | _ => some (.look (.wordEdge fl.wordKind), cs)
      | _ => none

/-- A token outside brackets. Without Unicode a byte has to be a character by itself, and only ASCII
letters have another case. -/
def Token.pattern? (fl : Flags) : Token → Option Pattern
  | .char c byte =>
    if !fl.unicode && byte && 128 ≤ c.toNat then none else some (ofSet (caseClosed fl (.ofChar c)))
  | .set s => some (ofSet s)
  | .look l => some (.look l)

def dot? (fl : Flags) : Option Pattern :=
  if !fl.unicode then none
  else if fl.dotAll then some (.one .any)
  else if fl.crlf then some (.one (CharSet.ofChars ['\n', '\r']).compl)
  else some (.one (CharSet.ofChar '\n').compl)

end SearchPlan.Pattern.Reader
