import SearchPlan.Json
import SearchPlan.Text.Number

/-! Reading the text of a JSON value. Of a key that is repeated in an object the last value counts. -/

namespace SearchPlan.Json.Reader

def isBlank (c : Char) : Bool := c = ' ' || c = '\t' || c = '\n' || c = '\r'

def skipBlanks (cs : List Char) : List Char := cs.dropWhile isBlank

/-- The value of four hexadecimal digits. -/
def unit? : List Char → Option (Nat × List Char)
  | a :: b :: c :: d :: rest => do
    let a ← Text.hexValue? a
    let b ← Text.hexValue? b
    let c ← Text.hexValue? c
    let d ← Text.hexValue? d
    return (((a * 16 + b) * 16 + c) * 16 + d, rest)
  | _ => none

def isHigh (u : Nat) : Bool := 0xD800 ≤ u && u < 0xDC00

def isLow (u : Nat) : Bool := 0xDC00 ≤ u && u < 0xE000

/-- The character after `\u`. A character beyond the first 65536 is written as a pair of units. -/
def escapedUnit? (cs : List Char) : Option (Char × List Char) := do
  let (u, rest) ← unit? cs
  if isHigh u then
    match rest with
    | '\\' :: 'u' :: rest =>
      let (l, rest) ← unit? rest
      if isLow l then return (Char.ofNat (0x10000 + (u - 0xD800) * 0x400 + (l - 0xDC00)), rest)
      else none
    | _ => none
  else if isLow u then none
  else return (Char.ofNat u, rest)

/-- The character after a backslash. -/
def escaped? : List Char → Option (Char × List Char)
  | '"' :: rest => some ('"', rest)
  | '\\' :: rest => some ('\\', rest)
  | '/' :: rest => some ('/', rest)
  | 'b' :: rest => some ('\x08', rest)
  | 'f' :: rest => some ('\x0c', rest)
  | 'n' :: rest => some ('\n', rest)
  | 'r' :: rest => some ('\r', rest)
  | 't' :: rest => some ('\t', rest)
  | 'u' :: rest => escapedUnit? rest
  | _ => none

/-- The characters up to the closing quote, before which `read` has come, latest first. -/
def chars? : Nat → (read : List Char) → List Char → Option (List Char × List Char)
  | 0, _, _ => none
  | _ + 1, _, [] => none
  | fuel + 1, read, c :: rest =>
    if c = '"' then some (read.reverse, rest)
    else if c = '\\' then
      match escaped? rest with
      | some (c, rest) => chars? fuel (c :: read) rest
      | none => none
    else if c.toNat < 32 then none
    else chars? fuel (c :: read) rest

/-- The rest of a string whose opening quote has been read. -/
def string? (fuel : Nat) (cs : List Char) : Option (String × List Char) :=
  (chars? fuel [] cs).map fun (s, rest) => (String.ofList s, rest)

def digits (cs : List Char) : List Char × List Char := cs.span Char.isDigit

/-- The digits before the point: a single zero or no zero in front. -/
def whole? (cs : List Char) : Option (List Char × List Char) :=
  match digits cs with
  | ([], _) => none
  | ('0' :: _ :: _, _) => none
  | ds => some ds

def fraction? : List Char → Option (List Char × List Char)
  | '.' :: cs =>
    match digits cs with
    | ([], _) => none
    | (ds, rest) => some ('.' :: ds, rest)
  | cs => some ([], cs)

def exponent? : List Char → Option (List Char × List Char)
  | [] => some ([], [])
  | e :: cs =>
    if e = 'e' ∨ e = 'E' then
      let (sign, cs) := match cs with
        | '+' :: cs => (['+'], cs)
        | '-' :: cs => (['-'], cs)
        | cs => ([], cs)
      match digits cs with
      | ([], _) => none
      | (ds, rest) => some (e :: sign ++ ds, rest)
    else some ([], e :: cs)

/-- A literal is an integer if it has neither fraction nor exponent and is not a negative zero. -/
def number? (cs : List Char) : Option (Json × List Char) := do
  let (negative, cs) := match cs with
    | '-' :: cs => (true, cs)
    | cs => (false, cs)
  let (ds, cs) ← whole? cs
  let (frac, cs) ← fraction? cs
  let (exp, cs) ← exponent? cs
  let sign := if negative then ['-'] else []
  if frac.isEmpty && exp.isEmpty && !(negative && Text.decimalValue ds = 0) then
    return (.integer (if negative then -(Text.decimalValue ds : Int) else Text.decimalValue ds), cs)
  else
    return (.fractional (String.ofList (sign ++ ds ++ frac ++ exp)), cs)

/-- What follows `word`, if the text starts with it. -/
def literal? (word : String) (v : Json) (cs : List Char) : Option (Json × List Char) :=
  if word.toList.isPrefixOf cs then some (v, cs.drop word.length) else none

mutual

def value? : Nat → List Char → Option (Json × List Char)
  | 0, _ => none
  | fuel + 1, cs =>
    match skipBlanks cs with
    | [] => none
    | '"' :: cs => (string? fuel cs).map fun (s, rest) => (.string s, rest)
    | '[' :: cs =>
      match skipBlanks cs with
      | ']' :: rest => some (.array [], rest)
      | cs => (elements? fuel [] cs).map fun (vs, rest) => (.array vs, rest)
    | '\x7b' :: cs =>
      match skipBlanks cs with
      | '\x7d' :: rest => some (.object [], rest)
      | cs => (members? fuel [] cs).map fun (ms, rest) => (.object ms, rest)
    | 'n' :: cs => literal? "ull" .null cs
    | 't' :: cs => literal? "rue" (.bool true) cs
    | 'f' :: cs => literal? "alse" (.bool false) cs
    | cs => number? cs

/-- The elements of an array up to its end, after those in `read`, latest first. -/
def elements? : Nat → (read : List Json) → List Char → Option (List Json × List Char)
  | 0, _, _ => none
  | fuel + 1, read, cs =>
    match value? fuel cs with
    | none => none
    | some (v, cs) =>
      match skipBlanks cs with
      | ',' :: cs => elements? fuel (v :: read) cs
      | ']' :: cs => some ((v :: read).reverse, cs)
      | _ => none

def members? : Nat → (read : List (String × Json)) → List Char →
    Option (List (String × Json) × List Char)
  | 0, _, _ => none
  | fuel + 1, read, cs =>
    match skipBlanks cs with
    | '"' :: cs =>
      match string? fuel cs with
      | none => none
      | some (key, cs) =>
        match skipBlanks cs with
        | ':' :: cs =>
          match value? fuel cs with
          | none => none
          | some (v, cs) =>
            let read := insert key v read
            match skipBlanks cs with
            | ',' :: cs => members? fuel read cs
            | '\x7d' :: cs => some (read, cs)
            | _ => none
        | _ => none
    | _ => none

end

/-- The value of a whole text. Reading takes at most two calls for a character. -/
def read? (text : String) : Option Json :=
  let cs := text.toList
  match value? (2 * cs.length + 1) cs with
  | some (v, rest) => if (skipBlanks rest).isEmpty then some v else none
  | none => none

end SearchPlan.Json.Reader
