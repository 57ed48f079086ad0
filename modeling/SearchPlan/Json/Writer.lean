import SearchPlan.Json

/-! The text of a JSON value, on one line or with a line for each element and field. -/

namespace SearchPlan.Json

/-- Quotes, backslashes and control characters are escaped, all else is written as it is. -/
def escapeChar (c : Char) : List Char :=
  match c with
  | '"' => ['\\', '"']
  | '\\' => ['\\', '\\']
  | '\x08' => ['\\', 'b']
  | '\x0c' => ['\\', 'f']
  | '\n' => ['\\', 'n']
  | '\r' => ['\\', 'r']
  | '\t' => ['\\', 't']
  | c =>
    if c.toNat < 32 then ['\\', 'u', '0', '0', Nat.digitChar (c.toNat / 16), Nat.digitChar (c.toNat % 16)]
    else [c]

def quote (s : String) : String :=
  String.ofList ('"' :: s.toList.flatMap escapeChar ++ ['"'])

mutual

def compact : Json → String
  | .null => "null"
  | .bool b => if b then "true" else "false"
  | .integer n => toString n
  | .fractional literal => literal
  | .string s => quote s
  | .array vs => "[" ++ ",".intercalate (compactAll vs) ++ "]"
  | .object fields => "\x7b" ++ ",".intercalate (compactFields fields) ++ "\x7d"

def compactAll : List Json → List String
  | [] => []
  | v :: vs => v.compact :: compactAll vs

def compactFields : List (String × Json) → List String
  | [] => []
  | (key, v) :: fields => (quote key ++ ":" ++ v.compact) :: compactFields fields

end

def indentation (depth : Nat) : String := "\n" ++ String.ofList (List.replicate (2 * depth) ' ')

/-- The parts of an array or object between its brackets, each on a line of its own. -/
def block (depth : Nat) (opening closing : String) (parts : List String) : String :=
  if parts.isEmpty then opening ++ closing
  else
    let inner := indentation (depth + 1)
    opening ++ inner ++ ("," ++ inner).intercalate parts ++ indentation depth ++ closing

mutual

def pretty (depth : Nat) : Json → String
  | .array vs => block depth "[" "]" (prettyAll (depth + 1) vs)
  | .object fields => block depth "\x7b" "\x7d" (prettyFields (depth + 1) fields)
  | .null => "null"
  | .bool b => if b then "true" else "false"
  | .integer n => toString n
  | .fractional literal => literal
  | .string s => quote s

def prettyAll (depth : Nat) : List Json → List String
  | [] => []
  | v :: vs => v.pretty depth :: prettyAll depth vs

def prettyFields (depth : Nat) : List (String × Json) → List String
  | [] => []
  | (key, v) :: fields => (quote key ++ ": " ++ v.pretty depth) :: prettyFields depth fields

end

end SearchPlan.Json
