/-! JSON values. A number is kept as an integer where its literal is one; any other number keeps its
literal, because nothing here computes with it. -/

namespace SearchPlan

inductive Json
  | null
  | bool : Bool → Json
  | integer : Int → Json
  | fractional : (literal : String) → Json
  | string : String → Json
  | array : List Json → Json
  | object : List (String × Json) → Json

namespace Json

def ofNat (n : Nat) : Json := .integer n

def get? (key : String) : Json → Option Json
  | .object fields => fields.lookup key
  | _ => none

def string? : Json → Option String
  | .string s => some s
  | _ => none

def bool? : Json → Option Bool
  | .bool b => some b
  | _ => none

def nat? : Json → Option Nat
  | .integer (.ofNat n) => some n
  | _ => none

def array? : Json → Option (List Json)
  | .array vs => some vs
  | _ => none

/-- Sets the value of a key; the key keeps its place if it is there. -/
def insert (key : String) (value : Json) : List (String × Json) → List (String × Json)
  | [] => [(key, value)]
  | (k, v) :: fields =>
    if k = key then (k, value) :: fields else (k, v) :: insert key value fields

/-- The values of a record's fields in the order of `names`: by name from an object, where other
names are ignored and a field may be missing, or by position from an array of just that length. -/
def record? (names : List String) : Json → Option (List (Option Json))
  | .object fields => some (names.map fun name => fields.lookup name)
  | .array vs => if vs.length = names.length then some (vs.map some) else none
  | _ => none

/-- The name of a variant without content: a string, or an object with just that key and `null`. -/
def variant? : Json → Option String
  | .string s => some s
  | .object [(key, .null)] => some key
  | _ => none

/-- A value that may be missing or `null`. -/
def optional? {α : Type} (decode : Json → Option α) : Option Json → Option (Option α)
  | none => some none
  | some .null => some none
  | some v => (decode v).map some

end Json

end SearchPlan
