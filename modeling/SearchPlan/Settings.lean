import SearchPlan.Duration
import SearchPlan.Error
import SearchPlan.Text.Blank
import SearchPlan.Text.Number
import SearchPlan.Text.Quoted

/-! The settings of a search and how they are read from an environment. -/

namespace SearchPlan

structure Settings where
  /-- How many batches wait for a reader before senders have to. -/
  resultBuffer : Nat := 256
  logPlan : Bool := true
  /-- A search that takes longer is reported as slow. -/
  slow : Duration := .ofSecs 5
  deriving DecidableEq

namespace Settings

/-- Why a text is not the value it should be. -/
inductive ValueError
  | empty
  | invalidDigit
  | tooLarge
  | notBool
  deriving DecidableEq

def ValueError.message : ValueError → String
  | .empty => "cannot parse integer from empty string"
  | .invalidDigit => "invalid digit found in string"
  | .tooLarge => "number too large to fit in target type"
  | .notBool => "provided string was not `true` or `false`"

/-- The value of decimal digits after those read so far. The first character that is no digit, or
the first digit with which the value exceeds 64 bits, ends it. -/
def digits? (value : Nat) : List Char → Except ValueError Nat
  | [] => .ok value
  | c :: cs =>
    if !c.isDigit then .error .invalidDigit
    else
      let next := value * 10 + Text.digitValue c
      if next < UInt64.size then digits? next cs else .error .tooLarge

/-- An integer of 64 bits without sign, before which one plus may stand. -/
def natOf? : List Char → Except ValueError Nat
  | [] => .error .empty
  | ['+'] => .error .invalidDigit
  | '+' :: cs => digits? 0 cs
  | cs => digits? 0 cs

def boolOf? (cs : List Char) : Except ValueError Bool :=
  if cs = "true".toList then .ok true
  else if cs = "false".toList then .ok false
  else .error .notBool

def bufferKey : String := "SEARCH_JOB_RESULT_BUFFER"

def logKey : String := "SEARCH_JOB_LOG_PLAN"

def slowKey : String := "SEARCH_JOB_SLOW_MS"

/-- The value of a variable, without the white space around it. The error quotes all of it. -/
def value? {α : Type} (parse : List Char → Except ValueError α) (key raw : String) :
    Except ConfigError α :=
  match parse (Text.trim raw.toList) with
  | .ok v => .ok v
  | .error e => .error (.invalidValue key s!"{Text.quoted raw}: {e.message}")

/-- The settings for an environment, in which a variable may be missing. -/
def ofEnv? (env : String → Option String) : Except ConfigError Settings := do
  let defaults : Settings := {}
  let resultBuffer ← match env bufferKey with
    | none => pure defaults.resultBuffer
    | some raw =>
      let n ← value? natOf? bufferKey raw
      if n = 0 then throw (.invalidValue bufferKey "must be greater than zero") else pure n
  let logPlan ← match env logKey with
    | none => pure defaults.logPlan
    | some raw => value? boolOf? logKey raw
  let slow ← match env slowKey with
    | none => pure defaults.slow
    | some raw => Duration.ofMillis <$> value? natOf? slowKey raw
  return { resultBuffer, logPlan, slow }

end Settings

end SearchPlan
