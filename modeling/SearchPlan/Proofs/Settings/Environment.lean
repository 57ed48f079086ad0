import SearchPlan.Proofs.Settings.Value

/-! The settings that an environment comes to, and the variable for which one is refused. -/

namespace SearchPlan.Settings

/-- The variables that settings are read from. -/
inductive Variable
  | buffer
  | log
  | slow

namespace Variable

def key : Variable → String
  | .buffer => bufferKey
  | .log => logKey
  | .slow => slowKey

/-- In the order in which they are read. -/
def all : List Variable := [.buffer, .log, .slow]

end Variable

section

variable {α : Type} {read : String → Except ConfigError α} {Says : String → α → Prop}
  {key raw : String} {default v : α} {var : Option String} {e : ConfigError}

/-- What a text says is read, and of any other text the error names the variable. -/
structure Heeds (read : String → Except ConfigError α) (Says : String → α → Prop) (key : String) :
    Prop where
  ok_iff : ∀ {raw v}, read raw = .ok v ↔ Says raw v
  error : ∀ {raw e}, read raw = .error e → ∃ reason, e = .invalidValue key reason

end

variable {env : String → Option String} {s : Settings} {e : ConfigError}

namespace Spaced

def wide (key : String) : Option String :=
  [(bufferKey, "\t18446744073709551615\u2003"), (logKey, "false\n"), ("PATH", "/bin")].lookup key

end Spaced

end SearchPlan.Settings
