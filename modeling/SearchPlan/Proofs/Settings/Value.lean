import Mathlib.Algebra.GroupWithZero.Nat
import Mathlib.Data.List.TakeWhile
import SearchPlan.Settings

/-! What the text of a variable says: a number or a flag, with white space around it or without. -/

namespace SearchPlan

namespace Text

variable {c : Char} {core cs : List Char}

/-- A text with white space around it. -/
inductive Padded (core : List Char) : List Char → Prop
  | around (before after : List Char) :
      (∀ c ∈ before, isBlank c = true) → (∀ c ∈ after, isBlank c = true) →
        Padded core (before ++ (core ++ after))

end Text

namespace Settings

variable {α : Type} {parse : List Char → Except ValueError α} {Writes : List Char → α → Prop}
  {cs : List Char} {raw key : String} {v : α} {n value : Nat} {b : Bool} {e : ConfigError}

/-- Decimal digits, one or more, of a number of 64 bits. -/
structure Digits (ds : List Char) (n : Nat) : Prop where
  ne_nil : ds ≠ []
  digits : ∀ c ∈ ds, c.isDigit = true
  value : Text.decimalValue ds = n
  lt : n < 2 ^ 64

/-- Digits, before which one plus may stand. -/
inductive Numeral : List Char → Nat → Prop
  | digits {ds : List Char} {n : Nat} : Digits ds n → Numeral ds n
  | plus {ds : List Char} {n : Nat} : Digits ds n → Numeral ('+' :: ds) n

/-- The text of a variable says `v`, whatever white space is around it. -/
def Says (Writes : List Char → α → Prop) (raw : String) (v : α) : Prop :=
  ∃ core, Text.Padded core raw.toList ∧ Writes core v

theorem Numeral.lt (h : Numeral cs n) : n < 2 ^ 64 := by
  cases h with
  | digits h => exact h.lt
  | plus h => exact h.lt

end Settings

end SearchPlan
