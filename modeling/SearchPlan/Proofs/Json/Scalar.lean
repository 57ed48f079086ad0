import Mathlib.Data.List.TakeDrop
import SearchPlan.Json.Reader
import SearchPlan.Json.Writer

/-! The texts of words, strings and integers are read as these, whatever else follows. -/

namespace SearchPlan.Json.Reader

variable {fuel n : Nat} {c : Char} {ds rest text blanks : List Char} {v : Json}

def Blank (cs : List Char) : Prop := ∀ c ∈ cs, isBlank c = true

theorem blank_nil : Blank [] := nofun

theorem skipBlanks_append (h : Blank blanks) (cs : List Char) :
    skipBlanks (blanks ++ cs) = skipBlanks cs :=
  List.dropWhile_append_of_pos h

theorem skipBlanks_cons (h : isBlank c = false) (cs : List Char) : skipBlanks (c :: cs) = c :: cs :=
  List.dropWhile_cons_of_neg (Bool.not_eq_true _ ▸ h)

/-- No text that would go on with a number. -/
def Ends (rest : List Char) : Prop :=
  ∀ c ∈ rest.head?, c.isDigit = false ∧ c ≠ '.' ∧ c ≠ 'e' ∧ c ≠ 'E'

theorem ends_nil : Ends [] := nofun

theorem ends_cons (h : c.isDigit = false ∧ c ≠ '.' ∧ c ≠ 'e' ∧ c ≠ 'E') : Ends (c :: rest) := by
  rintro _ ⟨⟩
  exact h

theorem ends_blank (hblanks : Blank blanks) (h : Ends rest) : Ends (blanks ++ rest) := by
  cases blanks with
  | nil => exact h
  | cons c cs =>
    have hc := hblanks c List.mem_cons_self
    simp only [isBlank, Bool.or_eq_true, decide_eq_true_eq] at hc
    refine ends_cons ?_
    rcases hc with ((rfl | rfl) | rfl) | rfl <;> decide

/-- The text is read as the value, and what follows it is left, by no more calls than the text has
characters. -/
def Spells (text : List Char) (v : Json) : Prop :=
  ∀ fuel rest, text.length ≤ fuel → Ends rest → value? fuel (text ++ rest) = some (v, rest)

theorem spells_of_succ (hne : text ≠ []) (h : ∀ fuel rest, text.length ≤ fuel + 1 → Ends rest →
    value? (fuel + 1) (text ++ rest) = some (v, rest)) : Spells text v := by
  intro fuel rest hfuel hrest
  cases fuel with
  | zero => exact absurd (List.eq_nil_of_length_eq_zero (Nat.le_zero.1 hfuel)) hne
  | succ fuel => exact h fuel rest hfuel hrest

theorem hexValue?_digitChar : ∀ n < 16, Text.hexValue? (Nat.digitChar n) = some n := by decide

theorem unit?_control (h : n < 32) (rest : List Char) :
    unit? ('0' :: '0' :: Nat.digitChar (n / 16) :: Nat.digitChar (n % 16) :: rest) =
      some (n, rest) := by
  have hvalue : ((0 * 16 + 0) * 16 + n / 16) * 16 + n % 16 = n := by omega
  rw [unit?, hexValue?_digitChar (n / 16) (by omega), hexValue?_digitChar (n % 16) (by omega)]
  exact congrArg (fun n => some (n, rest)) hvalue

theorem escapedUnit?_control (h : c.toNat < 32) (rest : List Char) :
    escapedUnit?
        ('0' :: '0' :: Nat.digitChar (c.toNat / 16) :: Nat.digitChar (c.toNat % 16) :: rest) =
      some (c, rest) := by
  have hhigh : isHigh c.toNat = false := by
    rw [isHigh, decide_eq_false (by omega), Bool.false_and]
  have hlow : isLow c.toNat = false := by
    rw [isLow, decide_eq_false (by omega), Bool.false_and]
  rw [escapedUnit?, unit?_control h]
  simp [hhigh, hlow]

theorem chars?_escapeChar (c : Char) (fuel : Nat) (read cs : List Char) :
    chars? (fuel + 1) read (escapeChar c ++ cs) = chars? fuel (c :: read) cs := by
  unfold escapeChar
  split
  case h_8 hquote hbackslash _ _ _ _ _ =>
    split
    case isTrue h =>
      rw [List.cons_append, chars?, if_neg (by decide), if_pos rfl]
      simp only [List.cons_append, List.nil_append, escaped?, escapedUnit?_control h]
    case isFalse h =>
      rw [List.cons_append, chars?, if_neg hquote, if_neg hbackslash, if_neg h, List.nil_append]
  all_goals rfl

theorem escapeChar_ne_nil (c : Char) : escapeChar c ≠ [] := by
  unfold escapeChar
  split
  case h_8 => split <;> nofun
  all_goals nofun

theorem chars?_flatMap {s read : List Char} (h : (s.flatMap escapeChar).length < fuel)
    (rest : List Char) :
    chars? fuel read (s.flatMap escapeChar ++ '"' :: rest) = some (read.reverse ++ s, rest) := by
  induction s generalizing fuel read with
  | nil =>
    obtain ⟨fuel, rfl⟩ := Nat.exists_eq_succ_of_ne_zero (Nat.ne_zero_of_lt h)
    simp [chars?]
  | cons c s ih =>
    obtain ⟨fuel, rfl⟩ := Nat.exists_eq_succ_of_ne_zero (Nat.ne_zero_of_lt h)
    -- A character takes one call, however long the escape that it is written with.
    have hlength := List.length_pos_iff.2 (escapeChar_ne_nil c)
    rw [List.flatMap_cons, List.length_append] at h
    rw [List.flatMap_cons, List.append_assoc, chars?_escapeChar, ih (by omega), List.reverse_cons,
      List.append_assoc, List.singleton_append]

theorem toList_quote (s : String) :
    (quote s).toList = '"' :: (s.toList.flatMap escapeChar ++ ['"']) := by
  rw [quote, String.toList_ofList, List.cons_append]

theorem string?_quote {s : String} (h : (s.toList.flatMap escapeChar).length < fuel)
    (rest : List Char) :
    string? fuel (s.toList.flatMap escapeChar ++ '"' :: rest) = some (s, rest) := by
  rw [string?, chars?_flatMap h, List.reverse_nil, List.nil_append]
  exact congrArg (fun s => some (s, rest)) String.ofList_toList

theorem value?_quote (fuel : Nat) (cs : List Char) :
    value? (fuel + 1) ('"' :: cs) = (string? fuel cs).map fun (s, rest) => (.string s, rest) := by
  rw [value?, skipBlanks_cons rfl]
  rfl

theorem spells_string (s : String) : Spells (quote s).toList (.string s) := by
  rw [toList_quote]
  refine spells_of_succ nofun fun fuel rest hfuel _ => ?_
  rw [List.length_cons, List.length_append, List.length_singleton] at hfuel
  rw [List.cons_append, List.append_assoc, List.singleton_append, value?_quote,
    string?_quote (by omega), Option.map_some]

theorem digits_append (hds : ∀ c ∈ ds, c.isDigit = true) (hrest : Ends rest) :
    digits (ds ++ rest) = (ds, rest) := by
  have hstop : ∀ c ∈ rest.head?, ¬c.isDigit = true := fun c hc => by rw [(hrest c hc).1]; nofun
  rw [digits, List.span_eq_takeWhile_dropWhile, List.takeWhile_append_of_pos hds,
    List.dropWhile_append_of_pos hds]
  cases rest with
  | nil => rw [List.takeWhile_nil, List.append_nil, List.dropWhile_nil]
  | cons c rest =>
    rw [List.takeWhile_cons_of_neg (hstop c rfl), List.append_nil,
      List.dropWhile_cons_of_neg (hstop c rfl)]

theorem whole?_toDigits (n : Nat) (hrest : Ends rest) :
    whole? (Nat.toDigits 10 n ++ rest) = some (Nat.toDigits 10 n, rest) := by
  rw [whole?, digits_append (fun c => Text.isDigit_of_mem_toDigits) hrest]
  split
  case h_1 h => exact absurd (congrArg Prod.fst h) Nat.toDigits_ne_nil
  case h_2 h =>
    have hds := (Prod.mk.inj h).1
    have hzero : (Nat.toDigits 10 n).head? = some '0' := by rw [hds, List.head?_cons]
    rw [Text.no_leading_zero hzero] at hds
    cases hds
  case h_3 => rfl

theorem fraction?_eq_self (h : Ends rest) : fraction? rest = some ([], rest) := by
  unfold fraction?
  split
  case h_1 => exact absurd rfl (h '.' rfl).2.1
  case h_2 => rfl

theorem exponent?_eq_self (h : Ends rest) : exponent? rest = some ([], rest) := by
  cases rest with
  | nil => rfl
  | cons c rest =>
    obtain ⟨-, -, he⟩ := h c rfl
    exact if_neg (not_or.2 he)

theorem head_toDigits (n : Nat) (rest : List Char) :
    ∃ c cs, Nat.toDigits 10 n ++ rest = c :: cs ∧ c.isDigit = true := by
  cases hds : Nat.toDigits 10 n with
  | nil => exact absurd hds Nat.toDigits_ne_nil
  | cons c ds => exact ⟨c, ds ++ rest, rfl, Text.isDigit_of_mem_toDigits (hds ▸ List.mem_cons_self)⟩

theorem number?_toDigits (n : Nat) (hrest : Ends rest) :
    number? (Nat.toDigits 10 n ++ rest) = some (.integer n, rest) := by
  unfold number?
  split
  rename_i negative cs hcs
  split at hcs
  case h_1 hminus =>
    obtain ⟨c, cs, hhead, hc⟩ := head_toDigits n rest
    rw [hhead] at hminus
    cases hminus
    cases hc
  case h_2 =>
    cases hcs
    simp [whole?_toDigits _ hrest, fraction?_eq_self hrest, exponent?_eq_self hrest,
      Text.decimalValue_toDigits]

theorem number?_negative (n : Nat) (hrest : Ends rest) :
    number? ('-' :: (Nat.toDigits 10 (n + 1) ++ rest)) = some (.integer (.negSucc n), rest) := by
  simp [number?, whole?_toDigits _ hrest, fraction?_eq_self hrest, exponent?_eq_self hrest,
    Text.decimalValue_toDigits, Int.negSucc_eq]

theorem value?_number (h : c.isDigit = true ∨ c = '-') (fuel : Nat) (cs : List Char) :
    value? (fuel + 1) (c :: cs) = number? (c :: cs) := by
  have hblank : isBlank c = false := by
    refine Bool.eq_false_iff.2 fun hblank => ?_
    simp only [isBlank, Bool.or_eq_true, decide_eq_true_eq] at hblank
    rcases hblank with ((rfl | rfl) | rfl) | rfl <;> revert h <;> decide
  rw [value?, skipBlanks_cons hblank]
  split
  case h_1 heq => cases heq
  case h_8 => rfl
  all_goals
    rename_i heq
    cases heq
    exact absurd h (by decide)

theorem spells_integer (n : Int) : Spells (toString n).toList (.integer n) := by
  cases n with
  | ofNat n =>
    have htext : (toString (Int.ofNat n)).toList = Nat.toDigits 10 n := Nat.toList_repr
    rw [htext]
    refine spells_of_succ Nat.toDigits_ne_nil fun fuel rest _ hrest => ?_
    obtain ⟨c, cs, hhead, hc⟩ := head_toDigits n rest
    rw [hhead, value?_number (.inl hc), ← hhead, number?_toDigits n hrest]
    rfl
  | negSucc n =>
    have htext : (toString (Int.negSucc n)).toList = '-' :: Nat.toDigits 10 (n + 1) := by
      change ("-" ++ Nat.repr (n + 1)).toList = _
      rw [String.toList_append, Nat.toList_repr]
      rfl
    rw [htext]
    refine spells_of_succ nofun fun fuel rest _ hrest => ?_
    rw [List.cons_append, value?_number (.inr rfl), number?_negative n hrest]

theorem spells_null : Spells "null".toList .null := spells_of_succ (by decide) fun _ _ _ _ => rfl

theorem spells_bool (b : Bool) : Spells (if b then "true" else "false").toList (.bool b) := by
  cases b with
  | false => exact spells_of_succ (by decide) fun _ _ _ _ => rfl
  | true => exact spells_of_succ (by decide) fun _ _ _ _ => rfl

end SearchPlan.Json.Reader
