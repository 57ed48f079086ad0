import SearchPlan.Proofs.Duration.Reading

/-! The terms that the text of a duration is made of. No zero in them is superfluous, below a second
there is only one of them, and the minutes and seconds after a larger unit stay below sixty. -/

namespace SearchPlan.Duration

inductive Scale
  | hour
  | minute
  | second
  | milli
  | micro
  | nano
  deriving DecidableEq

def Scale.chars : Scale → List Char
  | .hour => ['h']
  | .minute => ['m']
  | .second => ['s']
  | .milli => ['m', 's']
  | .micro => ['µ', 's']
  | .nano => ['n', 's']

/-- A decimal number of units. Without a fraction it has no point. -/
structure Term where
  whole : List Char
  fraction : List Char := []
  scale : Scale

namespace Term

def point : List Char → List Char
  | [] => []
  | digits => '.' :: digits

def chars (t : Term) : List Char := t.whole ++ (point t.fraction ++ t.scale.chars)

def ofNat (n : Nat) (scale : Scale) : Term := { whole := Nat.toDigits 10 n, scale }

/-- The number `value / 10 ^ width`. -/
def ofDecimal (value width : Nat) (scale : Scale) : Term where
  whole := Nat.toDigits 10 (value / 10 ^ width)
  fraction := Duration.fraction (value % 10 ^ width) width
  scale := scale

/-- Written with digits, and with no more of them than it takes. -/
structure Tidy (t : Term) : Prop where
  digits : ∀ c ∈ t.whole ++ t.fraction, c.isDigit = true
  whole_ne_nil : t.whole ≠ []
  no_leading_zero : t.whole.head? = some '0' → t.whole = ['0']
  no_trailing_zero : t.fraction.getLast? ≠ some '0'

end Term

variable {n value width : Nat} {scale : Scale}

theorem getLast_fraction_ne (part width : Nat) : (fraction part width).getLast? ≠ some '0' := by
  intro h
  rw [fraction, List.getLast?_reverse] at h
  have hstop := List.head?_dropWhile_not (· == '0') (padded part width).reverse
  rw [padded, h] at hstop
  cases hstop

namespace Term

theorem chars_ofNat (n : Nat) (scale : Scale) :
    (ofNat n scale).chars = Nat.toDigits 10 n ++ scale.chars := rfl

theorem chars_ofDecimal (value width : Nat) (scale : Scale) :
    (ofDecimal value width scale).chars = decimal value width ++ scale.chars := by
  simp only [chars, ofDecimal]
  cases hf : Duration.fraction (value % 10 ^ width) width with
  | nil => rw [decimal_whole hf, point, List.nil_append]
  | cons d ds =>
    rw [decimal_point hf, List.append_assoc]
    rfl

theorem tidy_ofNat (n : Nat) (scale : Scale) : (ofNat n scale).Tidy where
  digits c hc := Text.isDigit_of_mem_toDigits (by simpa [ofNat] using hc)
  whole_ne_nil := Nat.toDigits_ne_nil
  no_leading_zero := Text.no_leading_zero
  no_trailing_zero := nofun

theorem tidy_ofDecimal (value width : Nat) (scale : Scale) :
    (ofDecimal value width scale).Tidy where
  digits c hc := by
    rcases List.mem_append.1 hc with hc | hc
    · exact Text.isDigit_of_mem_toDigits hc
    · exact isDigit_of_mem_fraction hc
  whole_ne_nil := Nat.toDigits_ne_nil
  no_leading_zero := Text.no_leading_zero
  no_trailing_zero := getLast_fraction_ne _ _

end Term

/-- Hours and minutes are left out while they and all larger units are zero. -/
def clockTerms (d : Duration) : List Term :=
  let hours := d.secs / 3600
  let minutes := d.secs % 3600 / 60
  let seconds := Term.ofDecimal (d.secs % 60 * 1000000000 + d.subsec) 9 .second
  if hours = 0 then
    if minutes = 0 then [seconds] else [.ofNat minutes .minute, seconds]
  else [.ofNat hours .hour, .ofNat minutes .minute, seconds]

def terms (d : Duration) : List Term :=
  if d.nanos = 0 then [.ofNat 0 .second]
  else if d.nanos < 1000 then [.ofNat d.nanos .nano]
  else if d.nanos < 1000000 then [.ofDecimal d.nanos 3 .micro]
  else if d.nanos < 1000000000 then [.ofDecimal d.nanos 6 .milli]
  else d.clockTerms

theorem flatMap_clockTerms (d : Duration) : d.clockTerms.flatMap Term.chars = d.clockChars := by
  simp only [clockTerms, clockChars]
  split_ifs <;> simp [Term.chars_ofNat, Term.chars_ofDecimal, Scale.chars]

theorem flatMap_terms (d : Duration) : d.terms.flatMap Term.chars = d.chars := by
  simp only [terms, chars]
  split_ifs
  · rfl
  · simp [Term.chars_ofNat, Scale.chars]
  · simp [Term.chars_ofDecimal, Scale.chars]
  · simp [Term.chars_ofDecimal, Scale.chars]
  · exact d.flatMap_clockTerms

/-- What the terms of a duration look like. -/
structure Normal (d : Duration) (ts : List Term) : Prop where
  tidy : ∀ t ∈ ts, t.Tidy
  zero : d.nanos = 0 → ts = [{ whole := ['0'], scale := .second }]
  short : 0 < d.nanos → d.nanos < 1000000000 →
    ∃ t, ts = [t] ∧ t.scale ∈ [.milli, .micro, .nano] ∧ 1 ≤ ofDigits t.whole ∧
      ofDigits t.whole ≤ 999
  long : 1000000000 ≤ d.nanos →
    ts.map Term.scale ∈ [[.second], [.minute, .second], [.hour, .minute, .second]]
  /-- No unit is written before the first one that there is any of. -/
  leading : 1000000000 ≤ d.nanos → ∀ t ∈ ts.head?, 1 ≤ ofDigits t.whole
  below_sixty : ∀ t ∈ ts.tail, ofDigits t.whole < 60

variable {d : Duration}

theorem normal_zero (h : d.nanos = 0) : d.Normal [.ofNat 0 .second] where
  tidy := List.forall_mem_singleton.2 (Term.tidy_ofNat _ _)
  zero _ := rfl
  short hpos := absurd h (Nat.ne_of_gt hpos)
  long hge := by omega
  leading hge := by omega
  below_sixty := nofun

theorem normal_short {t : Term} (htidy : t.Tidy) (hpos : 0 < d.nanos) (hlt : d.nanos < 1000000000)
    (hscale : t.scale ∈ [.milli, .micro, .nano]) (hone : 1 ≤ ofDigits t.whole)
    (hle : ofDigits t.whole ≤ 999) : d.Normal [t] where
  tidy := List.forall_mem_singleton.2 htidy
  zero h := absurd h (Nat.ne_of_gt hpos)
  short _ _ := ⟨t, rfl, hscale, hone, hle⟩
  long hge := by omega
  leading hge := by omega
  below_sixty := nofun

theorem seconds_lt (d : Duration) : (d.secs % 60 * 1000000000 + d.subsec) / 10 ^ 9 < 60 := by
  have hsubsec : d.subsec < 1000000000 := Nat.mod_lt _ (by decide)
  omega

theorem normal_clockTerms (h : 1000000000 ≤ d.nanos) : d.Normal d.clockTerms where
  tidy := by
    have hseconds := List.forall_mem_singleton.2
      (Term.tidy_ofDecimal (d.secs % 60 * 1000000000 + d.subsec) 9 .second)
    have hminutes := List.forall_mem_cons.2
      ⟨Term.tidy_ofNat (d.secs % 3600 / 60) .minute, hseconds⟩
    simp only [clockTerms]
    split_ifs
    · exact hseconds
    · exact hminutes
    · exact List.forall_mem_cons.2 ⟨Term.tidy_ofNat _ _, hminutes⟩
  zero hzero := by omega
  short _ hlt := by omega
  long _ := by
    simp only [clockTerms]
    split_ifs <;> simp [Term.ofNat, Term.ofDecimal]
  leading _ := by
    have hsecs : 1 ≤ d.secs := by
      rw [secs]
      omega
    simp only [clockTerms]
    split_ifs <;> simp only [List.head?_cons, Option.mem_some_iff, forall_eq', Term.ofNat,
      Term.ofDecimal, ofDigits_toDigits] <;> omega
  below_sixty := by
    have hseconds : ∀ t ∈ [Term.ofDecimal (d.secs % 60 * 1000000000 + d.subsec) 9 .second],
        ofDigits t.whole < 60 := by
      rw [List.forall_mem_singleton, Term.ofDecimal, ofDigits_toDigits]
      exact d.seconds_lt
    have hminutes : ofDigits (Term.ofNat (d.secs % 3600 / 60) .minute).whole < 60 := by
      rw [Term.ofNat, ofDigits_toDigits]
      omega
    simp only [clockTerms]
    split_ifs
    · exact List.forall_mem_nil _
    · exact hseconds
    · exact List.forall_mem_cons.2 ⟨hminutes, hseconds⟩

theorem normal_terms (d : Duration) : d.Normal d.terms := by
  simp only [terms]
  split_ifs with hzero hnano hmicro hmilli
  · exact normal_zero hzero
  · apply normal_short (Term.tidy_ofNat _ _) (by omega) (by omega)
    · exact List.mem_cons_of_mem _ (List.mem_cons_of_mem _ List.mem_cons_self)
    all_goals
      rw [Term.ofNat, ofDigits_toDigits]
      omega
  · apply normal_short (Term.tidy_ofDecimal _ _ _) (by omega) (by omega)
    · exact List.mem_cons_of_mem _ List.mem_cons_self
    all_goals
      rw [Term.ofDecimal, ofDigits_toDigits]
      omega
  · apply normal_short (Term.tidy_ofDecimal _ _ _) (by omega) (by omega)
    · exact List.mem_cons_self
    all_goals
      rw [Term.ofDecimal, ofDigits_toDigits]
      omega
  · exact normal_clockTerms (by omega)

/-- The text of a duration is read back as its nanoseconds, belongs to no other duration, and is in
normal form. -/
theorem text_canonical (d : Duration) :
    read d.text.toList = some (d.nanos : ℚ) ∧ (∀ d' : Duration, d'.text = d.text → d' = d) ∧
      ∃ ts, d.text.toList = ts.flatMap Term.chars ∧ d.Normal ts := by
  have htext : d.text.toList = d.chars := String.toList_ofList
  rw [htext]
  exact ⟨read_chars d, fun d' h => text_injective h, d.terms, (flatMap_terms d).symm,
    normal_terms d⟩

end SearchPlan.Duration
