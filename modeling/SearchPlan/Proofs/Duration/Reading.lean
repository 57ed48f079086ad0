import Mathlib.Algebra.Order.Field.Rat
import Mathlib.Data.List.TakeWhile
import Mathlib.Tactic.FieldSimp
import Mathlib.Tactic.Ring
import Mathlib.Tactic.SplitIfs
import SearchPlan.Duration.Text
import SearchPlan.Text.Number

/-! The text of a duration read back: a sum of decimal numbers, each with a unit. -/

namespace SearchPlan.Duration

/-- The number whose digits these are. -/
def ofDigits (cs : List Char) : Nat := Nat.ofDigitChars 10 cs 0

/-- A decimal number, with a point and digits after it or without. -/
def number? (cs : List Char) : Option ℚ :=
  let whole := cs.takeWhile Char.isDigit
  if whole = [] then none
  else match cs.dropWhile Char.isDigit with
    | [] => some (ofDigits whole)
    | '.' :: rest =>
      if rest = [] ∨ ¬rest.all Char.isDigit then none
      else some (ofDigits whole + ofDigits rest / 10 ^ rest.length)
    | _ => none

/-- A number of units of so many nanoseconds, and what is added to it. -/
def amount (number : List Char) (unit : Nat) (rest : Option ℚ) : Option ℚ :=
  match number? number, rest with
  | some x, some y => some (x * unit + y)
  | _, _ => none

/-- The nanoseconds in a text of which `number` has been read since the last unit. -/
def readFrom (number : List Char) : List Char → Option ℚ
  | [] => if number = [] then some 0 else none
  | 'n' :: 's' :: cs => amount number 1 (readFrom [] cs)
  | 'µ' :: 's' :: cs => amount number 1000 (readFrom [] cs)
  | 'm' :: 's' :: cs => amount number 1000000 (readFrom [] cs)
  | 's' :: cs => amount number 1000000000 (readFrom [] cs)
  | 'm' :: cs => amount number 60000000000 (readFrom [] cs)
  | 'h' :: cs => amount number 3600000000000 (readFrom [] cs)
  | c :: cs => readFrom (number ++ [c]) cs

def read (cs : List Char) : Option ℚ := readFrom [] cs

variable {n part width : Nat} {cs : List Char} {c : Char}

@[simp] theorem ofDigits_toDigits (n : Nat) : ofDigits (Nat.toDigits 10 n) = n :=
  Nat.ofDigitChars_ten_toDigits

theorem ofDigits_append (cs ds : List Char) :
    ofDigits (cs ++ ds) = ofDigits cs * 10 ^ ds.length + ofDigits ds := by
  rw [ofDigits, Nat.ofDigitChars_append, Nat.ofDigitChars_eq_ofDigitChars_zero, Nat.mul_comm]
  rfl

theorem ofDigits_replicate (k : Nat) : ofDigits (List.replicate k '0') = 0 := by
  rw [ofDigits, Nat.ofDigitChars_replicate_zero, Nat.mul_zero]

/-- The digits of `part`, with zeros before them to make them `width` digits. -/
def padded (part width : Nat) : List Char := (Nat.toDigits 10 part).leftpad width '0'

theorem ofDigits_padded (part width : Nat) : ofDigits (padded part width) = part := by
  rw [padded, List.leftpad, ofDigits_append, ofDigits_replicate, Nat.zero_mul, Nat.zero_add,
    ofDigits_toDigits]

theorem length_padded (hwidth : 0 < width) (h : part < 10 ^ width) :
    (padded part width).length = width := by
  rw [padded, List.length_leftpad]
  exact Nat.max_eq_left ((Nat.length_toDigits_le_iff (by decide) hwidth).2 h)

theorem isDigit_of_mem_padded (h : c ∈ padded part width) : c.isDigit = true := by
  rcases List.mem_append.1 h with h | h
  · rw [List.eq_of_mem_replicate h]
    rfl
  · exact Text.isDigit_of_mem_toDigits h

/-- The zeros at the end of a fraction are left out, and nothing else is. -/
theorem exists_padded_eq (part width : Nat) :
    ∃ k, padded part width = fraction part width ++ List.replicate k '0' := by
  refine ⟨((padded part width).reverse.takeWhile (· == '0')).length, ?_⟩
  have hzeros : (padded part width).reverse.takeWhile (· == '0') =
      List.replicate ((padded part width).reverse.takeWhile (· == '0')).length '0' :=
    List.eq_replicate_of_mem fun c hc => by simpa using List.mem_takeWhile_imp hc
  have hsplit := List.takeWhile_append_dropWhile (p := (· == '0')) (l := (padded part width).reverse)
  rw [← List.reverse_replicate, ← hzeros, fraction, ← padded, ← List.reverse_append, hsplit,
    List.reverse_reverse]

theorem isDigit_of_mem_fraction (h : c ∈ fraction part width) : c.isDigit = true := by
  obtain ⟨k, hk⟩ := exists_padded_eq part width
  exact isDigit_of_mem_padded (hk ▸ List.mem_append_left _ h)

theorem ofDigits_fraction (hwidth : 0 < width) (h : part < 10 ^ width) :
    (ofDigits (fraction part width) : ℚ) / 10 ^ (fraction part width).length =
      part / 10 ^ width := by
  obtain ⟨k, hk⟩ := exists_padded_eq part width
  have hvalue := ofDigits_padded part width
  have hlength := length_padded hwidth h
  rw [hk, ofDigits_append, ofDigits_replicate, List.length_replicate, Nat.add_zero] at hvalue
  rw [hk, List.length_append, List.length_replicate] at hlength
  generalize fraction part width = ds at hvalue hlength
  subst hvalue hlength
  rw [pow_add, Nat.cast_mul, Nat.cast_pow, Nat.cast_ofNat]
  field_simp

theorem decimal_whole (h : fraction (n % 10 ^ width) width = []) :
    decimal n width = Nat.toDigits 10 (n / 10 ^ width) := by
  simp only [decimal, Nat.pow_eq, h]

theorem decimal_point {ds : List Char} (h : fraction (n % 10 ^ width) width = c :: ds) :
    decimal n width = Nat.toDigits 10 (n / 10 ^ width) ++ '.' :: c :: ds := by
  simp only [decimal, Nat.pow_eq, h]

theorem number?_whole {whole : List Char} (hne : whole ≠ []) (h : ∀ c ∈ whole, c.isDigit = true) :
    number? whole = some (ofDigits whole : ℚ) := by
  have htake : whole.takeWhile Char.isDigit = whole := List.takeWhile_eq_self_iff.2 h
  have hdrop : whole.dropWhile Char.isDigit = [] := List.dropWhile_eq_nil_iff.2 h
  simp only [number?, htake, hdrop, if_neg hne]

theorem number?_point {whole rest : List Char} (hne : whole ≠ [])
    (h : ∀ c ∈ whole, c.isDigit = true) (hne' : rest ≠ []) (h' : ∀ c ∈ rest, c.isDigit = true) :
    number? (whole ++ '.' :: rest) =
      some ((ofDigits whole : ℚ) + ofDigits rest / 10 ^ rest.length) := by
  have htake : (whole ++ '.' :: rest).takeWhile Char.isDigit = whole := by
    rw [List.takeWhile_append_of_pos h, List.takeWhile_cons_of_neg (by decide), List.append_nil]
  have hdrop : (whole ++ '.' :: rest).dropWhile Char.isDigit = '.' :: rest := by
    rw [List.dropWhile_append_of_pos h, List.dropWhile_cons_of_neg (by decide)]
  have hall : rest.all Char.isDigit = true := List.all_eq_true.2 h'
  simp [number?, htake, hdrop, hne, hne', hall]

/-- A decimal number is read as what it is. -/
theorem number?_decimal (hwidth : 0 < width) (n : Nat) :
    number? (decimal n width) = some ((n : ℚ) / 10 ^ width) := by
  have hunit : 0 < 10 ^ width := Nat.pow_pos (by decide)
  have hdigit : ∀ c ∈ Nat.toDigits 10 (n / 10 ^ width), c.isDigit = true :=
    fun c hc => Text.isDigit_of_mem_toDigits hc
  have hfraction := ofDigits_fraction hwidth (Nat.mod_lt n hunit)
  have hsplit : (n : ℚ) / 10 ^ width =
      (n / 10 ^ width : Nat) + ((n % 10 ^ width : Nat) : ℚ) / 10 ^ width := by
    have hcast : (n : ℚ) = 10 ^ width * (n / 10 ^ width : Nat) + (n % 10 ^ width : Nat) := by
      exact_mod_cast (Nat.div_add_mod n (10 ^ width)).symm
    rw [hcast]
    field_simp
  rw [hsplit, ← hfraction]
  cases hf : fraction (n % 10 ^ width) width with
  | nil =>
    rw [decimal_whole hf, number?_whole Nat.toDigits_ne_nil hdigit, ofDigits_toDigits]
    simp [ofDigits]
  | cons d ds =>
    have hrest : ∀ c ∈ d :: ds, c.isDigit = true := fun c hc => isDigit_of_mem_fraction (hf ▸ hc)
    rw [decimal_point hf, number?_point Nat.toDigits_ne_nil hdigit (List.cons_ne_nil d ds) hrest,
      ofDigits_toDigits]

/-- The characters of a number are read into the number that awaits its unit. -/
theorem readFrom_append {w : List Char} (h : ∀ c ∈ w, c.isDigit = true ∨ c = '.')
    (number cs : List Char) : readFrom number (w ++ cs) = readFrom (number ++ w) cs := by
  induction w generalizing number with
  | nil => rw [List.append_nil, List.nil_append]
  | cons c w ih =>
    rw [List.forall_mem_cons] at h
    have hunit : c ≠ 'n' ∧ c ≠ 'µ' ∧ c ≠ 'm' ∧ c ≠ 's' ∧ c ≠ 'h' := by
      refine ⟨?_, ?_, ?_, ?_, ?_⟩ <;> rintro rfl <;> exact absurd h.1 (by decide)
    have hstep : readFrom number (c :: (w ++ cs)) = readFrom (number ++ [c]) (w ++ cs) := by
      rw [readFrom] <;> simp [hunit]
    rw [List.cons_append, hstep, ih h.2, List.append_assoc, List.singleton_append]

theorem mem_decimal (h : c ∈ decimal n width) : c.isDigit = true ∨ c = '.' := by
  simp only [decimal] at h
  split at h
  · exact .inl (Text.isDigit_of_mem_toDigits h)
  · rcases List.mem_append.1 h with h | h
    · exact .inl (Text.isDigit_of_mem_toDigits h)
    · rcases List.mem_cons.1 h with rfl | h
      · exact .inr rfl
      · exact .inl (isDigit_of_mem_fraction h)

theorem decimal_append_ne (n width : Nat) (cs ds : List Char) :
    decimal n width ++ cs ≠ 's' :: ds := by
  have hne : decimal n width ≠ [] := by
    simp only [decimal]
    split <;> simp [Nat.toDigits_ne_nil]
  obtain ⟨c, rest, hc⟩ := List.exists_cons_of_ne_nil hne
  have hmem := mem_decimal (hc ▸ List.mem_cons_self : c ∈ decimal n width)
  rw [hc, List.cons_append]
  rintro heq
  cases heq
  exact absurd hmem (by decide)

theorem number?_toDigits (n : Nat) : number? (Nat.toDigits 10 n) = some (n : ℚ) := by
  rw [number?_whole Nat.toDigits_ne_nil fun c hc => Text.isDigit_of_mem_toDigits hc,
    ofDigits_toDigits]

theorem read_toDigits (n : Nat) (cs : List Char) :
    read (Nat.toDigits 10 n ++ cs) = readFrom (Nat.toDigits 10 n) cs :=
  readFrom_append (fun _ hc => .inl (Text.isDigit_of_mem_toDigits hc)) [] cs

theorem read_decimal (n width : Nat) (cs : List Char) :
    read (decimal n width ++ cs) = readFrom (decimal n width) cs :=
  readFrom_append (fun _ hc => mem_decimal hc) [] cs

theorem amount_eq {number : List Char} {x y : ℚ} (h : number? number = some x) (unit : Nat) :
    amount number unit (some y) = some (x * unit + y) := by
  simp only [amount, h]

theorem readFrom_nil : readFrom [] [] = some 0 := rfl

theorem read_seconds (n : Nat) : read (decimal n 9 ++ ['s']) = some (n : ℚ) := by
  rw [read_decimal, readFrom, readFrom_nil, amount_eq (number?_decimal (by decide) n)]
  norm_num

theorem read_minutes {x : ℚ} (n : Nat) (h : read cs = some x) (hs : ∀ ds, cs ≠ 's' :: ds) :
    read (Nat.toDigits 10 n ++ 'm' :: cs) = some (n * 60000000000 + x) := by
  rw [read_toDigits, readFrom, ← read, h, amount_eq (number?_toDigits n)]
  · norm_num
  · exact hs

theorem read_hours {x : ℚ} (n : Nat) (h : read cs = some x) :
    read (Nat.toDigits 10 n ++ 'h' :: cs) = some (n * 3600000000000 + x) := by
  rw [read_toDigits, readFrom, ← read, h, amount_eq (number?_toDigits n)]
  norm_num

theorem read_clockChars (d : Duration) : read d.clockChars = some (d.nanos : ℚ) := by
  simp only [clockChars]
  have hseconds := read_seconds (d.secs % 60 * 1000000000 + d.subsec)
  have hfirst := decimal_append_ne (d.secs % 60 * 1000000000 + d.subsec) 9 ['s']
  have hminutes := read_minutes (d.secs % 3600 / 60) hseconds hfirst
  split
  case isTrue hh =>
    split
    case isTrue hm =>
      have hnanos : d.secs % 60 * 1000000000 + d.subsec = d.nanos := by
        simp only [secs, subsec] at *
        omega
      rw [hseconds, hnanos]
    case isFalse hm =>
      have hnanos : d.secs % 3600 / 60 * 60000000000 +
          (d.secs % 60 * 1000000000 + d.subsec) = d.nanos := by
        simp only [secs, subsec] at *
        omega
      rw [hminutes]
      exact_mod_cast congrArg (fun n : ℕ => some (n : ℚ)) hnanos
  case isFalse hh =>
    have hnanos : d.secs / 3600 * 3600000000000 + (d.secs % 3600 / 60 * 60000000000 +
        (d.secs % 60 * 1000000000 + d.subsec)) = d.nanos := by
      simp only [secs, subsec] at *
      omega
    rw [read_hours _ hminutes]
    exact_mod_cast congrArg (fun n : ℕ => some (n : ℚ)) hnanos

/-- The text of a duration is read back as its nanoseconds. -/
theorem read_chars (d : Duration) : read d.chars = some (d.nanos : ℚ) := by
  simp only [chars]
  split
  case isTrue h =>
    have hzero : number? ['0'] = some ((0 : ℕ) : ℚ) := number?_toDigits 0
    change readFrom ['0'] ['s'] = _
    rw [h, readFrom, readFrom_nil, amount_eq hzero]
    norm_num
  split
  case isTrue h =>
    rw [read_toDigits, readFrom, readFrom_nil, amount_eq (number?_toDigits _)]
    norm_num
  split
  case isTrue h =>
    rw [read_decimal, readFrom, readFrom_nil, amount_eq (number?_decimal (by decide) _)]
    norm_num
  split
  case isTrue h =>
    rw [read_decimal, readFrom, readFrom_nil, amount_eq (number?_decimal (by decide) _)]
    norm_num
  case isFalse h => exact read_clockChars d

theorem text_injective {d d' : Duration} (h : d.text = d'.text) : d = d' := by
  have hread := congrArg read (String.ofList_injective h)
  rw [read_chars, read_chars, Option.some.injEq, Nat.cast_inj] at hread
  cases d
  cases d'
  exact congrArg Duration.mk hread

theorem chars_ne_nil (d : Duration) : d.chars ≠ [] := by
  simp only [chars, clockChars]
  split_ifs <;> simp

/-- A duration is written with digits, points and the letters of its units. -/
theorem mem_chars {d : Duration} (h : c ∈ d.chars) :
    c.isDigit = true ∨ c ∈ ['.', 'h', 'm', 's', 'n', 'µ'] := by
  have hnumber {n : Nat} (h : c ∈ Nat.toDigits 10 n) : c.isDigit = true :=
    Text.isDigit_of_mem_toDigits h
  have hdecimal {n width : Nat} (h : c ∈ decimal n width) : c.isDigit = true ∨ c = '.' :=
    mem_decimal h
  by_cases hzero : d.nanos = 0
  · simp only [chars, if_pos hzero, List.mem_cons, List.not_mem_nil, or_false] at h
    rcases h with rfl | rfl <;> decide
  · simp only [chars, clockChars, if_neg hzero] at h
    grind

end SearchPlan.Duration
