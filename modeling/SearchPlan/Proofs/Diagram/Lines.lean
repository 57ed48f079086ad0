import SearchPlan.Plan.Diagram
import SearchPlan.Proofs.Duration.Reading

/-! The text of a diagram read back, line by line. What a line says is told by the first characters
after its number, so a label may be anything that has no newline. -/

namespace SearchPlan.Diagram

/-- The number that a text begins with, and the rest of the text. -/
def number? (cs : List Char) : Option (Nat × List Char) :=
  let digits := cs.takeWhile Char.isDigit
  if digits = [] then none
  else some (Nat.ofDigitChars 10 digits 0, cs.dropWhile Char.isDigit)

/-- The label before the brackets that close it. -/
def label? (closing cs : List Char) : Option String :=
  if closing <:+ cs then some (String.ofList (cs.take (cs.length - closing.length))) else none

namespace Line

/-- The line that is written so, without its newline. -/
def read? (cs : List Char) : Option Line :=
  let level := (cs.takeWhile (· = ' ')).length / 2
  match number? (cs.dropWhile (· = ' ')) with
  | some (id, '(' :: '[' :: rest) => (label? [']', ')'] rest).map (.box id ⟨.rounded, ·, level⟩)
  | some (id, '[' :: rest) => (label? [']'] rest).map (.box id ⟨.rect, ·, level⟩)
  | some (source, '-' :: '-' :: '-' :: rest) =>
    match number? rest with
    | some (target, []) => some (.edge level source target)
    | _ => none
  | _ => none

/-- Nothing in the line ends it early. -/
def Whole : Line → Prop
  | .box _ b => '\n' ∉ b.label.toList
  | .edge _ _ _ => True

end Line

def readLines? : List (List Char) → Option (List Line)
  | [] => none
  | [last] => if last = [] then some [] else none
  | cs :: css =>
    match Line.read? cs, readLines? css with
    | some l, some ls => some (l :: ls)
    | _, _ => none

/-- The lines of a text that begins as a diagram does. -/
def read? (text : String) : Option (List Line) :=
  match text.toList.splitOn '\n' with
  | [] => none
  | first :: rest => if first = "flowchart TB".toList then readLines? rest else none

def write (ls : List Line) : String :=
  String.ofList ("flowchart TB\n".toList ++ ls.flatMap Line.chars)

variable {n : Nat} {cs rest : List Char} {l : Line} {ls : List Line}

theorem text_eq_write (d : Diagram) : d.text = write (d.lines 0) := rfl

theorem exists_number_eq_cons (n : Nat) : ∃ c cs, number n = c :: cs ∧ c.isDigit = true := by
  obtain ⟨c, cs, hc⟩ := List.exists_cons_of_ne_nil (Nat.toDigits_ne_nil : number n ≠ [])
  exact ⟨c, cs, hc, Text.isDigit_of_mem_toDigits (hc ▸ List.mem_cons_self)⟩

theorem number?_append (n : Nat) (htake : rest.takeWhile Char.isDigit = [])
    (hdrop : rest.dropWhile Char.isDigit = rest) : number? (number n ++ rest) = some (n, rest) := by
  have hdigits : ∀ c ∈ number n, c.isDigit = true := fun _ => Text.isDigit_of_mem_toDigits
  have hne : number n ≠ [] := Nat.toDigits_ne_nil
  have hvalue : Nat.ofDigitChars 10 (number n) 0 = n := Nat.ofDigitChars_ten_toDigits
  simp only [number?, List.takeWhile_append_of_pos hdigits, List.dropWhile_append_of_pos hdigits,
    htake, hdrop, List.append_nil, if_neg hne, hvalue]

theorem number?_number (n : Nat) : number? (number n) = some (n, []) := by
  have hread : number? (number n ++ []) = some (n, []) := number?_append n rfl rfl
  rwa [List.append_nil] at hread

theorem number?_append_cons (n : Nat) {c : Char} (hc : c.isDigit = false) (cs : List Char) :
    number? (number n ++ c :: cs) = some (n, c :: cs) :=
  number?_append n (by simp [hc]) (by simp [hc])

theorem label?_append (s : String) (closing : List Char) :
    label? closing (s.toList ++ closing) = some s := by
  rw [label?, if_pos (List.suffix_append _ _), List.length_append, Nat.add_sub_cancel,
    List.take_left, String.ofList_toList]

def indented (level n : Nat) (rest : List Char) : List Char :=
  List.replicate (2 * level) ' ' ++ (number n ++ rest)

/-- The spaces before a number are the indentation. -/
theorem indentation (level n : Nat) (rest : List Char) :
    (indented level n rest).takeWhile (· = ' ') = List.replicate (2 * level) ' ' ∧
    (indented level n rest).dropWhile (· = ' ') = number n ++ rest := by
  obtain ⟨c, cs, hcs, hdigit⟩ := exists_number_eq_cons n
  have hspaces : ∀ c ∈ List.replicate (2 * level) ' ', decide (c = ' ') = true := fun c hc =>
    decide_eq_true (List.eq_of_mem_replicate hc)
  have hc : c ≠ ' ' := by
    rintro rfl
    cases hdigit
  rw [indented, List.takeWhile_append_of_pos hspaces, List.dropWhile_append_of_pos hspaces, hcs]
  simp [hc]

theorem newline_not_mem (h : '\n' ∉ rest) (level n : Nat) : '\n' ∉ indented level n rest := by
  rw [indented, List.mem_append, List.mem_append]
  rintro (hspace | hdigit | hrest)
  · exact absurd (List.eq_of_mem_replicate hspace) (by decide)
  · exact absurd (Text.isDigit_of_mem_toDigits hdigit) (by decide)
  · exact h hrest

namespace Line

/-- What is written of a line before its newline. -/
def content : Line → List Char
  | .box id ⟨.rounded, label, level⟩ =>
    indented level id ('(' :: '[' :: (label.toList ++ [']', ')']))
  | .box id ⟨.rect, label, level⟩ => indented level id ('[' :: (label.toList ++ [']']))
  | .edge level source target => indented level source ('-' :: '-' :: '-' :: number target)

theorem chars_eq (l : Line) : l.chars = l.content ++ ['\n'] := by
  fun_cases chars l <;> simp [content, indented]

theorem Whole.newline_not_mem (h : l.Whole) : '\n' ∉ l.content := by
  fun_cases content l with
  | case1 id label level => exact Diagram.newline_not_mem (by simpa [Whole] using h) level id
  | case2 id label level => exact Diagram.newline_not_mem (by simpa [Whole] using h) level id
  | case3 level source target =>
    have hdigits : '\n' ∉ number target := fun h =>
      absurd (Text.isDigit_of_mem_toDigits h) (by decide)
    exact Diagram.newline_not_mem (by simpa using hdigits) level source

theorem read?_content (l : Line) : read? l.content = some l := by
  fun_cases content l with
  | case1 id label level =>
    obtain ⟨hlevel, hrest⟩ := indentation level id ('(' :: '[' :: (label.toList ++ [']', ')']))
    simp [read?, hlevel, hrest, number?_append_cons, label?_append]
  | case2 id label level =>
    obtain ⟨hlevel, hrest⟩ := indentation level id ('[' :: (label.toList ++ [']']))
    simp [read?, hlevel, hrest, number?_append_cons, label?_append]
  | case3 level source target =>
    obtain ⟨hlevel, hrest⟩ := indentation level source ('-' :: '-' :: '-' :: number target)
    simp [read?, hlevel, hrest, number?_append_cons, number?_number]

end Line

theorem readLines?_cons (hread : Line.read? cs = some l) {css : List (List Char)}
    (hne : css ≠ []) : readLines? (cs :: css) = (readLines? css).map (l :: ·) := by
  cases css with
  | nil => exact absurd rfl hne
  | cons cs' css => cases h : readLines? (cs' :: css) <;> simp [readLines?, hread, h]

theorem readLines?_splitOn (h : ∀ l ∈ ls, l.Whole) :
    readLines? ((ls.flatMap Line.chars).splitOn '\n') = some ls := by
  induction ls with
  | nil => rfl
  | cons l ls ih =>
    obtain ⟨hl, hls⟩ := List.forall_mem_cons.mp h
    rw [List.flatMap_cons, l.chars_eq, List.append_assoc, List.singleton_append,
      List.splitOn_append_cons_self_of_not_mem hl.newline_not_mem,
      readLines?_cons l.read?_content (List.splitOn_ne_nil _ _), ih hls, Option.map_some]

theorem toList_write (ls : List Line) :
    (write ls).toList = "flowchart TB".toList ++ '\n' :: ls.flatMap Line.chars := by
  have hheader : "flowchart TB\n".toList = "flowchart TB".toList ++ ['\n'] := by decide
  calc (write ls).toList
    _ = "flowchart TB\n".toList ++ ls.flatMap Line.chars := String.toList_ofList
    _ = _ := (congrArg (· ++ ls.flatMap Line.chars) hheader).trans (List.append_assoc _ _ _)

theorem read?_write (h : ∀ l ∈ ls, l.Whole) : read? (write ls) = some ls := by
  have hfirst : '\n' ∉ "flowchart TB".toList := by decide
  have hsplit := List.splitOn_append_cons_self_of_not_mem hfirst (ls.flatMap Line.chars)
  rw [← toList_write] at hsplit
  simp only [read?, hsplit, if_true, readLines?_splitOn h]

theorem write_injective {ls ls' : List Line} (h : ∀ l ∈ ls, l.Whole) (h' : ∀ l ∈ ls', l.Whole)
    (heq : write ls = write ls') : ls = ls' :=
  Option.some.inj (by rw [← read?_write h, heq, read?_write h'])

end SearchPlan.Diagram
