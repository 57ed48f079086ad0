import SearchPlan.Proofs.Duration.Reading
import SearchPlan.Proofs.Plan.Scripts
import SearchPlan.Plan.Sexp

/-! On one line, an s-expression can be read in one way only, and it says everything about a plan but
what its scripts do and what its checkers let through. -/

namespace SearchPlan

namespace Sexp

/-- Neither a space nor a parenthesis. -/
def plain (c : Char) : Bool := c ≠ ' ' && c ≠ '(' && c ≠ ')'

def Word (s : String) : Prop := s ≠ "" ∧ s.toList.all plain = true

instance (s : String) : Decidable (Word s) :=
  inferInstanceAs (Decidable (s ≠ "" ∧ s.toList.all plain = true))

inductive Legible : Sexp → Prop
  | atom : Word s → Legible (.atom s)
  | group : Word keyword → (∀ e ∈ terms, Legible e) → Legible (.group keyword terms)

/-- No word goes on here. -/
def Breaks (cs : List Char) : Prop := ∀ c ∈ cs.head?, plain c = false

variable {e e' : Sexp} {es es' : List Sexp} {s s' : String} {cs cs' : List Char} {depth : Nat}

theorem separator_line (depth : Nat) : separator [' '] [] depth = [' '] := by
  simp [separator]

theorem breaks_nil : Breaks [] := nofun

theorem breaks_cons {c : Char} (h : plain c = false) (cs : List Char) : Breaks (c :: cs) := by
  rintro _ ⟨⟩
  exact h

theorem breaks_charsAll (es : List Sexp) (depth : Nat) (cs : List Char) :
    Breaks (charsAll [' '] [] depth es ++ ')' :: cs) := by
  cases es with
  | nil => exact breaks_cons rfl cs
  | cons e es =>
    rw [charsAll, separator_line]
    exact breaks_cons rfl _

theorem Word.plain (h : Word s) : ∀ c ∈ s.toList, plain c = true :=
  List.all_eq_true.1 h.2

theorem takeWhile_word (h : Word s) (hcs : Breaks cs) :
    (s.toList ++ cs).takeWhile plain = s.toList := by
  have hstop : cs.takeWhile plain = [] := by
    cases cs with
    | nil => rfl
    | cons c cs => rw [List.takeWhile_cons_of_neg (by simp [hcs c rfl])]
  rw [List.takeWhile_append_of_pos h.plain, hstop, List.append_nil]

/-- A word ends where it can end first. -/
theorem word_append_inj (h : Word s) (h' : Word s') (hcs : Breaks cs) (hcs' : Breaks cs')
    (heq : s.toList ++ cs = s'.toList ++ cs') : s = s' ∧ cs = cs' := by
  have hword : s.toList = s'.toList := by
    rw [← takeWhile_word h hcs, heq, takeWhile_word h' hcs']
  rw [hword] at heq
  exact ⟨String.toList_injective hword, List.append_cancel_left heq⟩

theorem word_ne_paren (h : Word s) (cs cs' : List Char) : s.toList ++ cs ≠ '(' :: cs' := by
  intro heq
  cases hs : s.toList with
  | nil => exact h.1 (String.toList_injective hs)
  | cons c rest =>
    rw [hs] at heq
    cases heq
    exact absurd (h.plain '(' (hs ▸ List.mem_cons_self)) (by decide)

/-- The terms of a group can be told apart if each of them can. -/
theorem charsAll_inj
    (ih : ∀ e ∈ es, ∀ e' cs cs', e'.Legible → Breaks cs → Breaks cs' →
      e.chars [' '] [] depth ++ cs = e'.chars [' '] [] depth ++ cs' → e = e' ∧ cs = cs')
    (h' : ∀ e ∈ es', e.Legible)
    (heq : charsAll [' '] [] depth es ++ ')' :: cs = charsAll [' '] [] depth es' ++ ')' :: cs') :
    es = es' ∧ cs = cs' := by
  induction es generalizing es' with
  | nil =>
    cases es' with
    | nil =>
      cases heq
      exact ⟨rfl, rfl⟩
    | cons e' es' =>
      rw [charsAll, charsAll, separator_line] at heq
      cases heq
  | cons e es ihs =>
    cases es' with
    | nil =>
      rw [charsAll, charsAll, separator_line] at heq
      cases heq
    | cons e' es' =>
      rw [List.forall_mem_cons] at ih h'
      simp only [charsAll, separator_line, List.append_assoc, List.cons_append, List.nil_append,
        List.cons.injEq, true_and] at heq
      obtain ⟨rfl, hrest⟩ := ih.1 e' _ _ h'.1 (breaks_charsAll es depth cs)
        (breaks_charsAll es' depth cs') heq
      obtain ⟨rfl, rfl⟩ := ihs ih.2 h'.2 hrest
      exact ⟨rfl, rfl⟩

/-- Two expressions that begin the same text are the same. -/
theorem chars_inj (h : e.Legible) (h' : e'.Legible) (hcs : Breaks cs) (hcs' : Breaks cs')
    (heq : e.chars [' '] [] depth ++ cs = e'.chars [' '] [] depth ++ cs') : e = e' ∧ cs = cs' := by
  induction h generalizing e' cs cs' depth with
  | @atom s hs =>
    cases h' with
    | @atom s' hs' =>
      obtain ⟨rfl, rfl⟩ := word_append_inj hs hs' hcs hcs' heq
      exact ⟨rfl, rfl⟩
    | group hkeyword hterms => exact absurd heq (word_ne_paren hs _ _)
  | @group keyword terms hkeyword hterms ih =>
    cases h' with
    | atom hs' => exact absurd heq.symm (word_ne_paren hs' _ _)
    | @group keyword' terms' hkeyword' hterms' =>
      simp only [chars, List.append_assoc, List.cons_append, List.nil_append, List.cons.injEq,
        true_and] at heq
      obtain ⟨rfl, hrest⟩ := word_append_inj hkeyword hkeyword' (breaks_charsAll terms _ cs)
        (breaks_charsAll terms' _ cs') heq
      obtain ⟨rfl, rfl⟩ := charsAll_inj (fun e he e' cs cs' => ih e he) hterms' hrest
      exact ⟨rfl, rfl⟩

theorem format_inj (h : e.Legible) (h' : e'.Legible) (heq : e.format " " "" = e'.format " " "") :
    e = e' := by
  have hchars : e.chars [' '] [] 0 = e'.chars [' '] [] 0 := String.ofList_injective heq
  exact (chars_inj h h' breaks_nil breaks_nil (congrArg (· ++ []) hchars)).1

end Sexp

/-- Whether the name of the script stands out in the text of a plan. -/
def Script.Legible (s : Script) : Prop := Sexp.Word s.name ∧ s.name ≠ "NoopJob"

namespace Plan

mutual

/-- The plan with nothing left of its scripts but the names, and nothing of its checkers. -/
def outline : Plan → Plan
  | .leaf s => .leaf { name := s.name }
  | .noop => .noop
  | .group mode first rest => .group mode first.outline (outlines rest)
  | .priority required optional => .priority required.outline optional.outline
  | .timeout d p => .timeout d p.outline
  | .limit count hc p => .limit count hc p.outline
  | .filter _ p => .filter .allowAll p.outline

def outlines : List Plan → List Plan
  | [] => []
  | p :: ps => p.outline :: outlines ps

end

variable {p p' : Plan}

theorem legible_child (h : ∀ s ∈ p.scripts, s.Legible) :
    ∀ p' ∈ p.children, ∀ s ∈ p'.scripts, s.Legible :=
  fun _ hp s hs => h s (mem_scripts_of_child hp hs)

theorem sexps_eq_map (ps : List Plan) : sexps ps = ps.map sexp := by
  induction ps with
  | nil => rfl
  | cons p ps ih => rw [sexps, ih, List.map_cons]

theorem outlines_eq_map (ps : List Plan) : outlines ps = ps.map outline := by
  induction ps with
  | nil => rfl
  | cons p ps ih => rw [outlines, ih, List.map_cons]

theorem plain_of_isDigit {c : Char} (h : c.isDigit = true) : Sexp.plain c = true := by
  have hne : c ≠ ' ' ∧ c ≠ '(' ∧ c ≠ ')' := by
    refine ⟨?_, ?_, ?_⟩ <;> rintro rfl <;> cases h
  simp [Sexp.plain, hne]

theorem word_duration (d : Duration) : Sexp.Word d.text := by
  constructor
  · intro hempty
    exact d.chars_ne_nil (String.ofList_injective hempty)
  · rw [Duration.text, String.toList_ofList, List.all_eq_true]
    intro c hc
    rcases Duration.mem_chars hc with hdigit | hletter
    · exact plain_of_isDigit hdigit
    · have hplain : ['.', 'h', 'm', 's', 'n', 'µ'].all Sexp.plain = true := rfl
      exact List.all_eq_true.1 hplain c hletter

theorem word_count (n : Nat) : Sexp.Word (toString n) := by
  rw [Nat.toString_eq_ofList_toDigits]
  constructor
  · intro hempty
    exact Nat.toDigits_ne_nil (String.ofList_injective hempty)
  · rw [String.toList_ofList, List.all_eq_true]
    exact fun c hc => plain_of_isDigit (Text.isDigit_of_mem_toDigits hc)

theorem count_injective {n n' : Nat} (h : toString n = toString n') : n = n' := by
  rw [Nat.toString_eq_ofList_toDigits, Nat.toString_eq_ofList_toDigits] at h
  rw [← Duration.ofDigits_toDigits n, String.ofList_injective h, Duration.ofDigits_toDigits]

theorem word_keyword (mode : Mode) : Sexp.Word mode.keyword := by
  cases mode <;> decide

theorem legible_pair {keyword : String} {e e' : Sexp} (h : Sexp.Word keyword) (he : e.Legible)
    (he' : e'.Legible) : (Sexp.group keyword [e, e']).Legible :=
  .group h (List.forall_mem_cons.2 ⟨he, List.forall_mem_singleton.2 he'⟩)

theorem legible_sexp (h : ∀ s ∈ p.scripts, s.Legible) : p.sexp.Legible := by
  induction p with
  | leaf s => exact .atom (h s (List.mem_singleton_self s)).1
  | noop => exact .atom (by decide)
  | group mode first rest ihf ihr =>
    have hall : ∀ p ∈ first :: rest, p.sexp.Legible := fun p hp =>
      List.forall_mem_cons.2 ⟨ihf, ihr⟩ p hp (legible_child h p hp)
    rw [sexp, sexps_eq_map, ← List.map_cons]
    exact .group (word_keyword mode) (List.forall_mem_map.2 hall)
  | priority r o ihr iho =>
    rw [scripts, List.forall_mem_append] at h
    have hrequired : (Sexp.group "REQUIRED" [r.sexp]).Legible :=
      .group (by decide) (List.forall_mem_singleton.2 (ihr h.1))
    have hoptional : (Sexp.group "OPTIONAL" [o.sexp]).Legible :=
      .group (by decide) (List.forall_mem_singleton.2 (iho h.2))
    exact legible_pair (by decide) hrequired hoptional
  | timeout d p ih => exact legible_pair (by decide) (.atom (word_duration d)) (ih h)
  | limit count hc p ih => exact legible_pair (by decide) (.atom (word_count count)) (ih h)
  | filter allows p ih => exact legible_pair (by decide) (.atom (by decide)) (ih h)

theorem outlines_eq_of_sexps {ps ps' : List Plan}
    (ih : ∀ p ∈ ps, ∀ p' : Plan, (∀ s ∈ p'.scripts, s.Legible) → p.sexp = p'.sexp →
      p.outline = p'.outline)
    (h' : ∀ p ∈ ps', ∀ s ∈ p.scripts, s.Legible) (heq : ps.map sexp = ps'.map sexp) :
    ps.map outline = ps'.map outline := by
  induction ps generalizing ps' with
  | nil =>
    cases ps' with
    | nil => rfl
    | cons => cases heq
  | cons p ps ihs =>
    cases ps' with
    | nil => cases heq
    | cons p' ps' =>
      rw [List.forall_mem_cons] at ih h'
      rw [List.map_cons, List.map_cons, List.cons.injEq] at heq
      rw [List.map_cons, List.map_cons, ih.1 p' h'.1 heq.1, ihs ih.2 h'.2 heq.2]

theorem keyword_injective {mode mode' : Mode} (h : mode.keyword = mode'.keyword) :
    mode = mode' := by
  cases mode <;> cases mode' <;> first | rfl | exact absurd h (by decide)

/-- No other job goes by the keyword of a group. -/
theorem keyword_ne (mode : Mode) : mode.keyword ≠ "PRIORITY" ∧ mode.keyword ≠ "TIMEOUT" ∧
    mode.keyword ≠ "LIMIT" ∧ mode.keyword ≠ "FILTER" := by
  cases mode <;> decide

theorem outline_eq_of_sexp (h : ∀ s ∈ p.scripts, s.Legible) (h' : ∀ s ∈ p'.scripts, s.Legible)
    (heq : p.sexp = p'.sexp) : p.outline = p'.outline := by
  induction p generalizing p' with
  | leaf s =>
    cases p' with
    | leaf s' => rw [outline, outline, Sexp.atom.inj heq]
    | noop => exact absurd (Sexp.atom.inj heq) (h s (List.mem_singleton_self s)).2
    | _ => cases heq
  | noop =>
    cases p' with
    | leaf s' => exact absurd (Sexp.atom.inj heq).symm (h' s' (List.mem_singleton_self s')).2
    | noop => rfl
    | _ => cases heq
  | group mode first rest ihf ihr =>
    cases p' with
    | leaf => cases heq
    | noop => cases heq
    | group mode' first' rest' =>
      obtain ⟨hmode, hterms⟩ := Sexp.group.inj heq
      rw [sexps_eq_map, sexps_eq_map, ← List.map_cons, ← List.map_cons] at hterms
      have hall : ∀ p ∈ first :: rest, ∀ p' : Plan, (∀ s ∈ p'.scripts, s.Legible) →
          p.sexp = p'.sexp → p.outline = p'.outline := by
        intro p hp p' hp'
        have hlegible := legible_child h p hp
        rcases List.mem_cons.1 hp with rfl | hp
        · exact ihf hlegible hp'
        · exact ihr p hp hlegible hp'
      have houtlines : (first :: rest).map outline = (first' :: rest').map outline :=
        outlines_eq_of_sexps hall (legible_child h') hterms
      rw [List.map_cons, List.map_cons, List.cons.injEq] at houtlines
      rw [outline, outline, keyword_injective hmode, outlines_eq_map, outlines_eq_map,
        houtlines.1, houtlines.2]
    | _ => simp [sexp, keyword_ne mode] at heq
  | priority r o ihr iho =>
    cases p' with
    | group mode' => exact absurd (Sexp.group.inj heq).1.symm (keyword_ne mode').1
    | priority r' o' =>
      rw [scripts, List.forall_mem_append] at h h'
      simp only [sexp, Sexp.group.injEq, List.cons.injEq, and_true, true_and] at heq
      rw [outline, outline, ihr h.1 h'.1 heq.1, iho h.2 h'.2 heq.2]
    | _ => simp [sexp] at heq
  | timeout d p ih =>
    cases p' with
    | group mode' => exact absurd (Sexp.group.inj heq).1.symm (keyword_ne mode').2.1
    | timeout d' p' =>
      simp only [sexp, Sexp.group.injEq, List.cons.injEq, Sexp.atom.injEq, and_true,
        true_and] at heq
      rw [outline, outline, Duration.text_injective heq.1,
        ih h (legible_child h' p' List.mem_cons_self) heq.2]
    | _ => simp [sexp] at heq
  | limit count hc p ih =>
    cases p' with
    | group mode' => exact absurd (Sexp.group.inj heq).1.symm (keyword_ne mode').2.2.1
    | limit count' hc' p' =>
      simp only [sexp, Sexp.group.injEq, List.cons.injEq, Sexp.atom.injEq, and_true,
        true_and] at heq
      obtain rfl : count = count' := count_injective heq.1
      rw [outline, outline, ih h (legible_child h' p' List.mem_cons_self) heq.2]
    | _ => simp [sexp] at heq
  | filter allows p ih =>
    cases p' with
    | group mode' => exact absurd (Sexp.group.inj heq).1.symm (keyword_ne mode').2.2.2
    | filter allows' p' =>
      simp only [sexp, Sexp.group.injEq, List.cons.injEq, and_true, true_and] at heq
      rw [outline, outline, ih h (legible_child h' p' List.mem_cons_self) heq]
    | _ => simp [sexp] at heq

/-- On one line, the text of a plan says all of its outline. -/
theorem outline_eq_of_text (h : ∀ s ∈ p.scripts, s.Legible) (h' : ∀ s ∈ p'.scripts, s.Legible)
    (heq : p.text = p'.text) : p.outline = p'.outline :=
  outline_eq_of_sexp h h' (Sexp.format_inj (legible_sexp h) (legible_sexp h') heq)

end Plan

/-! Two plans that differ in what is not shown. -/

namespace Lookalike

def plan (allows : Checker) (steps : List Step) : Plan :=
  .timeout (.ofMillis 1500) (.filter allows
    (.priority (.limit 2 Nat.two_pos (.leaf { name := "AND", steps })) (.group .or .noop [])))

theorem same_outline :
    (∀ s ∈ (plan .allowAll []).scripts, s.Legible) ∧
    (∀ s ∈ (plan (fun _ => false) [.emit []]).scripts, s.Legible) ∧
    (plan .allowAll []).text = (plan (fun _ => false) [.emit []]).text ∧
    (plan .allowAll []).outline = (plan (fun _ => false) [.emit []]).outline := by
  have hlegible : Sexp.Word "AND" ∧ "AND" ≠ "NoopJob" := by decide
  have h (allows : Checker) (steps : List Step) : ∀ s ∈ (plan allows steps).scripts, s.Legible :=
    List.forall_mem_singleton.2 hlegible
  exact ⟨h _ _, h _ _, rfl, Plan.outline_eq_of_text (h _ _) (h _ _) rfl⟩

end Lookalike

end SearchPlan
