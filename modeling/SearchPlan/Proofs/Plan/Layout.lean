import Mathlib.Algebra.BigOperators.Ring.List
import SearchPlan.Proofs.Plan.Jobs
import SearchPlan.Proofs.Plan.Sexp

/-! An s-expression is the same pieces of text whatever stands between them. How far the text after
a separator is indented is the number of groups that are open there. -/

namespace SearchPlan

namespace Sexp

/-- What is written without a separator in it: it may open a group, then has a word, and closes some
groups. -/
structure Piece where
  opens : Bool
  word : String
  closes : Nat := 0
  deriving DecidableEq

namespace Piece

def chars (q : Piece) : List Char :=
  (bif q.opens then ['('] else []) ++ (q.word.toList ++ List.replicate q.closes ')')

/-- How many groups are open after the piece, if there were `depth` before it. -/
def after (depth : Nat) (q : Piece) : Nat := depth + q.opens.toNat - q.closes

def close (q : Piece) : Piece := { q with closes := q.closes + 1 }

end Piece

/-- The pieces with `gap depth` between two of them where `depth` groups are open. -/
def layout (gap : Nat → List Char) (depth : Nat) : List Piece → List Char
  | [] => []
  | [q] => q.chars
  | q :: qs => q.chars ++ (gap (q.after depth) ++ layout gap (q.after depth) qs)

def closeLast : List Piece → List Piece
  | [] => []
  | [q] => [q.close]
  | q :: qs => q :: closeLast qs

mutual

def pieces : Sexp → List Piece
  | .atom s => [{ opens := false, word := s }]
  | .group keyword terms => closeLast ({ opens := true, word := keyword } :: piecesAll terms)

def piecesAll : List Sexp → List Piece
  | [] => []
  | e :: es => e.pieces ++ piecesAll es

end

/-- No piece closes a group that is not open. With `start` groups open before the pieces, `stop` are
open after them. -/
inductive Nests : (start stop : Nat) → List Piece → Prop
  | nil : Nests depth depth []
  | cons : start + q.opens.toNat = depth + q.closes → Nests depth stop qs →
      Nests start stop (q :: qs)

@[elab_as_elim, induction_eliminator]
theorem induct {motive : Sexp → Prop} (atom : ∀ s, motive (.atom s))
    (group : ∀ keyword terms, (∀ e ∈ terms, motive e) → motive (.group keyword terms))
    (e : Sexp) : motive e :=
  @Sexp.rec motive (fun es => ∀ e ∈ es, motive e) atom group (fun _ h => nomatch h)
    (fun _ _ he hes => List.forall_mem_cons.2 ⟨he, hes⟩) e

variable {e : Sexp} {es : List Sexp} {q : Piece} {qs qs' : List Piece} {gap : Nat → List Char}
  {start depth stop : Nat}

theorem layout_cons (h : qs ≠ []) : layout gap depth (q :: qs) =
    q.chars ++ (gap (q.after depth) ++ layout gap (q.after depth) qs) := by
  rw [layout]
  exact h

theorem closeLast_cons (h : qs ≠ []) : closeLast (q :: qs) = q :: closeLast qs := by
  rw [closeLast]
  exact h

theorem closeLast_ne_nil (h : qs ≠ []) : closeLast qs ≠ [] := by
  cases qs with
  | nil => exact absurd rfl h
  | cons q qs => cases qs <;> exact List.cons_ne_nil _ _

theorem pieces_ne_nil (e : Sexp) : e.pieces ≠ [] := by
  cases e with
  | atom => exact List.cons_ne_nil _ _
  | group => exact closeLast_ne_nil (List.cons_ne_nil _ _)

theorem Piece.chars_close (q : Piece) : q.close.chars = q.chars ++ [')'] := by
  simp [chars, close, List.replicate_succ']

theorem layout_closeLast (h : qs ≠ []) :
    layout gap depth (closeLast qs) = layout gap depth qs ++ [')'] := by
  induction qs generalizing depth with
  | nil => exact absurd rfl h
  | cons q qs ih =>
    by_cases hqs : qs = []
    · subst hqs
      exact q.chars_close
    · rw [closeLast_cons hqs, layout_cons (closeLast_ne_nil hqs), layout_cons hqs, ih hqs]
      simp only [List.append_assoc]

namespace Nests

theorem append (h : Nests start depth qs) (h' : Nests depth stop qs') :
    Nests start stop (qs ++ qs') := by
  induction h with
  | nil => exact h'
  | cons hq _ ih => exact .cons hq (ih h')

theorem closeLast (h : Nests start (stop + 1) qs) (hqs : qs ≠ []) :
    Nests start stop (closeLast qs) := by
  generalize hend : stop + 1 = last at h
  induction h with
  | nil => exact absurd rfl hqs
  | @cons start depth last qs q hq hrest ih =>
    by_cases hqs : qs = []
    · subst hqs hend
      cases hrest
      have hclose : start + q.close.opens.toNat = stop + q.close.closes := by
        simp only [Piece.close]
        omega
      exact .cons hclose .nil
    · rw [closeLast_cons hqs]
      exact .cons hq (ih hqs hend)

theorem layout_append (h : Nests start depth qs) (hqs : qs ≠ []) (hqs' : qs' ≠ []) :
    layout gap start (qs ++ qs') = layout gap start qs ++ (gap depth ++ layout gap depth qs') := by
  induction h with
  | nil => exact absurd rfl hqs
  | @cons start mid depth qs q hq hrest ih =>
    have hafter : q.after start = mid := by
      rw [Piece.after]
      omega
    rw [List.cons_append, layout_cons (List.append_ne_nil_of_right_ne_nil _ hqs'), hafter]
    by_cases hqs : qs = []
    · subst hqs
      cases hrest
      rfl
    · rw [ih hqs, layout_cons hqs, hafter]
      simp only [List.append_assoc]

end Nests

theorem nests_piecesAll (h : ∀ e ∈ es, Nests depth depth e.pieces) :
    Nests depth depth (piecesAll es) := by
  induction es with
  | nil => exact .nil
  | cons e es ih =>
    rw [List.forall_mem_cons] at h
    exact h.1.append (ih h.2)

/-- The pieces of an expression close all the groups they open. -/
theorem nests_pieces (e : Sexp) (depth : Nat) : Nests depth depth e.pieces := by
  induction e generalizing depth with
  | atom s => exact .cons rfl .nil
  | group keyword terms ih =>
    have hopen : Nests depth (depth + 1) ({ opens := true, word := keyword } :: piecesAll terms) :=
      .cons rfl (nests_piecesAll fun e he => ih e he (depth + 1))
    exact hopen.closeLast (List.cons_ne_nil _ _)

theorem layout_piecesAll {sep indent : List Char}
    (ih : ∀ e ∈ es, ∀ depth,
      e.chars sep indent depth = layout (separator sep indent) depth e.pieces)
    (h : Nests start depth qs) (hqs : qs ≠ []) :
    layout (separator sep indent) start (qs ++ piecesAll es) =
      layout (separator sep indent) start qs ++ charsAll sep indent depth es := by
  induction es generalizing qs with
  | nil => rw [piecesAll, charsAll, List.append_nil, List.append_nil]
  | cons e es ihes =>
    rw [List.forall_mem_cons] at ih
    have hnext := h.append (e.nests_pieces depth)
    rw [piecesAll, ← List.append_assoc, ihes ih.2 hnext (List.append_ne_nil_of_left_ne_nil hqs _),
      h.layout_append hqs e.pieces_ne_nil, ← ih.1 depth, charsAll]
    simp only [List.append_assoc]

/-- Whatever the separator and the indentation, an expression is laid out from the same pieces. -/
theorem chars_eq_layout (sep indent : List Char) (e : Sexp) (depth : Nat) :
    e.chars sep indent depth = layout (separator sep indent) depth e.pieces := by
  induction e generalizing depth with
  | atom s => simp [chars, pieces, layout, Piece.chars]
  | group keyword terms ih =>
    have hopen : Nests depth (depth + 1) [{ opens := true, word := keyword }] := .cons rfl .nil
    have hterms := layout_piecesAll ih hopen (List.cons_ne_nil _ _)
    rw [List.singleton_append] at hterms
    rw [pieces, layout_closeLast (List.cons_ne_nil _ _), hterms, chars]
    simp [layout, Piece.chars]

/-- The text has no parenthesis. -/
def Unbracketed (cs : List Char) : Prop := '(' ∉ cs ∧ ')' ∉ cs

instance (cs : List Char) : Decidable (Unbracketed cs) :=
  inferInstanceAs (Decidable ('(' ∉ cs ∧ ')' ∉ cs))

/-- The text closes no parenthesis that is not open. With `start` open before it, `stop` are open
after it. -/
structure Balances (start stop : Nat) (cs : List Char) : Prop where
  never_below : ∀ begun, begun <+: cs → begun.count ')' ≤ start + begun.count '('
  total : start + cs.count '(' = stop + cs.count ')'

variable {cs cs' : List Char}

theorem Unbracketed.append (h : Unbracketed cs) (h' : Unbracketed cs') : Unbracketed (cs ++ cs') :=
  ⟨List.not_mem_append h.1 h'.1, List.not_mem_append h.2 h'.2⟩

theorem Unbracketed.count_eq_zero (h : Unbracketed cs) : cs.count '(' = 0 ∧ cs.count ')' = 0 :=
  ⟨List.count_eq_zero.2 h.1, List.count_eq_zero.2 h.2⟩

theorem Unbracketed.balances (h : Unbracketed cs) (depth : Nat) : Balances depth depth cs where
  never_below begun hbegun := by
    rw [List.count_eq_zero.2 fun hmem => h.2 (hbegun.subset hmem)]
    exact Nat.zero_le _
  total := by rw [h.count_eq_zero.1, h.count_eq_zero.2]

theorem Balances.append (h : Balances start depth cs) (h' : Balances depth stop cs') :
    Balances start stop (cs ++ cs') where
  never_below begun hbegun := by
    rcases List.prefix_or_prefix_of_prefix hbegun (List.prefix_append cs cs') with hcs | ⟨ds, rfl⟩
    · exact h.never_below begun hcs
    · have hds := h'.never_below ds ((List.prefix_append_right_inj cs).1 hbegun)
      have htotal := h.total
      rw [List.count_append, List.count_append]
      omega
  total := by
    have htotal := h.total
    have htotal' := h'.total
    rw [List.count_append, List.count_append]
    omega

theorem balances_open (depth : Nat) : Balances depth (depth + 1) ['('] where
  never_below begun hbegun := by
    rw [List.count_eq_zero.2 fun hmem => by simpa using hbegun.subset hmem]
    exact Nat.zero_le _
  total := rfl

theorem balances_close (depth count : Nat) :
    Balances (depth + count) depth (List.replicate count ')') where
  never_below begun hbegun := by
    have hle := hbegun.sublist.count_le ')'
    rw [List.count_replicate_self] at hle
    omega
  total := by
    rw [List.count_replicate_self, List.count_replicate]
    rfl

theorem Piece.balances (h : start + q.opens.toNat = depth + q.closes)
    (hword : Unbracketed q.word.toList) : Balances start depth q.chars := by
  have hend := (hword.balances (depth + q.closes)).append (balances_close depth q.closes)
  rw [Piece.chars]
  cases hopens : q.opens with
  | false =>
    obtain rfl : start = depth + q.closes := by simpa [hopens] using h
    exact hend
  | true =>
    rw [← h, hopens] at hend
    exact (balances_open start).append hend

theorem Piece.count_chars (hword : Unbracketed q.word.toList) :
    q.chars.count '(' = q.opens.toNat := by
  rw [Piece.chars, List.count_append, List.count_append, hword.count_eq_zero.1,
    List.count_replicate]
  cases q.opens <;> rfl

/-- Where nothing else is written with parentheses, those of the groups are balanced. -/
theorem Nests.balances (h : Nests start stop qs) (hqs : ∀ q ∈ qs, Unbracketed q.word.toList)
    (hgap : ∀ depth, Unbracketed (gap depth)) : Balances start stop (layout gap start qs) := by
  induction h with
  | nil => exact Unbracketed.balances ⟨List.not_mem_nil, List.not_mem_nil⟩ _
  | @cons start depth stop qs q hq hrest ih =>
    rw [List.forall_mem_cons] at hqs
    have hfirst := Piece.balances hq hqs.1
    have hafter : q.after start = depth := by
      rw [Piece.after]
      omega
    by_cases hnil : qs = []
    · subst hnil
      cases hrest
      exact hfirst
    · rw [layout_cons hnil, hafter]
      exact hfirst.append (((hgap depth).balances depth).append (ih hqs.2))

theorem count_layout (hqs : ∀ q ∈ qs, Unbracketed q.word.toList)
    (hgap : ∀ depth, Unbracketed (gap depth)) (depth : Nat) :
    (layout gap depth qs).count '(' = qs.countP Piece.opens := by
  induction qs generalizing depth with
  | nil => rfl
  | cons q qs ih =>
    rw [List.forall_mem_cons] at hqs
    have hfirst : q.chars.count '(' = if q.opens then 1 else 0 := by
      rw [Piece.count_chars hqs.1]
      cases q.opens <;> rfl
    rw [List.countP_cons, Nat.add_comm, ← hfirst]
    by_cases hnil : qs = []
    · subst hnil
      rfl
    · rw [layout_cons hnil, List.count_append, List.count_append, (hgap _).count_eq_zero.1,
        Nat.zero_add, ih hqs.2]

theorem unbracketed_separator {sep indent : List Char} (hsep : Unbracketed sep)
    (hindent : Unbracketed indent) (depth : Nat) : Unbracketed (separator sep indent depth) := by
  refine hsep.append ⟨?_, ?_⟩ <;> simp [hindent.1, hindent.2]

theorem Word.unbracketed {s : String} (h : Word s) : Unbracketed s.toList :=
  ⟨fun hmem => absurd (h.plain _ hmem) (by decide), fun hmem => absurd (h.plain _ hmem) (by decide)⟩

/-- On lines of their own, each group indents by two spaces. -/
theorem separator_pretty (depth : Nat) :
    separator ['\n'] [' ', ' '] depth = '\n' :: List.replicate (2 * depth) ' ' := by
  have hspaces : [' ', ' '] = List.replicate 2 ' ' := rfl
  rw [separator, hspaces, List.flatten_replicate_replicate, Nat.mul_comm]
  rfl

theorem piecesAll_eq_flatMap (es : List Sexp) : piecesAll es = es.flatMap pieces := by
  induction es with
  | nil => rfl
  | cons e es ih => rw [piecesAll, ih, List.flatMap_cons]

theorem map_closeLast {α : Type} {f : Piece → α} (hf : ∀ q, f q.close = f q) (qs : List Piece) :
    (closeLast qs).map f = qs.map f := by
  induction qs with
  | nil => rfl
  | cons q qs ih =>
    by_cases hqs : qs = []
    · subst hqs
      simp [closeLast, hf]
    · rw [closeLast_cons hqs, List.map_cons, List.map_cons, ih]

/-- What does not change when a group is closed can be read off a group term by term. -/
theorem map_pieces_group {α : Type} {f : Piece → α} (hf : ∀ q, f q.close = f q) (keyword : String)
    (terms : List Sexp) : (group keyword terms).pieces.map f =
      f { opens := true, word := keyword } :: terms.flatMap fun e => e.pieces.map f := by
  rw [pieces, map_closeLast hf, List.map_cons, piecesAll_eq_flatMap, List.map_flatMap]

def words (e : Sexp) : List String := e.pieces.map Piece.word

/-- The number of groups. -/
def groups (e : Sexp) : Nat := e.pieces.countP Piece.opens

theorem words_group (keyword : String) (terms : List Sexp) :
    (group keyword terms).words = keyword :: terms.flatMap words :=
  map_pieces_group (fun _ => rfl) keyword terms

theorem unbracketed_group {keyword : String} {terms : List Sexp}
    (h : Unbracketed keyword.toList)
    (hterms : ∀ e ∈ terms, ∀ w ∈ e.words, Unbracketed w.toList) :
    ∀ w ∈ (group keyword terms).words, Unbracketed w.toList := by
  rw [words_group, List.forall_mem_cons, List.forall_mem_flatMap]
  exact ⟨h, hterms⟩

theorem groups_group (keyword : String) (terms : List Sexp) :
    (group keyword terms).groups = 1 + (terms.map groups).sum := by
  have hopens (qs : List Piece) : qs.countP Piece.opens = (qs.map Piece.opens).countP id := by
    rw [List.countP_map]
    rfl
  rw [groups, hopens, map_pieces_group fun _ => rfl, List.countP_cons, List.countP_flatMap,
    Nat.add_comm]
  congr 2
  exact List.map_congr_left fun e _ => (hopens e.pieces).symm

end Sexp

namespace Plan

variable {p : Plan}

theorem groups_branches (h : ∀ b ∈ p.children,
    b.sexp.groups = b.jobs.countP isCombinator + 2 * b.jobs.countP isPriority) :
    (p.children.map fun b => b.sexp.groups).sum =
      (p.children.map fun b => b.jobs.countP isCombinator).sum +
        2 * (p.children.map fun b => b.jobs.countP isPriority).sum := by
  rw [List.map_congr_left h, List.sum_map_add, List.sum_map_mul_left]

/-- A group for each job that has branches, and two more for each preference. -/
theorem groups_sexp (p : Plan) :
    p.sexp.groups = p.jobs.countP isCombinator + 2 * p.jobs.countP isPriority := by
  induction p using child_induction with
  | step p ih =>
    have hbranches := groups_branches ih
    have hatom (s : String) : (Sexp.atom s).groups = 0 := rfl
    rw [countP_jobs, countP_jobs]
    cases p with
    | leaf s => rfl
    | noop => rfl
    | group mode first rest =>
      have hsexp : (Plan.group mode first rest).sexp.groups =
          1 + ((first :: rest).map fun b => b.sexp.groups).sum := by
        rw [sexp, sexps_eq_map, ← List.map_cons, Sexp.groups_group, List.map_map]
        rfl
      simp only [children, isCombinator, isPriority, Bool.toNat_true, Bool.toNat_false] at *
      omega
    | _ =>
      simp only [sexp, Sexp.groups_group, hatom, children, isCombinator, isPriority, List.map_cons,
        List.map_nil, List.sum_cons, List.sum_nil, Bool.toNat_true, Bool.toNat_false] at *
      omega

theorem unbracketed_words (h : ∀ s ∈ p.scripts, Sexp.Unbracketed s.name.toList) :
    ∀ w ∈ p.sexp.words, Sexp.Unbracketed w.toList := by
  have hatom {s : String} (hs : Sexp.Unbracketed s.toList) :
      ∀ w ∈ (Sexp.atom s).words, Sexp.Unbracketed w.toList := List.forall_mem_singleton.2 hs
  induction p with
  | leaf s => exact hatom (h s (List.mem_singleton_self s))
  | noop => exact hatom (by decide)
  | group mode first rest ihf ihr =>
    have hall : ∀ b ∈ first :: rest, ∀ w ∈ b.sexp.words, Sexp.Unbracketed w.toList := fun b hb =>
      List.forall_mem_cons.2 ⟨ihf, ihr⟩ b hb fun s hs => h s (mem_scripts_of_child hb hs)
    rw [sexp, sexps_eq_map, ← List.map_cons]
    exact Sexp.unbracketed_group (word_keyword mode).unbracketed (List.forall_mem_map.2 hall)
  | priority r o ihr iho =>
    rw [scripts, List.forall_mem_append] at h
    have hrequired : Sexp.Unbracketed "REQUIRED".toList := by decide
    have hoptional : Sexp.Unbracketed "OPTIONAL".toList := by decide
    have hr := Sexp.unbracketed_group hrequired (List.forall_mem_singleton.2 (ihr h.1))
    have ho := Sexp.unbracketed_group hoptional (List.forall_mem_singleton.2 (iho h.2))
    exact Sexp.unbracketed_group (by decide)
      (List.forall_mem_cons.2 ⟨hr, List.forall_mem_singleton.2 ho⟩)
  | timeout d p ih =>
    have hparameter := hatom (word_duration d).unbracketed
    exact Sexp.unbracketed_group (by decide)
      (List.forall_mem_cons.2 ⟨hparameter, List.forall_mem_singleton.2 (ih h)⟩)
  | limit count hc p ih =>
    have hparameter := hatom (word_count count).unbracketed
    exact Sexp.unbracketed_group (by decide)
      (List.forall_mem_cons.2 ⟨hparameter, List.forall_mem_singleton.2 (ih h)⟩)
  | filter allows p ih =>
    have hparameter := hatom (s := checkLabel) (by decide)
    exact Sexp.unbracketed_group (by decide)
      (List.forall_mem_cons.2 ⟨hparameter, List.forall_mem_singleton.2 (ih h)⟩)

/-- A plan is written with the same pieces whatever the separator and the indentation, and each
separator is followed by one indentation for each group that is open there. Where nothing else is
written with parentheses, those of the groups are balanced. -/
theorem format_laid_out (p : Plan) :
    Sexp.Nests 0 0 p.sexp.pieces ∧
    (∀ sep indent : String, p.format sep indent = String.ofList
      (Sexp.layout (fun depth => sep.toList ++ (List.replicate depth indent.toList).flatten) 0
        p.sexp.pieces)) ∧
    p.prettyText = String.ofList
      (Sexp.layout (fun depth => '\n' :: List.replicate (2 * depth) ' ') 0 p.sexp.pieces) ∧
    p.text = String.ofList (Sexp.layout (fun _ => [' ']) 0 p.sexp.pieces) ∧
    ((∀ s ∈ p.scripts, Sexp.Unbracketed s.name.toList) → ∀ sep indent : String,
      Sexp.Unbracketed sep.toList → Sexp.Unbracketed indent.toList →
      Sexp.Balances 0 0 (p.format sep indent).toList ∧
      (p.format sep indent).toList.count '(' =
        p.jobs.countP isCombinator + 2 * p.jobs.countP isPriority) := by
  have hlaid (sep indent : String) : p.format sep indent = String.ofList
      (Sexp.layout (Sexp.separator sep.toList indent.toList) 0 p.sexp.pieces) :=
    congrArg String.ofList (Sexp.chars_eq_layout _ _ _ _)
  have hnests := p.sexp.nests_pieces 0
  refine ⟨hnests, hlaid, ?_, ?_, ?_⟩
  · rw [prettyText, hlaid]
    congr 2
    exact funext Sexp.separator_pretty
  · rw [text, hlaid]
    congr 2
    exact funext Sexp.separator_line
  · intro hscripts sep indent hsep hindent
    have hwords : ∀ q ∈ p.sexp.pieces, Sexp.Unbracketed q.word.toList := fun q hq =>
      unbracketed_words hscripts q.word (List.mem_map_of_mem hq)
    have hgap := Sexp.unbracketed_separator hsep hindent
    rw [hlaid, String.toList_ofList, Sexp.count_layout hwords hgap]
    exact ⟨hnests.balances hwords hgap, groups_sexp p⟩

end Plan

/-! Names and separators of all kinds but parentheses. -/

namespace Spaced

def plan : Plan :=
  .priority (.limit 2 Nat.two_pos (.leaf { name := "a b" }))
    (.group .and .noop [.leaf { name := "" }])

theorem five_pairs :
    (∀ s ∈ plan.scripts, Sexp.Unbracketed s.name.toList) ∧
    Sexp.Unbracketed "|".toList ∧ Sexp.Unbracketed "-".toList ∧
    plan.format "|" "-" =
      "(PRIORITY|-(REQUIRED|--(LIMIT|---2|---a b))|-(OPTIONAL|--(AND|---NoopJob|---)))" ∧
    Sexp.Balances 0 0 (plan.format "|" "-").toList ∧
    (plan.format "|" "-").toList.count '(' = 5 := by
  have hscripts : ∀ s ∈ plan.scripts, Sexp.Unbracketed s.name.toList := by decide
  have hsep : Sexp.Unbracketed "|".toList := by decide
  have hindent : Sexp.Unbracketed "-".toList := by decide
  obtain ⟨-, -, -, -, hparens⟩ := plan.format_laid_out
  obtain ⟨hbalances, hcount⟩ := hparens hscripts "|" "-" hsep hindent
  exact ⟨hscripts, hsep, hindent, rfl, hbalances, hcount⟩

end Spaced

end SearchPlan
