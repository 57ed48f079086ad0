import Mathlib.Data.List.Sort
import SearchPlan.Proofs.Diagram.Lines

/-! The tree that the lines of a diagram give. The lines that tell of a box, its declaration and the
edges out of it, stand in no other diagram beside or below it, so each part of a tree can be read
off all the lines. -/

namespace SearchPlan.Diagram

/-- The box that a line tells of. -/
def Line.about : Line → Nat
  | .box id _ => id
  | .edge _ source _ => source

def Line.declared? : Line → Option Nat
  | .box id _ => some id
  | .edge _ _ _ => none

/-- Lines that declare the boxes from `next` up to `stop` in turn, each right after the one edge
that leads to it, which comes from a box declared before. -/
inductive Numbered (stop : Nat) : Nat → List Line → Prop
  | nil : Numbered stop stop []
  | cons {next parent : Nat} {b : Box} {ls : List Line} : parent < next →
      Numbered stop (next + 1) ls →
      Numbered stop next (.edge b.level parent next :: .box next b :: ls)

/-- The tree below a box: the box is the one that is declared with its number, and those below it
are the ones that its edges lead to, by increasing number. -/
inductive Draws (ls : List Line) : Nat → Diagram → Prop
  | node {id : Nat} {b : Box} {ids : List Nat} {ds : List Diagram} :
      (∀ b', .box id b' ∈ ls ↔ b' = b) → ids.Pairwise (· < ·) →
      (∀ t, t ∈ ids ↔ ∃ level, .edge level id t ∈ ls) → List.Forall₂ (Draws ls) ids ds →
      Draws ls id (.node b ds)

/-- The numbers of the outermost boxes. -/
def starts (next : Nat) : List Diagram → List Nat
  | [] => []
  | d :: ds => next :: starts (next + d.size) ds

variable {d d' : Diagram} {ds : List Diagram} {ls ls' : List Line} {l : Line}
  {id parent next mid stop t level : Nat}

theorem size_pos (d : Diagram) : 0 < d.size := by
  cases d
  exact Nat.lt_add_right _ Nat.zero_lt_one

theorem Numbered.append (h : Numbered mid next ls) (h' : Numbered stop mid ls') :
    Numbered stop next (ls ++ ls') := by
  induction h with
  | nil => exact h'
  | cons hparent _ ih => exact .cons hparent ih

theorem Numbered.le (h : Numbered stop next ls) : next ≤ stop := by
  induction h with
  | nil => exact Nat.le_refl _
  | cons _ _ ih => exact Nat.le_of_succ_le ih

theorem Numbered.declared (h : Numbered stop next ls) :
    ls.filterMap Line.declared? = List.range' next (stop - next) := by
  induction h with
  | nil => rw [Nat.sub_self]; rfl
  | @cons next parent b ls _ h ih =>
    have hcount : stop - next = stop - (next + 1) + 1 := by have := h.le; omega
    rw [hcount, List.range'_succ, ← ih]
    rfl

mutual

theorem numbered_lines : ∀ (d : Diagram) (id : Nat),
    ∃ rest, d.lines id = .box id d.box :: rest ∧ Numbered (id + d.size) (id + 1) rest
  | .node b ds, id => by
    refine ⟨linesBelow id (id + 1) ds, rfl, ?_⟩
    rw [size, ← Nat.add_assoc]
    exact numbered_linesBelow ds (Nat.lt_succ_self id)

theorem numbered_linesBelow : ∀ (ds : List Diagram) {parent next : Nat}, parent < next →
    Numbered (next + sizes ds) next (linesBelow parent next ds)
  | [], _, next, _ => .nil
  | d :: ds, parent, next, hparent => by
    obtain ⟨rest, hlines, hrest⟩ := numbered_lines d next
    have hds := numbered_linesBelow ds (Nat.lt_add_right d.size hparent)
    rw [linesBelow, hlines, sizes, ← Nat.add_assoc]
    exact .cons hparent (hrest.append hds)

end

theorem declared_lines (d : Diagram) :
    (d.lines 0).filterMap Line.declared? = identifiers d.size := by
  obtain ⟨rest, hlines, hrest⟩ := numbered_lines d 0
  obtain ⟨n, hn⟩ := Nat.exists_eq_succ_of_ne_zero d.size_pos.ne'
  have hcount : 0 + d.size - (0 + 1) = n := by omega
  rw [hlines, List.filterMap_cons_some (f := Line.declared?) rfl, hrest.declared, hcount,
    identifiers, List.range_eq_range', hn, List.range'_succ]

mutual

theorem about_lines : ∀ (d : Diagram) {id : Nat} {l : Line}, l ∈ d.lines id →
    id ≤ l.about ∧ l.about < id + d.size
  | .node b ds, id, l, h => by
    rw [size]
    rcases List.mem_cons.1 h with rfl | h
    · exact ⟨Nat.le_refl id, by simp only [Line.about]; omega⟩
    · rcases about_linesBelow ds h with ⟨t, -, level, rfl⟩ | ⟨hle, hlt⟩
      · exact ⟨Nat.le_refl id, by simp only [Line.about]; omega⟩
      · omega

/-- A line below a box is an edge from it, or it tells of a box further down. -/
theorem about_linesBelow : ∀ (ds : List Diagram) {parent next : Nat} {l : Line},
    l ∈ linesBelow parent next ds → (∃ t ∈ starts next ds, ∃ level, l = .edge level parent t) ∨
      next ≤ l.about ∧ l.about < next + sizes ds
  | d :: ds, parent, next, l, h => by
    rw [starts, sizes]
    rcases List.mem_cons.1 h with rfl | h
    · exact .inl ⟨next, List.mem_cons_self, d.box.level, rfl⟩
    rcases List.mem_append.1 h with h | h
    · have := about_lines d h
      omega
    · rcases about_linesBelow ds h with ⟨t, ht, level, rfl⟩ | h
      · exact .inl ⟨t, List.mem_cons_of_mem _ ht, level, rfl⟩
      · omega

end

theorem le_of_mem_starts (h : t ∈ starts next ds) : next ≤ t := by
  induction ds generalizing next with
  | nil => cases h
  | cons d ds ih =>
    rcases List.mem_cons.1 h with rfl | h
    · exact Nat.le_refl _
    · exact Nat.le_trans (Nat.le_add_right _ _) (ih h)

theorem pairwise_starts (next : Nat) (ds : List Diagram) : (starts next ds).Pairwise (· < ·) := by
  induction ds generalizing next with
  | nil => exact .nil
  | cons d ds ih =>
    refine .cons (fun t ht => ?_) (ih _)
    exact Nat.lt_of_lt_of_le (Nat.lt_add_of_pos_right d.size_pos) (le_of_mem_starts ht)

theorem exists_edge (h : t ∈ starts next ds) (parent : Nat) :
    ∃ level, .edge level parent t ∈ linesBelow parent next ds := by
  induction ds generalizing next with
  | nil => cases h
  | cons d ds ih =>
    rcases List.mem_cons.1 h with rfl | h
    · exact ⟨d.box.level, List.mem_cons_self⟩
    · obtain ⟨level, hmem⟩ := ih h
      exact ⟨level, List.mem_cons_of_mem _ (List.mem_append_right _ hmem)⟩

/-- The edges from a box lead to the diagrams below it. -/
theorem mem_starts_iff (hparent : parent < next) :
    t ∈ starts next ds ↔ ∃ level, .edge level parent t ∈ linesBelow parent next ds := by
  refine ⟨fun h => exists_edge h parent, fun ⟨level, h⟩ => ?_⟩
  rcases about_linesBelow ds h with ⟨t', ht', level', heq⟩ | ⟨hle, -⟩
  · cases heq
    exact ht'
  · exact absurd hle (Nat.not_le_of_lt hparent)

/-- Only its own lines tell of the boxes of a diagram. -/
def Local (ls : List Line) (lo size : Nat) (own : List Line) : Prop :=
  ∀ l : Line, lo ≤ l.about → l.about < lo + size → (l ∈ ls ↔ l ∈ own)

theorem Local.head (h : Local ls next (sizes (d :: ds)) (linesBelow parent next (d :: ds)))
    (hparent : parent < next) : Local ls next d.size (d.lines next) := by
  intro l hle hlt
  rw [h l hle (by rw [sizes]; omega), linesBelow, List.mem_cons, List.mem_append]
  refine ⟨?_, fun hd => .inr (.inl hd)⟩
  rintro (rfl | hd | hds)
  · exact absurd hle (Nat.not_le_of_lt hparent)
  · exact hd
  · rcases about_linesBelow ds hds with ⟨t, -, level, rfl⟩ | ⟨hle', -⟩
    · exact absurd hle (Nat.not_le_of_lt hparent)
    · omega

theorem Local.tail (h : Local ls next (sizes (d :: ds)) (linesBelow parent next (d :: ds)))
    (hparent : parent < next) :
    Local ls (next + d.size) (sizes ds) (linesBelow parent (next + d.size) ds) := by
  intro l hle hlt
  rw [h l (by omega) (by rw [sizes]; omega), linesBelow, List.mem_cons, List.mem_append]
  refine ⟨?_, fun hds => .inr (.inr hds)⟩
  rintro (rfl | hd | hds)
  · exact absurd hle (by simp only [Line.about]; omega)
  · have := about_lines d hd
    omega
  · exact hds

/-- A line that tells of the outermost box is its declaration, or an edge from it. -/
theorem Local.root {b : Box} (h : Local ls id (size (.node b ds)) (lines id (.node b ds)))
    (hl : l.about = id) : l ∈ ls ↔ l = .box id b ∨ l ∈ linesBelow id (id + 1) ds := by
  rw [h l (Nat.le_of_eq hl.symm) (hl ▸ Nat.lt_add_of_pos_right (size_pos _)), lines, List.mem_cons]

theorem Local.below {b : Box} (h : Local ls id (size (.node b ds)) (lines id (.node b ds))) :
    Local ls (id + 1) (sizes ds) (linesBelow id (id + 1) ds) := by
  intro l hle hlt
  rw [h l (Nat.le_of_succ_le hle) (by rw [size]; omega), lines, List.mem_cons, or_iff_right]
  rintro rfl
  exact absurd hle (Nat.not_succ_le_self id)

mutual

theorem draws : ∀ (d : Diagram) {id : Nat} {ls : List Line},
    Local ls id d.size (d.lines id) → Draws ls id d
  | .node b ds, id, ls, h => by
    refine .node (fun b' => ?_) (pairwise_starts (id + 1) ds) (fun t => ?_)
      (drawsBelow ds (Nat.lt_succ_self id) h.below)
    · rw [h.root rfl]
      refine ⟨?_, fun hb => .inl (hb ▸ rfl)⟩
      rintro (hb | hb)
      · cases hb
        rfl
      · rcases about_linesBelow ds hb with ⟨t, -, level, hb⟩ | ⟨hle, -⟩
        · cases hb
        · exact absurd hle (Nat.not_succ_le_self id)
    · rw [mem_starts_iff (Nat.lt_succ_self id)]
      refine exists_congr fun level => ?_
      rw [h.root rfl, or_iff_right nofun]

theorem drawsBelow : ∀ (ds : List Diagram) {parent next : Nat} {ls : List Line}, parent < next →
    Local ls next (sizes ds) (linesBelow parent next ds) →
    List.Forall₂ (Draws ls) (starts next ds) ds
  | [], _, _, _, _, _ => .nil
  | d :: ds, _, _, _, hparent, h =>
    .cons (draws d (h.head hparent))
      (drawsBelow ds (Nat.lt_add_right d.size hparent) (h.tail hparent))

end

theorem draws_lines (d : Diagram) (id : Nat) : Draws (d.lines id) id d :=
  draws d fun _ _ _ => Iff.rfl

mutual

/-- Lines give at most one tree below a box. -/
theorem Draws.unique : ∀ {d d' : Diagram} {id : Nat}, Draws ls id d → Draws ls id d' → d = d'
  | .node b _, _, _, .node hbox hids hedges hds, .node hbox' hids' hedges' hds' => by
    have hb := (hbox' b).1 ((hbox b).2 rfl)
    have hsame := hids.eq_of_mem_iff hids' fun t => (hedges t).trans (hedges' t).symm
    subst hb hsame
    rw [Draws.unique_below hds hds']

theorem Draws.unique_below : ∀ {ds ds' : List Diagram} {ids : List Nat},
    List.Forall₂ (Draws ls) ids ds → List.Forall₂ (Draws ls) ids ds' → ds = ds'
  | [], _, _, .nil, .nil => rfl
  | _ :: _, _, _, .cons hd hds, .cons hd' hds' => by
    rw [Draws.unique hd hd', Draws.unique_below hds hds']

end

/-- No label in the diagram has a newline. -/
inductive Whole : Diagram → Prop
  | node {b : Box} {ds : List Diagram} :
      '\n' ∉ b.label.toList → (∀ d ∈ ds, Whole d) → Whole (.node b ds)

mutual

theorem Whole.lines : ∀ {d : Diagram}, d.Whole → ∀ id, ∀ l ∈ d.lines id, l.Whole
  | .node _ ds, .node hlabel hds, id => by
    rw [Diagram.lines, List.forall_mem_cons]
    exact ⟨hlabel, Whole.linesBelow ds hds id (id + 1)⟩

theorem Whole.linesBelow : ∀ (ds : List Diagram), (∀ d ∈ ds, d.Whole) →
    ∀ parent next, ∀ l ∈ linesBelow parent next ds, l.Whole
  | [], _, _, _ => nofun
  | d :: ds, h, parent, next => by
    rw [List.forall_mem_cons] at h
    rw [Diagram.linesBelow, List.forall_mem_cons, List.forall_mem_append]
    exact ⟨trivial, h.1.lines next, Whole.linesBelow ds h.2 parent (next + d.size)⟩

end

end SearchPlan.Diagram
