import Mathlib.Algebra.BigOperators.Ring.List
import SearchPlan.Proofs.Diagram.Tree
import SearchPlan.Proofs.Plan.Jobs
import SearchPlan.Proofs.Plan.Sexp

/-! The diagram of a plan, read back from its text. -/

namespace SearchPlan

namespace Diagram

theorem sizes_eq_sum (ds : List Diagram) : sizes ds = (ds.map size).sum := by
  induction ds with
  | nil => rfl
  | cons d ds ih => rw [sizes, ih, List.map_cons, List.sum_cons]

end Diagram

namespace Plan

/-- The box of a job's parameter, if it has one. -/
def parameterBox (level : Nat) (p : Plan) : List Diagram :=
  match p.parameter? with
  | some s => [.node ⟨.rect, s, level⟩ []]
  | none => []

/-- The two branches of a preference come under a label each. -/
def labelled (level : Nat) (p : Plan) (ds : List Diagram) : List Diagram :=
  if p.isPriority then
    List.zipWith (fun label d => .node ⟨.rounded, label, level⟩ [d]) ["REQUIRED", "OPTIONAL"] ds
  else ds

/-- The diagram shows the plan: a rounded box with the name of its outermost job, and below it, one
level further in, the box of the parameter and what shows the branches. -/
inductive Depicts : Nat → Plan → Diagram → Prop
  | job {level : Nat} {p : Plan} {ds : List Diagram} : ds.length = p.children.length →
      (∀ (i : Nat) b d, p.children[i]? = some b → ds[i]? = some d → Depicts (level + 1) b d) →
      Depicts level p (.node ⟨.rounded, p.name, level⟩
        (p.parameterBox (level + 1) ++ p.labelled (level + 1) ds))

/-- A box for each job, one for each parameter, and two for the labels of each preference. -/
def boxCount (p : Plan) : Nat :=
  p.nodeCount + p.jobs.countP (·.parameter?.isSome) + 2 * p.jobs.countP isPriority

variable {p : Plan} {d : Diagram} {level : Nat}

theorem diagrams_eq_map (level : Nat) (ps : List Plan) :
    diagrams level ps = ps.map (diagram level) := by
  induction ps with
  | nil => rfl
  | cons p ps ih => rw [diagrams, ih, List.map_cons]

theorem diagram_eq (level : Nat) (p : Plan) :
    p.diagram level = .node ⟨.rounded, p.name, level⟩ (p.parameterBox (level + 1) ++
      p.labelled (level + 1) (p.children.map (diagram (level + 1)))) := by
  cases p <;> simp [diagram, name, parameterBox, parameter?, labelled, isPriority, children,
    diagrams_eq_map]

theorem depicts_diagram (p : Plan) (level : Nat) : p.Depicts level (p.diagram level) := by
  induction p using child_induction generalizing level with
  | step p ih =>
    rw [diagram_eq]
    refine .job (List.length_map _) fun i b d hb hd => ?_
    rw [List.getElem?_map, hb, Option.map_some, Option.some.injEq] at hd
    exact hd ▸ ih b (List.mem_of_getElem? hb) (level + 1)

theorem Depicts.eq_diagram (h : p.Depicts level d) : d = p.diagram level := by
  induction h with
  | @job level p ds hlength hbranches ih =>
    have hds : ds = p.children.map (diagram (level + 1)) := by
      refine List.ext_getElem (by rw [hlength, List.length_map]) fun i hi hi' => ?_
      have hb := hlength ▸ hi
      rw [List.getElem_map]
      exact ih i _ _ (List.getElem?_eq_getElem hb) (List.getElem?_eq_getElem hi)
    rw [diagram_eq, ← hds]

theorem depicts_iff : p.Depicts level d ↔ d = p.diagram level :=
  ⟨Depicts.eq_diagram, fun h => h ▸ depicts_diagram p level⟩

theorem size_parameterBox (level : Nat) (p : Plan) :
    Diagram.sizes (p.parameterBox level) = p.parameter?.isSome.toNat := by
  cases h : p.parameter? <;> simp [parameterBox, h, Diagram.sizes, Diagram.size]

theorem size_labelled (level : Nat) (p : Plan) (f : Plan → Diagram) :
    Diagram.sizes (p.labelled level (p.children.map f)) =
      (p.children.map fun b => (f b).size).sum + 2 * p.isPriority.toNat := by
  rw [Diagram.sizes_eq_sum]
  cases p with
  | priority r o => simp [labelled, isPriority, children, Diagram.size, Diagram.sizes]; omega
  | _ => simp [labelled, isPriority, Function.comp_def]

theorem boxCount_eq (p : Plan) : p.boxCount =
    1 + (p.parameter?.isSome.toNat + ((p.children.map boxCount).sum + 2 * p.isPriority.toNat)) := by
  have hbranches : (p.children.map boxCount).sum = (p.children.map nodeCount).sum +
      (p.children.map fun b => b.jobs.countP (·.parameter?.isSome)).sum +
      2 * (p.children.map fun b => b.jobs.countP isPriority).sum := by
    rw [← List.sum_map_mul_left, ← List.sum_map_add, ← List.sum_map_add]
    rfl
  rw [boxCount, hbranches, nodeCount_eq, nodeCounts_eq_sum, countP_jobs, countP_jobs]
  omega

theorem size_diagram (p : Plan) (level : Nat) : (p.diagram level).size = p.boxCount := by
  induction p using child_induction generalizing level with
  | step p ih =>
    have hbranches := List.map_congr_left fun b hb => ih b hb (level + 1)
    rw [diagram_eq, Diagram.size, Diagram.sizes_eq_sum, List.map_append, List.sum_append,
      ← Diagram.sizes_eq_sum, ← Diagram.sizes_eq_sum, size_parameterBox, size_labelled, hbranches,
      boxCount_eq]

theorem newline_not_mem_name (h : ∀ s ∈ p.scripts, '\n' ∉ s.name.toList) :
    '\n' ∉ p.name.toList := by
  cases p with
  | leaf s => exact h s (List.mem_singleton_self s)
  | group mode first rest =>
    rw [name]
    cases mode <;> decide
  | _ => simp only [name]; decide

theorem newline_not_mem_parameter {s : String} (h : p.parameter? = some s) : '\n' ∉ s.toList := by
  cases p with
  | timeout d p =>
    cases h
    rw [Duration.text, String.toList_ofList]
    intro hmem
    rcases Duration.mem_chars hmem with hdigit | hletter
    · exact absurd hdigit (by decide)
    · exact absurd hletter (by decide)
  | limit count hc p =>
    cases h
    rw [Nat.toString_eq_ofList_toDigits, String.toList_ofList]
    exact fun hmem => absurd (Text.isDigit_of_mem_toDigits hmem) (by decide)
  | filter allows p =>
    cases h
    decide
  | _ => cases h

theorem whole_parameterBox (level : Nat) (p : Plan) : ∀ d ∈ p.parameterBox level, d.Whole := by
  cases h : p.parameter? with
  | none => simp [parameterBox, h]
  | some s =>
    rw [parameterBox, h]
    exact List.forall_mem_singleton.2 (.node (newline_not_mem_parameter h) fun _ hd => nomatch hd)

theorem whole_labelled {f : Plan → Diagram} (h : ∀ b ∈ p.children, (f b).Whole) (level : Nat) :
    ∀ d ∈ p.labelled level (p.children.map f), d.Whole := by
  cases p with
  | priority r o =>
    have hlabel (label : String) (hlabel : '\n' ∉ label.toList) {b : Plan} (hb : (f b).Whole) :
        (Diagram.node ⟨.rounded, label, level⟩ [f b]).Whole :=
      .node hlabel (List.forall_mem_singleton.2 hb)
    obtain ⟨hr, ho⟩ := List.forall_mem_cons.1 h
    exact List.forall_mem_cons.2 ⟨hlabel "REQUIRED" (by decide) hr,
      List.forall_mem_singleton.2 (hlabel "OPTIONAL" (by decide) (ho o List.mem_cons_self))⟩
  | _ => exact List.forall_mem_map.2 h

theorem whole_diagram (h : ∀ s ∈ p.scripts, '\n' ∉ s.name.toList) (level : Nat) :
    (p.diagram level).Whole := by
  induction p using child_induction generalizing level with
  | step p ih =>
    have hbranches : ∀ b ∈ p.children, (b.diagram (level + 1)).Whole := fun b hb =>
      ih b hb (fun s hs => h s (mem_scripts_of_child hb hs)) (level + 1)
    rw [diagram_eq]
    exact .node (newline_not_mem_name h)
      (List.forall_mem_append.2 ⟨whole_parameterBox _ p, whole_labelled hbranches _⟩)

/-- The text of a diagram is read back line by line, in one way only. The boxes are declared by
increasing number, each but the first right after the only edge to it, and the tree that the edges
give is the plan. -/
theorem flowchart_reads_back (p : Plan) (h : ∀ s ∈ p.scripts, '\n' ∉ s.name.toList) :
    ∃ (ls rest : List Diagram.Line) (b : Box) (d : Diagram),
      p.flowchart = Diagram.write ls ∧ Diagram.read? p.flowchart = some ls ∧
      (∀ ls' : List Diagram.Line, (∀ l ∈ ls', l.Whole) → p.flowchart = Diagram.write ls' →
        ls' = ls) ∧
      ls.filterMap Diagram.Line.declared? = List.range p.boxCount ∧
      ls = .box 0 b :: rest ∧ Diagram.Numbered p.boxCount 1 rest ∧
      (∀ d', p.Depicts 0 d' ↔ d' = d) ∧ ∀ d', Diagram.Draws ls 0 d' ↔ d' = d := by
  have hwhole := (whole_diagram h 0).lines 0
  have hwrite : p.flowchart = Diagram.write ((p.diagram 0).lines 0) := Diagram.text_eq_write _
  have hread := hwrite ▸ Diagram.read?_write hwhole
  have hdeclared := (p.diagram 0).declared_lines
  obtain ⟨rest, hlines, hrest⟩ := (p.diagram 0).numbered_lines 0
  rw [Nat.zero_add, Nat.zero_add, size_diagram] at hrest
  rw [size_diagram] at hdeclared
  have hdraws := (p.diagram 0).draws_lines 0
  refine ⟨_, rest, _, _, hwrite, hread, fun ls' hls' heq => ?_, hdeclared, hlines, hrest,
    fun _ => depicts_iff, fun d => ⟨fun hd => hd.unique hdraws, fun hd => hd ▸ hdraws⟩⟩
  exact Diagram.write_injective hls' hwhole (heq.symm.trans hwrite)

end Plan

/-! Names that look like lines of a diagram. -/

namespace Misleading

def plan : Plan :=
  .priority (.timeout ⟨1500⟩ (.leaf { name := "0---1" }))
    (.limit 2 Nat.two_pos (.leaf { name := "])  1([a" }))

theorem nine_boxes :
    (∀ s ∈ plan.scripts, '\n' ∉ s.name.toList) ∧
    plan.flowchart = "flowchart TB\n0([PRIORITY])\n" ++
      "  0---1\n  1([REQUIRED])\n  1---2\n  2([TIMEOUT])\n" ++
      "    2---3\n    3[1.5µs]\n    2---4\n    4([0---1])\n" ++
      "  0---5\n  5([OPTIONAL])\n  5---6\n  6([LIMIT])\n" ++
      "    6---7\n    7[2]\n    6---8\n    8([])  1([a])\n" ∧
    ∃ (ls : List Diagram.Line) (d : Diagram), Diagram.read? plan.flowchart = some ls ∧
      ls.filterMap Diagram.Line.declared? = List.range 9 ∧ plan.Depicts 0 d ∧
      Diagram.Draws ls 0 d := by
  have hscripts : ∀ s ∈ plan.scripts, '\n' ∉ s.name.toList := by decide
  obtain ⟨ls, _, _, d, _, hread, _, hdeclared, _, _, hdepicts, hdraws⟩ :=
    plan.flowchart_reads_back hscripts
  exact ⟨hscripts, by decide +kernel, ls, d, hread, hdeclared, (hdepicts d).2 rfl,
    (hdraws d).2 rfl⟩

end Misleading

end SearchPlan
