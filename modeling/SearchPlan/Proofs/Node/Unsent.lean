import Mathlib.Algebra.Order.BigOperators.Group.List
import Mathlib.Algebra.Order.Group.Nat
import SearchPlan.Proofs.Node.Ready
import SearchPlan.Proofs.Node.Script
import SearchPlan.Proofs.Node.Work
import SearchPlan.Proofs.Plan.Scripts

/-! The batches that a tree has yet to send. Whether a sender would have to wait matters only as
long as there are any. -/

namespace SearchPlan

variable {c : Context} {m : Move} {p : Path} {f : Flow} {i : Nat}

def Step.sends : Step → Nat
  | .sleep _ => 0
  | .emit _ => 1

theorem Script.length_batches (s : Script) : s.batches.length = (s.steps.map Step.sends).sum := by
  rw [batches]
  induction s.steps with
  | nil => rfl
  | cons st rest ih =>
    cases st with
    | sleep d => simpa [Step.sends] using ih
    | emit b => simp [Step.sends, ih, Nat.add_comm]

namespace Phase

/-- The batches in the steps that a script has yet to take. -/
def unsent (s : Script) (ph : Phase) : Nat := (((ph.rest? s).getD []).map Step.sends).sum

theorem Moves.unsent_le {s : Script} {ph ph' : Phase} {pr pr' : Probe}
    (h : Moves c s m ph pr ph' pr' f) : 2 * ph'.unsent s + f.load ≤ 2 * ph.unsent s := by
  cases h <;> simp [unsent, rest?, Step.sends, Flow.load, Nat.mul_add, Nat.add_comm]

theorem Moves.with_waits {s : Script} {ph ph' : Phase} {pr pr' : Probe} {w : Batch → Bool}
    (h : Moves c s m ph pr ph' pr' f) (hw : 0 < ph.unsent s → ∀ b, w b = c.waits b) :
    Moves { c with waits := w } s m ph pr ph' pr' f := by
  have hsends {b : Batch} {rest : List Step} : 0 < unsent s (.running (.emit b :: rest)) := by
    simp [unsent, rest?, Step.sends, Nat.add_comm]
  cases h with
  | skip hc => exact .skip hc
  | start hc => exact .start hc
  | finish => exact .finish
  | stop hc => exact .stop hc
  | pass hc hd => exact .pass hc hd
  | sleep hc hd => exact .sleep hc hd
  | queue hc hb => exact .queue hc ((hw hsends _).trans hb)
  | emit hc hb => exact .emit hc ((hw hsends _).trans hb)
  | wake hdue => exact .wake hdue
  | resume hg => exact .resume hg
  | halt hc => exact .halt hc

end Phase

namespace Node

variable {n n' b : Node} {pl : Plan} {w : Batch → Bool}

mutual

/-- The batches that the scripts in a tree have yet to send. -/
def unsent : Node → Nat
  | .leaf s ph _ => ph.unsent s
  | .noop _ => 0
  | .group _ ns _ => unsentAll ns
  | .priority required optional _ => required.unsent + optional.unsent
  | .timeout _ n _ _ => n.unsent
  | .limit _ n _ _ => n.unsent
  | .filter _ n => n.unsent

def unsentAll : List Node → Nat
  | [] => 0
  | n :: ns => n.unsent + unsentAll ns

end

theorem unsentAll_eq_sum (ns : List Node) : unsentAll ns = (ns.map unsent).sum := by
  induction ns with
  | nil => rfl
  | cons n ns ih => rw [unsentAll, ih, List.map_cons, List.sum_cons]

theorem unsent_eq_sum (h : n.branches ≠ []) : n.unsent = (n.branches.map unsent).sum := by
  cases n with
  | leaf => exact absurd rfl h
  | noop => exact absurd rfl h
  | group mode ns g => exact unsentAll_eq_sum ns
  | _ => simp [unsent, branches]

theorem unsent_branch_le (hb : n.branches[i]? = some b) : b.unsent ≤ n.unsent := by
  have hmem := List.mem_of_getElem? hb
  rw [unsent_eq_sum (List.ne_nil_of_mem hmem)]
  exact List.le_sum_of_mem (List.mem_map_of_mem hmem)

/-- A move that hands a batch over leaves one less to send. -/
theorem Moves.unsent_le (h : Moves m p c n n' f) : 2 * n'.unsent + f.load ≤ 2 * n.unsent := by
  induction h with
  | leaf h => exact h.unsent_le
  | noop => exact Nat.le_refl _
  | expire => exact Nat.le_refl _
  | group h ih =>
    simp only [unsent, unsentAll_eq_sum, List.map_append, List.sum_append, List.map_cons,
      List.sum_cons]
    omega
  | required h ih =>
    simp only [unsent]
    omega
  | optional h ih =>
    simp only [unsent]
    omega
  | timeout h ih => exact ih
  | limit h ih => exact Nat.le_trans (Nat.add_le_add_left (Quota.load_pass _ _) _) ih
  | filter h ih => exact Nat.le_trans (Nat.add_le_add_left (Flow.load_filter _ _) _) ih

theorem Ready.unsent_of_children (h : Ready pl n) (hpl : pl.children ≠ [])
    (hchildren : ∀ p' ∈ pl.children, ∀ b, Ready p' b → b.unsent = p'.batchCount) :
    n.unsent = pl.batchCount := by
  have hlen := h.length_branches
  have hn : n.branches ≠ [] := by
    rw [← List.length_pos_iff, hlen]
    exact List.length_pos_iff.2 hpl
  rw [unsent_eq_sum hn, Plan.batchCount_eq_sum hpl]
  refine congrArg List.sum (List.ext_getElem (by simp [hlen]) fun i hi hi' => ?_)
  rw [List.length_map] at hi'
  obtain ⟨b, hb, hready⟩ := h.branch (List.getElem?_eq_getElem hi')
  rw [List.getElem_map, List.getElem_map, (List.getElem?_eq_some_iff.1 hb).2]
  exact hchildren _ (List.getElem_mem hi') b hready

/-- Before a run, all batches of the plan are to be sent. -/
theorem Ready.unsent_eq (h : Ready pl n) : n.unsent = pl.batchCount := by
  induction pl generalizing n with
  | leaf s =>
    obtain ⟨pr, rfl⟩ := h.leaf
    simp [unsent, Phase.unsent, Phase.rest?, Plan.batchCount, Plan.scripts, Script.length_batches]
  | noop =>
    have hdoes := h.does
    cases n <;> cases hdoes
    rfl
  | group mode first rest ih ihs =>
    exact h.unsent_of_children (List.cons_ne_nil _ _)
      (List.forall_mem_cons.2 ⟨fun _ => ih, fun p hp _ => ihs p hp⟩)
  | priority r o ihr iho =>
    exact h.unsent_of_children (List.cons_ne_nil _ _)
      (List.forall_mem_cons.2 ⟨fun _ => ihr, List.forall_mem_singleton.2 fun _ => iho⟩)
  | timeout d p ih =>
    exact h.unsent_of_children (List.cons_ne_nil _ _) (List.forall_mem_singleton.2 fun _ => ih)
  | limit count hc p ih =>
    exact h.unsent_of_children (List.cons_ne_nil _ _) (List.forall_mem_singleton.2 fun _ => ih)
  | filter allows p ih =>
    exact h.unsent_of_children (List.cons_ne_nil _ _) (List.forall_mem_singleton.2 fun _ => ih)

theorem nextAt?_congr {c c' : Context} {ns : List Node}
    (h : ∀ n ∈ ns, ∀ j, n.next? (c'.branch j) = n.next? (c.branch j)) :
    nextAt? c' i ns = nextAt? c i ns := by
  induction ns generalizing i with
  | nil => rfl
  | cons n ns ih =>
    rw [List.forall_mem_cons] at h
    simp only [nextAt?, h.1 i, ih h.2]

/-- Whether a sender would have to wait is not asked before it moves. -/
theorem next?_waits (c : Context) (w : Batch → Bool) (n : Node) :
    n.next? { c with waits := w } = n.next? c := by
  induction n generalizing c w with
  | leaf s ph pr => cases ph <;> rfl
  | noop seen => rfl
  | group mode ns g ih =>
    exact nextAt?_congr fun n hn j => ih n hn ((c.scope g.decision.isSome).branch j) w
  | priority r o dropped ihr iho =>
    have hr : r.next? (Context.branch { c with waits := w } 0) = r.next? (c.branch 0) :=
      ihr (c.branch 0) w
    have ho : o.next? ((Context.scope { c with waits := w } dropped).branch 1) =
        o.next? ((c.scope dropped).branch 1) := iho ((c.scope dropped).branch 1) w
    simp only [next?, hr, ho]
  | timeout d k expired fired ih =>
    have hk : k.next? ((Context.scope { c with waits := w } expired).branch 0) =
        k.next? ((c.scope expired).branch 0) := ih ((c.scope expired).branch 0) w
    simp only [next?, hk]
  | limit quota k stopped fired ih =>
    exact congrArg _ (ih (((c.scope stopped).through quota.fit).branch 0) _)
  | filter allows k ih => exact congrArg _ (ih ((c.through (·.filter allows)).branch 0) _)

/-- As long as a tree has nothing to send, nothing depends on whether a sender would wait. -/
theorem Moves.with_waits (h : Moves m p c n n' f) (hw : 0 < n.unsent → ∀ b, w b = c.waits b) :
    Moves m p { c with waits := w } n n' f := by
  induction h generalizing w with
  | leaf h => exact .leaf (h.with_waits hw)
  | noop h => exact .noop h
  | expire hm ho hd hx => exact .expire hm ho hd ((next?_waits _ w _).trans hx)
  | @group p n n' f c mode ms ns g h ih =>
    refine .group (ih fun hpos => hw ?_)
    exact Nat.lt_of_lt_of_le hpos (unsent_branch_le (i := ms.length) (by simp [branches]))
  | required h ih =>
    refine .required (ih fun hpos => hw ?_)
    exact Nat.lt_of_lt_of_le hpos (unsent_branch_le (i := 0) rfl)
  | optional h ih =>
    refine .optional (ih fun hpos => hw ?_)
    exact Nat.lt_of_lt_of_le hpos (unsent_branch_le (i := 1) rfl)
  | timeout h ih => exact .timeout (ih hw)
  | limit h ih =>
    refine .limit (ih fun hpos b => ?_)
    simp only [Context.scope, Context.through, Context.branch, hw hpos]
  | filter h ih =>
    refine .filter (ih fun hpos b => ?_)
    simp only [Context.through, Context.branch, hw hpos]

end Node

end SearchPlan
