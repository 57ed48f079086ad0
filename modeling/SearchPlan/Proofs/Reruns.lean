import SearchPlan.Proofs.Node.Passage
import SearchPlan.Proofs.Node.Memory
import SearchPlan.Proofs.Node.Script
import SearchPlan.Proofs.Run.Happens
import SearchPlan.Run.Start

/-! The same plan run again. A run does not notice the earlier ones, and what it adds to the probes
of the scripts does not depend on what they show. -/

namespace SearchPlan

open Node (ofPlan)

theorem Node.Reached.leaf_at? {p : Plan} {n : Node} {q : Path} {s : Script} (h : Reached p n)
    (hq : p.at? q = some (.leaf s)) : ∃ ph, n.at? q = some (.leaf s ph (n.probeAt q)) := by
  obtain ⟨ts, h⟩ := h
  obtain ⟨ph, pr, hk, -⟩ := script_induction (motive := fun _ _ => True) h (ofPlan_at? hq) trivial
    fun _ _ => trivial
  exact ⟨ph, by rw [probeAt_eq hk, hk]⟩

namespace Run

variable {p : Plan} {r : Run} {es : List Event} {old : Path → Probe} {caller : Caller}
  {sub : Option Subscription}

/-- The run of a tree of which `old` has been seen before. -/
def remember (old : Path → Probe) (r : Run) : Run := { r with tree := r.tree.remember old }

@[simp] theorem context_remember (old : Path → Probe) (r : Run) :
    (r.remember old).context = r.context := rfl

@[simp] theorem outcome?_remember (old : Path → Probe) (r : Run) :
    (r.remember old).outcome? = r.outcome? :=
  Node.outcome?_remember old r.tree

@[simp] theorem execution?_remember (old : Path → Probe) (r : Run) :
    (r.remember old).execution? = r.execution? := by
  simp only [execution?, outcome?_remember]
  rw [remember, Node.name_remember]

@[simp] theorem finished_remember (old : Path → Probe) (r : Run) :
    (r.remember old).finished = r.finished := by
  simp only [finished, outcome?_remember]
  rfl

theorem move?_remember (old : Path → Probe) (q : Path) (m : Move) (r : Run) :
    (r.remember old).move? q m = (r.move? q m).map (remember old) := by
  simp only [move?, context_remember]
  rw [remember, Node.step_remember, Option.map_map, Option.map_map]
  rfl

theorem cancel?_remember (old : Path → Probe) (r : Run) :
    (r.remember old).cancel? = r.cancel?.map (remember old) := by
  simp only [cancel?, apply_ite (Option.map (remember old))]
  rfl

theorem read?_remember (old : Path → Probe) (r : Run) :
    (r.remember old).read? = r.read?.map (remember old) := by
  simp only [read?, outcome?_remember, apply_ite (Option.map (remember old))]
  refine if_congr .rfl rfl ?_
  have hout : (r.remember old).outlet = r.outlet := rfl
  rw [hout]
  cases r.outlet with
  | collector held => rfl
  | channel c =>
    dsimp only
    cases c.read? with
    | none => cases r.outcome?.isSome <;> rfl
    | some bc => rfl

theorem tick?_remember (old : Path → Probe) (r : Run) :
    (r.remember old).tick? = r.tick?.map (remember old) := by
  have hmove : (r.remember old).nextMove? = r.nextMove? := Node.next?_remember old r.context r.tree
  have halarms : (r.remember old).alarms = r.alarms := by
    rw [alarms, remember, Node.alarms_remember]
    rfl
  simp only [tick?, hmove, halarms, cancel?_remember, read?_remember, Option.isSome_map,
    apply_ite (Option.map (remember old)), Option.map_map]
  rfl

/-- Whatever happens in a run happens in the same way if more has been seen before. -/
theorem step_remember (old : Path → Probe) (e : Event) (r : Run) :
    (r.remember old).step e = (r.step e).map (remember old) := by
  simp only [step, finished_remember]
  split
  · rfl
  · cases e with
    | move q m => exact move?_remember old q m r
    | cancel => exact cancel?_remember old r
    | read => exact read?_remember old r
    | tick => exact tick?_remember old r

theorem follow_remember (old : Path → Probe) (es : List Event) (r : Run) :
    (r.remember old).follow es = (r.follow es).map (remember old) := by
  induction es generalizing r with
  | nil => rfl
  | cons e es ih =>
    simp only [follow, step_remember, Option.bind_map, Option.map_bind]
    exact Option.bind_congr fun k _ => ih k

/-- A run into a collector, or behind a channel if the caller has subscribed to one. -/
def launch (caller : Caller) (sub : Option Subscription) (n : Node) : Run :=
  match sub with
  | none => direct n caller
  | some sub => spawned n caller sub

theorem launch_remember (caller : Caller) (sub : Option Subscription) (old : Path → Probe)
    (n : Node) : launch caller sub (n.remember old) = (launch caller sub n).remember old := by
  cases sub <;> rfl

theorem tree_launch (caller : Caller) (sub : Option Subscription) (n : Node) :
    (launch caller sub n).tree = n := by
  cases sub <;> rfl

/-- The run of a tree after `k` others, when the same events happen in every one of them. -/
def rerun (caller : Caller) (sub : Option Subscription) (es : List Event) (n : Node) :
    Nat → Option Run
  | 0 => (launch caller sub n).follow es
  | k + 1 => (rerun caller sub es n k).bind fun r => (launch caller sub r.tree.rearm).follow es

/-- The two runs have come to the same, but for what has been seen of the scripts. -/
structure Repeats (p : Plan) (r r' : Run) (seen seen' : Path → Probe) : Prop where
  rest : r' = { r with tree := r'.tree }
  execution : r'.execution? = r.execution?
  finished : r'.finished = r.finished
  leaves : ∀ q s, p.at? q = some (.leaf s) → ∃ ph,
    r.tree.at? q = some (.leaf s ph (seen q)) ∧ r'.tree.at? q = some (.leaf s ph (seen' q))

theorem reached_launch (h : (launch caller sub (ofPlan p)).follow es = some r) :
    Node.Reached p r.tree :=
  reached (tree_launch caller sub _) h

theorem repeats_remember (h : Node.Reached p r.tree) (old old' : Path → Probe) :
    (r.remember old).Repeats p (r.remember old') (fun q => (old q).plus (r.tree.probeAt q))
      fun q => (old' q).plus (r.tree.probeAt q) where
  rest := rfl
  execution := by rw [execution?_remember, execution?_remember]
  finished := by rw [finished_remember, finished_remember]
  leaves q s hq := by
    obtain ⟨ph, hk⟩ := h.leaf_at? hq
    refine ⟨ph, ?_, ?_⟩ <;>
      simp only [remember, Node.at?_remember, hk, Option.map_some, Node.remember, List.append_nil]

/-- Every run adds to the probes what the first one does. -/
theorem rerun_eq (h : (launch caller sub (ofPlan p)).follow es = some r) (old : Path → Probe)
    (k : Nat) : rerun caller sub es ((ofPlan p).remember old) k =
      some (r.remember fun q => (old q).plus ((r.tree.probeAt q).times k)) := by
  induction k with
  | zero =>
    simp only [rerun, launch_remember, follow_remember, h, Option.map_some, Probe.times_zero,
      Probe.plus_empty]
  | succ k ih =>
    have htree : (r.remember fun q => (old q).plus ((r.tree.probeAt q).times k)).tree.rearm =
        (ofPlan p).remember fun q => (old q).plus ((r.tree.probeAt q).times (k + 1)) := by
      simp only [remember, Node.rearm_remember, (reached_launch h).rearm_eq_remember,
        Node.remember_remember, Probe.plus_assoc, Probe.plus_times]
    simp only [rerun, ih, Option.bind_some, htree, launch_remember, follow_remember, h,
      Option.map_some]

/-- The runs of a tree are independent. What was seen of its scripts before a run changes nothing
else about it, and every run of the tree adds the same again. -/
theorem reruns_alike (h : (launch caller sub ((ofPlan p).remember old)).follow es = some r) :
    ∃ seen : Path → Probe,
      (∀ old', ∃ r', (launch caller sub ((ofPlan p).remember old')).follow es = some r' ∧
        r.Repeats p r' (fun q => (old q).plus (seen q)) fun q => (old' q).plus (seen q)) ∧
      ∀ k, ∃ r', rerun caller sub es ((ofPlan p).remember old) k = some r' ∧
        r.Repeats p r' (fun q => (old q).plus (seen q)) fun q => (old q).plus ((seen q).times (k + 1)) := by
  rw [launch_remember, follow_remember, Option.map_eq_some_iff] at h
  obtain ⟨r, h, rfl⟩ := h
  have hreached := reached_launch h
  refine ⟨r.tree.probeAt, fun old' => ⟨r.remember old', ?_, repeats_remember hreached old old'⟩,
    fun k => ⟨_, rerun_eq h old k, ?_⟩⟩
  · rw [launch_remember, follow_remember, h, Option.map_some]
  · have hrepeats := repeats_remember hreached old fun q => (old q).plus ((r.tree.probeAt q).times k)
    simpa only [Probe.plus_assoc, Probe.plus_times] using hrepeats

end Run

/-! A search that is cancelled while it waits, three times in a row. -/

namespace Impatient

def slow : Script :=
  { name := "slow", steps := [.emit [.ofRepo "a"], .sleep (.ofMillis 5), .emit [.ofRepo "b"]] }

def plan : Plan := .limit 2 Nat.two_pos (.leaf slow)

def caller : Caller := { cancelAt := some 2 }

theorem third_run : ∃ es, (Run.launch caller none (ofPlan plan)).follow es = some (plan.run caller) ∧
    ∃ r, Run.rerun caller none es (ofPlan plan) 2 = some r ∧
      r.execution? = some ⟨.partialSuccess, [.cancelled "LIMIT"]⟩ ∧
      (plan.run caller).tree.probeAt [0] = ⟨1, 1, true⟩ ∧ r.tree.probeAt [0] = ⟨3, 3, true⟩ := by
  obtain ⟨es, hes⟩ := Run.exists_follow_eq_advance _ .caller (Run.launch caller none (ofPlan plan))
  have hnew : (Run.launch caller none ((ofPlan plan).remember fun _ => {})).follow es =
      some (plan.run caller) := hes
  have hfirst : (plan.run caller).tree.probeAt [0] = ⟨1, 1, true⟩ := by decide +kernel
  obtain ⟨seen, -, hruns⟩ := Run.reruns_alike (p := plan) hnew
  obtain ⟨r, hr, hrepeats⟩ := hruns 2
  obtain ⟨ph, hleaf, hleaf'⟩ := hrepeats.leaves [0] slow rfl
  have hseen : Probe.plus {} (seen [0]) = ⟨1, 1, true⟩ :=
    (Node.probeAt_eq hleaf).symm.trans hfirst
  refine ⟨es, hes, r, hr, ?_, hfirst, ?_⟩
  · rw [hrepeats.execution]
    decide +kernel
  · rw [Node.probeAt_eq hleaf']
    simp only [Probe.plus, Nat.zero_add, Bool.false_or, Probe.mk.injEq] at hseen
    simp only [Probe.plus, Probe.times, hseen]
    rfl

end Impatient

end SearchPlan
