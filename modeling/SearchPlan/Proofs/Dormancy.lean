import SearchPlan.Proofs.Node.OnTime
import SearchPlan.Proofs.Run.Termination
import SearchPlan.Proofs.Run.Unfolds
import SearchPlan.Proofs.Silence

/-! A run whose token has fired before it starts. No script in it is started, nothing reaches its
sink and no time passes; its result says whether the plan was settled without any script. -/

namespace SearchPlan

/-- Whether a group is settled, given whether each of its branches is. -/
def Mode.settles (branches : List Bool) : Mode → Bool
  | .or => branches.any id
  | _ => branches.all id

namespace Mode

variable {mode : Mode} {branches : List Bool} {sts : List Status}

theorem settles_eq_true (hmode : mode.decisive ≠ some .success) :
    mode.settles branches = true ↔ ∀ b ∈ branches, b = true := by
  cases mode with
  | or => exact absurd rfl hmode
  | _ => exact List.all_eq_true

theorem settles_eq_false (hopen : false ∈ branches)
    (hmode : true ∈ branches → mode.decisive ≠ some .success) : mode.settles branches = false := by
  cases mode with
  | or =>
    rw [settles, List.any_eq_false]
    rintro (_ | _) hb
    · exact Bool.false_ne_true
    · exact absurd rfl (hmode hb)
  | _ => exact List.all_eq_false.2 ⟨false, hopen, Bool.false_ne_true⟩

theorem verdict_of_success (hmode : mode.decisive ≠ some .success)
    (h : ∀ st ∈ sts, st = .success) : mode.verdict sts = .success := by
  cases mode with
  | and =>
    have hnone : Status.partialSuccess ∉ sts := fun hmem => nomatch h _ hmem
    rw [verdict, if_neg hnone]
  | or => exact absurd rfl hmode
  | parallel =>
    have hall : sts.all (· = .success) = true := List.all_eq_true.2 fun st hst => by simp [h st hst]
    rw [verdict, if_pos hall]

end Mode

/-- What a group comes to if each of its branches is settled or has given up. -/
theorem Gathered.Knows.outcome_eq {mode : Mode} {g : Gathered} {bs : List Bool}
    (h : g.Knows mode (fun st => st = .success ∧ true ∈ bs) (false ∈ bs)) (hne : bs ≠ []) :
    g.outcome mode =
      if mode.settles bs then .done ⟨.success, g.alerts⟩ else .cancelled g.alerts := by
  cases hg : g.decision with
  | some st =>
    obtain ⟨hdecisive, rfl, hsome⟩ := h.decided st hg
    cases mode with
    | or =>
      have hsettles : Mode.or.settles bs = true := List.any_eq_true.2 ⟨true, hsome, rfl⟩
      rw [outcome, hg, if_pos hsettles]
    | _ => cases hdecisive
  | none =>
    have hmode (hsome : true ∈ bs) : mode.decisive ≠ some .success :=
      h.undecided hg _ ⟨rfl, hsome⟩
    by_cases hopen : false ∈ bs
    · simp [outcome, hg, (h.interrupted hg).2 hopen, Mode.settles_eq_false hopen hmode]
    · have hall : ∀ b ∈ bs, b = true := by
        rintro (_ | _) hb
        · exact absurd hb hopen
        · rfl
      obtain ⟨b, hb⟩ := List.exists_mem_of_ne_nil bs hne
      have hmode := hmode (hall b hb ▸ hb)
      have hverdict : mode.verdict g.statuses = .success :=
        Mode.verdict_of_success hmode fun st hst => ((h.statuses hg st).1 hst).1
      have hinterrupted : g.interrupted = false := by
        rw [← Bool.not_eq_true, h.interrupted hg]
        exact hopen
      simp [outcome, hg, hinterrupted, hverdict, (Mode.settles_eq_true hmode).2 hall]

namespace Plan

mutual

/-- Whether the jobs that have nothing to do settle the plan, without any script. -/
def settled : Plan → Bool
  | .leaf _ => false
  | .noop => true
  | .group mode first rest => mode.settles (first.settled :: settleds rest)
  | .priority required _ => required.settled
  | .timeout _ p => p.settled
  | .limit _ _ p => p.settled
  | .filter _ p => p.settled

def settleds : List Plan → List Bool
  | [] => []
  | p :: ps => p.settled :: settleds ps

end

theorem settleds_eq_map (ps : List Plan) : settleds ps = ps.map settled := by
  induction ps with
  | nil => rfl
  | cons p ps ih => rw [settleds, ih, List.map_cons]

theorem settled_group (mode : Mode) (first : Plan) (rest : List Plan) :
    (group mode first rest).settled = mode.settles ((first :: rest).map settled) := by
  rw [settled, settleds_eq_map, List.map_cons]

/-- What the plan hands up if no script in it is started. -/
def unbegun (p : Plan) : Outcome := if p.settled then .done ⟨.success, []⟩ else .cancelled []

theorem alerts_unbegun (p : Plan) : p.unbegun.alerts = [] := by
  simp only [unbegun]
  split <;> rfl

theorem execution_unbegun (p : Plan) : p.unbegun.execution p.name =
    if p.settled then ⟨.success, []⟩ else ⟨.partialSuccess, [.cancelled p.name]⟩ := by
  simp only [unbegun]
  split <;> rfl

end Plan

namespace Node

/-- No script in the tree has been started, no deadline in it has expired and nothing has come to
its caps. -/
inductive Dormant : Node → Prop
  | idle : Dormant (.leaf s .idle pr)
  | skipped : Dormant (.leaf s .skipped pr)
  | noop : Dormant (.noop seen)
  | group : (∀ n ∈ ns, Dormant n) → Dormant (.group mode ns g)
  | priority : Dormant r → Dormant o → Dormant (.priority r o dropped)
  | timeout : Dormant n → Dormant (.timeout d n false fired)
  | limit : quota.received = 0 → Dormant n → Dormant (.limit quota n stopped fired)
  | filter : Dormant n → Dormant (.filter allows n)

variable {p p' : Plan} {n n' k b : Node} {c : Context} {m : Move} {q : Path} {f : Flow} {i : Nat}
  {ts : List Moment} {o : Outcome} {mode : Mode} {ns : List Node} {g : Gathered}

namespace Dormant

theorem branch (h : n.Dormant) (hb : n.branches[i]? = some b) : b.Dormant := by
  have hmem := List.mem_of_getElem? hb
  cases h with
  | idle => cases hmem
  | skipped => cases hmem
  | noop => cases hmem
  | group h => exact h b hmem
  | priority hr ho =>
    rcases List.mem_cons.1 hmem with rfl | hmem
    · exact hr
    · rwa [List.mem_singleton.1 hmem]
  | timeout h => rwa [List.mem_singleton.1 hmem]
  | limit _ h => rwa [List.mem_singleton.1 hmem]
  | filter h => rwa [List.mem_singleton.1 hmem]

theorem at? (h : n.Dormant) (hk : n.at? q = some k) : k.Dormant := by
  induction q generalizing n with
  | nil =>
    cases hk
    exact h
  | cons i q ih =>
    obtain ⟨b, hb, hk⟩ := at?_cons_eq_some.1 hk
    exact ih (h.branch hb) hk

theorem not_waits (h : n.Dormant) (q : Path) : ¬n.Waits q := by
  rintro ⟨s, size, rest, pr, hs⟩
  cases h.at? hs

/-- Once its token has fired, such a tree can move until it has ended. -/
theorem next?_ne_none (h : n.Dormant) (hc : c.fired = true) (ho : n.outcome? = none) :
    n.next? c ≠ none := by
  intro hx
  have hended := Still.ended ⟨hx, h.not_waits⟩ hc
  rw [ho] at hended
  cases hended

end Dormant

theorem probesAll_middle (ms ns : List Node) (h : n'.probes = n.probes) :
    probesAll (ms ++ n' :: ns) = probesAll (ms ++ n :: ns) := by
  induction ms with
  | nil => simp only [List.nil_append, probesAll, h]
  | cons k ms ih => simp only [List.cons_append, probesAll, ih]

/-- A tree that is told to stop before it starts does nothing that shows. -/
theorem Moves.dormant (h : Moves m q c n n' f) (hc : c.fired = true) (hn : n.Dormant) :
    n'.Dormant ∧ f = .quiet ∧ n'.probes = n.probes := by
  induction h with
  | leaf h =>
    cases hn with
    | idle =>
      cases h with
      | skip => exact ⟨.skipped, rfl, rfl⟩
      | start hlive => simp [hc] at hlive
    | skipped => cases h
  | noop => exact ⟨.noop, rfl, rfl⟩
  | expire _ ho _ hx =>
    cases hn with
    | timeout hk =>
      exact absurd hx (hk.next?_ne_none (by simp [Context.branch, Context.scope, hc]) ho)
  | @group _ k k' _ _ _ ms ns _ h ih =>
    cases hn with
    | group hns =>
      rw [List.forall_mem_append, List.forall_mem_cons] at hns
      obtain ⟨hms, hk, hns⟩ := hns
      obtain ⟨hk', hf, hprobes⟩ := ih (by simp [Context.branch, Context.scope, hc]) hk
      refine ⟨.group ?_, hf, probesAll_middle ms ns hprobes⟩
      exact List.forall_mem_append.2 ⟨hms, List.forall_mem_cons.2 ⟨hk', hns⟩⟩
  | required h ih =>
    cases hn with
    | priority hr ho =>
      obtain ⟨hr', hf, hprobes⟩ := ih hc hr
      exact ⟨.priority hr' ho, hf, by simp only [probes, hprobes]⟩
  | optional h ih =>
    cases hn with
    | priority hr ho =>
      obtain ⟨ho', hf, hprobes⟩ := ih (by simp [Context.branch, Context.scope, hc]) ho
      exact ⟨.priority hr ho', hf, by simp only [probes, hprobes]⟩
  | timeout h ih =>
    cases hn with
    | timeout hk =>
      obtain ⟨hk', hf, hprobes⟩ := ih (by simp [Context.branch, Context.scope, hc]) hk
      exact ⟨.timeout hk', hf, by simp only [probes, hprobes]⟩
  | limit h ih =>
    cases hn with
    | limit hnone hk =>
      obtain ⟨hk', rfl, hprobes⟩ :=
        ih (by simp [Context.branch, Context.scope, Context.through, hc]) hk
      exact ⟨.limit hnone hk', rfl, by simp only [probes, hprobes]⟩
  | filter h ih =>
    cases hn with
    | filter hk =>
      obtain ⟨hk', rfl, hprobes⟩ := ih (by simp [Context.branch, Context.through, hc]) hk
      exact ⟨.filter hk', rfl, by simp only [probes, hprobes]⟩

theorem dormant_of_follow (h : n.follow ts = some k) (hts : ∀ t ∈ ts, t.context.fired = true)
    (hn : n.Dormant) : k.Dormant ∧ k.probes = n.probes := by
  induction ts generalizing n with
  | nil =>
    cases h
    exact ⟨hn, rfl⟩
  | cons t ts ih =>
    rw [List.forall_mem_cons] at hts
    obtain ⟨n₁, f, ht, h⟩ := follow_cons_eq_some.1 h
    obtain ⟨hn₁, -, hprobes⟩ := (meet_eq_some.1 ht).dormant hts.1 hn
    obtain ⟨hk, hprobes'⟩ := ih h hts.2 hn₁
    exact ⟨hk, hprobes'.trans hprobes⟩

theorem dormant_rearm (n : Node) : n.rearm.Dormant := by
  induction n with
  | leaf s ph pr => exact .idle
  | noop seen => exact .noop
  | group mode ns g ih =>
    rw [rearm, rearms_eq_map]
    exact .group (List.forall_mem_map.2 ih)
  | priority r o dropped ihr iho => exact .priority ihr iho
  | timeout d n expired fired ih => exact .timeout ih
  | limit quota n stopped fired ih => exact .limit rfl ih
  | filter allows n ih => exact .filter ih

theorem Ready.dormant (hn : Ready p n) : n.Dormant := hn.rearm_eq ▸ dormant_rearm n

theorem reports_of_unbegun {st : Status} (h : b.outcome? = some p.unbegun) :
    b.Reports st ↔ st = .success ∧ p.settled = true := by
  rw [Reports, h, Plan.unbegun]
  cases p.settled <;> simp [eq_comm]

theorem gaveUp_of_unbegun (h : b.outcome? = some p.unbegun) : b.GaveUp ↔ p.settled = false := by
  rw [GaveUp, h, Plan.unbegun]
  cases p.settled <;> simp

/-- The branches have come to what their plans give if no script is started. -/
structure Unbegun (ps : List Plan) (ns : List Node) : Prop where
  plans : ∀ p ∈ ps, ∃ b ∈ ns, b.outcome? = some p.unbegun
  nodes : ∀ b ∈ ns, ∃ p ∈ ps, b.outcome? = some p.unbegun

namespace Unbegun

variable {ps : List Plan}

theorem exists_iff (h : Unbegun ps ns) {P : Node → Prop} {Q : Plan → Prop}
    (hPQ : ∀ {p b}, b.outcome? = some p.unbegun → (P b ↔ Q p)) :
    (∃ b ∈ ns, P b) ↔ ∃ p ∈ ps, Q p := by
  constructor
  · rintro ⟨b, hb, hP⟩
    obtain ⟨p, hp, ho⟩ := h.nodes b hb
    exact ⟨p, hp, (hPQ ho).1 hP⟩
  · rintro ⟨p, hp, hQ⟩
    obtain ⟨b, hb, ho⟩ := h.plans p hp
    exact ⟨b, hb, (hPQ ho).2 hQ⟩

theorem exists_reports (h : Unbegun ps ns) (st : Status) : (∃ b ∈ ns, b.Reports st) ↔
    st = .success ∧ true ∈ ps.map Plan.settled := by
  rw [h.exists_iff reports_of_unbegun, List.mem_map]
  constructor
  · rintro ⟨p, hp, hst, hsettled⟩
    exact ⟨hst, p, hp, hsettled⟩
  · rintro ⟨hst, p, hp, hsettled⟩
    exact ⟨p, hp, hst, hsettled⟩

theorem exists_gaveUp (h : Unbegun ps ns) : (∃ b ∈ ns, b.GaveUp) ↔
    false ∈ ps.map Plan.settled := by
  rw [h.exists_iff gaveUp_of_unbegun, List.mem_map]

theorem raised_eq_nil (h : Unbegun ps ns) : ns.flatMap raised = [] := by
  rw [List.flatMap_eq_nil_iff]
  intro b hb
  obtain ⟨p, -, ho⟩ := h.nodes b hb
  rw [raised_eq ho, p.alerts_unbegun]

end Unbegun

/-- A group none of whose branches has begun comes to what its own plan gives then. -/
theorem Unbegun.outcome_eq {first : Plan} {rest : List Plan} (h : Unbegun (first :: rest) ns)
    (hheard : g.Heard mode ns) : g.outcome mode = (Plan.group mode first rest).unbegun := by
  obtain ⟨halerts, hknows⟩ := hheard
  simp only [h.exists_reports, h.exists_gaveUp] at hknows
  rw [h.raised_eq_nil] at halerts
  rw [Plan.unbegun, Plan.settled_group, hknows.outcome_eq (List.cons_ne_nil _ _),
    halerts.eq_nil]

theorem preferred_unbegun (name : String) (dropped : Bool) (r b : Plan) :
    preferred name dropped r.unbegun b.unbegun = r.unbegun := by
  rw [Plan.unbegun, Plan.unbegun]
  cases r.settled <;> cases b.settled <;> cases dropped <;> rfl

theorem Ready.exists_branch_of_follow (hn : Ready p n) (h : n.follow ts = some k)
    (hp : p.children[i]? = some p') : ∃ b a us, k.branches[i]? = some b ∧ Ready p' a ∧
      a.follow us = some b := by
  obtain ⟨a, ha, hready⟩ := hn.branch hp
  obtain ⟨b, hb, hf⟩ := follow_share h ha
  exact ⟨b, a, _, hb, hready, hf⟩

/-- So the outcome of such a tree is read off its plan. -/
theorem Ready.outcome_of_dormant (hn : Ready p n) (h : n.follow ts = some k) (hk : k.Dormant)
    (ho : k.outcome? = some o) : o = p.unbegun := by
  induction p using Plan.child_induction generalizing n k ts o with
  | step p ih =>
    have hdoes := does_of_follow h hn.does
    have hbranch {i : Nat} {p' : Plan} {b : Node} (hp : p.children[i]? = some p')
        (hb : k.branches[i]? = some b) : b.outcome? = some p'.unbegun := by
      obtain ⟨b', a, us, hb', hready, hf⟩ := hn.exists_branch_of_follow h hp
      obtain rfl : b' = b := Option.some.inj (hb'.symm.trans hb)
      obtain ⟨o', ho'⟩ := Option.isSome_iff_exists.1 (ended_branch (by rw [ho]; rfl) hb)
      rw [ho', ih p' (List.mem_of_getElem? hp) hready hf (hk.branch hb) ho']
    have hlen : k.branches.length = p.children.length :=
      (length_branches_of_follow h).trans hn.length_branches
    cases k with
    | leaf s ph pr =>
      cases p <;> cases hdoes
      cases hk with
      | idle => cases ho
      | skipped =>
        cases ho
        rfl
    | noop seen =>
      cases p <;> cases hdoes
      cases seen with
      | true =>
        cases ho
        rfl
      | false => cases ho
    | group mode ns g =>
      cases p <;> cases hdoes
      simp only [outcome?] at ho
      split at ho <;> cases ho
      refine Unbegun.outcome_eq ⟨?_, ?_⟩ (hn.heard h)
      · intro p hp
        obtain ⟨i, b, hp, hb⟩ := exists_same_place hlen hp
        exact ⟨b, List.mem_of_getElem? hb, hbranch hp hb⟩
      · intro b hb
        obtain ⟨i, p, hb, hp⟩ := exists_same_place hlen.symm hb
        exact ⟨p, List.mem_of_getElem? hp, hbranch hp hb⟩
    | priority r b dropped =>
      cases p <;> cases hdoes
      simp only [outcome?, hbranch (i := 0) rfl rfl, hbranch (i := 1) rfl rfl] at ho
      cases ho
      rw [preferred_unbegun]
      rfl
    | timeout d b expired fired =>
      cases p <;> cases hdoes
      cases hk with
      | timeout =>
        rw [outcome?, hbranch (i := 0) rfl rfl] at ho
        cases ho
        rfl
    | limit quota b stopped fired =>
      cases p with
      | limit count hc p =>
        obtain rfl : quota.limit = count := hdoes
        cases hk with
        | limit hnone =>
          rw [outcome?, hbranch (i := 0) rfl rfl] at ho
          cases ho
          simp [capped, Quota.reached, hnone, Nat.not_le.2 hc]
          rfl
      | _ => cases hdoes
    | filter allows b =>
      cases p <;> cases hdoes
      rw [outcome?, hbranch (i := 0) rfl rfl] at ho
      cases ho
      rfl

theorem length_add_work_le (h : n.follow ts = some k) (now : Nat) :
    ts.length + k.work now ≤ n.work now := by
  induction ts generalizing n with
  | nil =>
    cases h
    simp
  | cons t ts ih =>
    obtain ⟨n₁, f, ht, h⟩ := follow_cons_eq_some.1 h
    have hlt := (meet_eq_some.1 ht).work_lt now
    have hle := ih h
    rw [List.length_cons]
    omega

end Node

namespace Run

variable {p : Plan} {n : Node} {r r' k : Run} {e : Event} {ts : List Moment}

/-- A run in which nothing has begun and nothing will. -/
structure Dormant (r : Run) : Prop where
  fired : r.fired = true
  tree : r.tree.Dormant
  received : r.received = []
  pending : r.pending = 0
  onset : r.outcome? = none → r.now = 0

theorem dormant_direct (hn : Node.Ready p n) {caller : Caller} (hc : caller.cancelAt = some 0) :
    (direct n caller).Dormant where
  fired := by simp [direct, hc]
  tree := hn.dormant
  received := rfl
  pending := rfl
  onset _ := rfl

theorem dormant_spawned (hn : Node.Ready p n) {caller : Caller} (hc : caller.cancelAt = some 0)
    (sub : Subscription) : (spawned n caller sub).Dormant := by
  refine ⟨by simp [spawned, direct, hc], hn.dormant, ?_, ?_, fun _ => rfl⟩
  · simp only [Run.received, spawned]
    split <;> rfl
  · simp only [pending, spawned]
    split <;> rfl

namespace Dormant

theorem buffer_eq_nil {ch : Channel} (h : r.Dormant) (ho : r.outlet = .channel ch) :
    ch.buffer = [] := by
  have hnone := h.received
  rw [Run.received, ho] at hnone
  exact (List.append_eq_nil_iff.1 hnone).2

/-- As long as the tree has not ended it can move, and nothing but its moves can happen. -/
theorem nextMove?_ne_none (h : r.Dormant) (ho : r.outcome? = none) : r.nextMove? ≠ none :=
  h.tree.next?_ne_none (by rw [context_fired, h.fired]) ho

theorem happens (h : r.Dormant) (he : Happens r e r') :
    r'.Dormant ∧ r'.tree.probes = r.tree.probes ∧
      (r.outcome? = none → (∃ q m, e = .move q m) ∧ r'.now = r.now) := by
  cases he with
  | @move m q n f hm =>
    obtain ⟨hn, rfl, hprobes⟩ := hm.dormant (by rw [context_fired, h.fired]) h.tree
    have houtlet : r.outlet.accept q (r.pass .quiet).2.1 = r.outlet := by
      rw [pass_quiet]
      rfl
    simp only [houtlet]
    refine ⟨⟨?_, hn, h.received, h.pending, fun _ => h.onset hm.outcome?_eq_none⟩, hprobes,
      fun _ => ⟨⟨q, m, rfl⟩, trivial⟩⟩
    simp only [h.fired, Bool.true_or]
  | cancel hf =>
    rw [h.fired] at hf
    cases hf
  | @read ch b ch' hgone hdue ho hread =>
    have hnone := h.buffer_eq_nil ho
    obtain rfl := Channel.eq_of_read hread
    cases hnone
  | leave hgone hdue ho hread hend =>
    have hended : r.outcome? ≠ none := Option.ne_none_iff_isSome.2 hend
    exact ⟨⟨h.fired, h.tree, h.received, h.pending, fun hopen => absurd hopen hended⟩, rfl,
      fun hopen => absurd hopen hended⟩
  | tick hx =>
    have hended : r.outcome? ≠ none := fun hopen => h.nextMove?_ne_none hopen hx
    exact ⟨⟨h.fired, h.tree, h.received, h.pending, fun hopen => absurd hopen hended⟩, rfl,
      fun hopen => absurd hopen hended⟩

theorem unfolds (h : r.Dormant) (hts : r.Unfolds ts r') :
    r'.Dormant ∧ r'.tree.probes = r.tree.probes := by
  induction hts with
  | refl => exact ⟨h, rfl⟩
  | event _ he ih =>
    obtain ⟨hk, hprobes⟩ := ih
    obtain ⟨hr', hprobes', -⟩ := hk.happens (happens_of_step he).2
    exact ⟨hr', hprobes'.trans hprobes⟩
  | pause _ ih =>
    obtain ⟨hk, hprobes⟩ := ih
    exact ⟨⟨hk.fired, hk.tree, hk.received, hk.pending, hk.onset⟩, hprobes⟩
  | @drop _ k _ _ ih =>
    obtain ⟨hk, hprobes⟩ := ih
    have hreceived : k.drop.received <+: k.received := by
      rw [Run.received, Run.received, Run.drop]
      cases k.outlet with
      | collector held => exact List.prefix_rfl
      | channel ch => exact (List.prefix_append_right_inj _).2 List.nil_prefix
    have hpending : k.drop.pending ≤ k.pending := by
      rw [Run.pending, Run.pending, Run.drop]
      cases k.outlet with
      | collector held => exact Nat.le_refl _
      | channel ch => exact Nat.add_le_add_right (Nat.zero_le _) _
    rw [hk.received, List.prefix_nil] at hreceived
    rw [hk.pending, Nat.le_zero] at hpending
    exact ⟨⟨hk.fired, hk.tree, hreceived, hpending, hk.onset⟩, hprobes⟩

/-- It comes to its end by moves alone, without waiting. -/
theorem exists_ended (h : r.Dormant) :
    ∃ es k, (∀ e ∈ es, ∃ q m, e = .move q m) ∧ r.follow es = some k ∧ k.outcome?.isSome ∧
      k.now = r.now := by
  induction hw : r.work using Nat.strongRecOn generalizing r with
  | ind w ih =>
    cases ho : r.outcome? with
    | some o => exact ⟨[], r, nofun, rfl, by rw [ho]; rfl, rfl⟩
    | none =>
      obtain ⟨⟨q, m⟩, hx⟩ := Option.ne_none_iff_exists'.1 (h.nextMove?_ne_none ho)
      obtain ⟨n, f, hm⟩ := Node.exists_moves_of_next? hx
      have he := Happens.move hm
      obtain ⟨es, k, hes, hfollow, hk, hnow⟩ := ih _ (hw ▸ he.work_lt) (h.happens he).1 rfl
      refine ⟨.move q m :: es, k, List.forall_mem_cons.2 ⟨⟨q, m, rfl⟩, hes⟩, ?_, hk, hnow⟩
      exact follow_cons_eq_some.2 ⟨_, he.step (finished_of_open ho), hfollow⟩

end Dormant

/-- If the caller's token has fired before a run starts, nothing in it begins, whatever its sink and
the order of events. -/
theorem nothing_begins (hn : Node.Ready p n) :
    -- in any world in which the token of the tree has fired
    (∀ ts k, n.follow ts = some k → (∀ t ∈ ts, t.context.fired = true) →
      -- no move reaches the sink or a probe
      (∀ t k' f, k.meet t = some (k', f) → t.context.fired = true →
        f = .quiet ∧ k'.probes = n.probes) ∧
      -- the tree need not wait for anything before it has ended, and does not go on for ever
      (∀ c, c.fired = true → k.outcome? = none → k.next? c ≠ none) ∧
      (∀ now, ts.length + k.work now ≤ n.work now) ∧
      ∀ o, k.outcome? = some o → o.execution p.name =
        if p.settled then ⟨.success, []⟩ else ⟨.partialSuccess, [.cancelled p.name]⟩) ∧
    -- and in the runs of it by a caller who has cancelled them before
    ∀ caller r ts r', caller.cancelAt = some 0 →
      (r = direct n caller ∨ ∃ sub, r = spawned n caller sub) → r.Unfolds ts r' →
      r'.tree.probes = n.probes ∧ r'.received = [] ∧ r'.pending = 0 ∧
      -- nothing but the moves of the tree happens before it has ended, all of it at once
      (r'.outcome? = none → r'.now = 0 ∧
        (∀ e k, r'.step e = some k → (∃ q m, e = .move q m) ∧ k.now = 0) ∧
        ∃ es k, r'.follow es = some k ∧ k.outcome?.isSome ∧ k.now = 0) ∧
      ∀ x, r'.execution? = some x →
        x = if p.settled then ⟨.success, []⟩ else ⟨.partialSuccess, [.cancelled p.name]⟩ := by
  constructor
  · intro ts k hts hfired
    obtain ⟨hk, hprobes⟩ := Node.dormant_of_follow hts hfired hn.dormant
    refine ⟨?_, fun c => hk.next?_ne_none, Node.length_add_work_le hts, ?_⟩
    · intro t k' f ht hc
      obtain ⟨-, hf, hprobes'⟩ := (Node.meet_eq_some.1 ht).dormant hc hk
      exact ⟨hf, hprobes'.trans hprobes⟩
    · intro o ho
      rw [hn.outcome_of_dormant hts hk ho, p.execution_unbegun]
  · intro caller r ts r' hc hr hts
    obtain ⟨htree, hdormant⟩ : r.tree = n ∧ r.Dormant := by
      rcases hr with rfl | ⟨sub, rfl⟩
      · exact ⟨rfl, dormant_direct hn hc⟩
      · exact ⟨rfl, dormant_spawned hn hc sub⟩
    obtain ⟨hr', hprobes⟩ := hdormant.unfolds hts
    rw [htree] at hprobes
    have hfollow := hts.follow
    rw [htree] at hfollow
    refine ⟨hprobes, hr'.received, hr'.pending, fun ho => ⟨hr'.onset ho, ?_, ?_⟩, ?_⟩
    · intro e k he
      obtain ⟨-, -, hmove⟩ := hr'.happens (happens_of_step he).2
      obtain ⟨hm, hnow⟩ := hmove ho
      exact ⟨hm, hnow.trans (hr'.onset ho)⟩
    · obtain ⟨es, k, -, hes, hk, hnow⟩ := hr'.exists_ended
      exact ⟨es, k, hes, hk, hnow.trans (hr'.onset ho)⟩
    · intro x hx
      obtain ⟨o, ho, rfl⟩ := Option.map_eq_some_iff.1 hx
      rw [hn.outcome_of_dormant hfollow hr'.tree ho, (Node.does_of_follow hfollow hn.does).name,
        p.execution_unbegun]

end Run

/-! A search that nobody needs: a job with nothing to do stands in for its first branch, under a
deadline that is due at once, and the other branch is optional. -/

namespace Forestalled

def slow : Script := { name := "slow", steps := [.sleep (.ofMillis 5), .emit [.ofRepo "a"]] }

def plan : Plan :=
  .priority (.timeout ⟨0⟩ (.group .or (.leaf slow) [.noop])) (.limit 1 Nat.one_pos (.leaf slow))

def caller : Caller := { cancelAt := some 0 }

def listener : Subscription := { buffer := 1, pause := .ofMillis 3 }

theorem settled_at_once : caller.cancelAt = some 0 ∧ plan.settled = true ∧ ∃ ts,
    (Run.spawned (.ofPlan plan) caller listener).Unfolds ts (plan.spawn caller listener) ∧
    (plan.spawn caller listener).tree.probes = [("slow", {}), ("slow", {})] ∧
    (plan.spawn caller listener).received = [] ∧
    (plan.spawn caller listener).execution? = some ⟨.success, []⟩ := by
  obtain ⟨es, hes⟩ := Run.exists_follow_eq_advance _ .caller
    (.spawned (.ofPlan plan) caller listener)
  have hunfolds := Run.unfolds_of_follow hes
  obtain ⟨-, hruns⟩ := Run.nothing_begins (p := plan) .first
  obtain ⟨hprobes, hreceived, -, -, hresult⟩ :=
    hruns caller _ _ _ rfl (.inr ⟨listener, rfl⟩) hunfolds
  have hended : (plan.spawn caller listener).execution?.isSome := by decide +kernel
  obtain ⟨x, hx⟩ := Option.isSome_iff_exists.1 hended
  refine ⟨rfl, rfl, _, hunfolds, hprobes, hreceived, ?_⟩
  exact hx.trans (congrArg some (hresult x hx))

end Forestalled

end SearchPlan
