import SearchPlan.Proofs.Node.Script
import SearchPlan.Proofs.Plan.Above
import SearchPlan.Proofs.Run.Happens

/-! What a full success says of the scripts in a plan. A script that every job above it needs has
then run to its end, and its matches have come through, unless two caps stood above it. -/

namespace SearchPlan

namespace Plan

/-- Whether the outermost job succeeds only if its branch at position `i` does. -/
def needs (i : Nat) : Plan → Bool
  | .group .or _ _ => false
  | .priority _ _ => i = 0
  | _ => true

/-- Each job on the way to the path needs the next one. -/
def Mandatory : Path → Plan → Prop
  | [], _ => True
  | i :: q, p => p.needs i = true ∧ ∀ b, p.children[i]? = some b → b.Mandatory q

end Plan

theorem Mode.eq_success_of_verdict {mode : Mode} {sts : List Status} {st : Status}
    (hmode : mode ≠ .or) (h : mode.verdict sts = .success)
    (hsts : ∀ st ∈ sts, mode.decisive ≠ some st) (hst : st ∈ sts) : st = .success := by
  cases mode with
  | or => exact absurd rfl hmode
  | and =>
    cases st with
    | success => rfl
    | partialSuccess => simp [verdict, hst] at h
    | failure => exact absurd rfl (hsts _ hst)
  | parallel =>
    simp only [verdict] at h
    split at h
    case isTrue hall => simpa using List.all_eq_true.1 hall st hst
    case isFalse => split at h <;> cases h

/-- A group that needs its branches succeeds only undecided, and only if all of them do. -/
theorem Gathered.Heard.all_success {mode : Mode} {ns : List Node} {g : Gathered} {as : List Alert}
    (h : g.Heard mode ns) (hmode : mode ≠ .or) (hended : ∀ n ∈ ns, n.outcome?.isSome)
    (ho : g.outcome mode = .done ⟨.success, as⟩) :
    g.decision = none ∧ ∀ n ∈ ns, n.Reports .success := by
  have hdecision : g.decision = none := by
    cases hd : g.decision with
    | none => rfl
    | some st =>
      simp only [outcome, hd, Outcome.done.injEq, Execution.mk.injEq] at ho
      obtain ⟨hdecisive, -⟩ := h.knows.decided st hd
      rw [ho.1] at hdecisive
      cases mode <;> simp_all [Mode.decisive]
  simp only [outcome, hdecision] at ho
  split at ho
  case isTrue => cases ho
  case isFalse hinterrupted =>
    simp only [Outcome.done.injEq, Execution.mk.injEq] at ho
    refine ⟨hdecision, fun n hn => ?_⟩
    obtain ⟨o, hno⟩ := Option.isSome_iff_exists.1 (hended n hn)
    cases o with
    | cancelled as' =>
      exact absurd ((h.knows.interrupted hdecision).2 ⟨n, hn, as', hno⟩) hinterrupted
    | done e =>
      have hreports : ∃ n ∈ ns, n.Reports e.status := ⟨n, hn, e.alerts, hno⟩
      have hmem := (h.knows.statuses hdecision _).2 hreports
      have hsuccess := Mode.eq_success_of_verdict hmode ho.1
        (fun st hst => h.knows.undecided hdecision st ((h.knows.statuses hdecision st).1 hst)) hmem
      exact ⟨e.alerts, by rw [hno, ← hsuccess]⟩

namespace Node

variable {p : Plan} {n n' k b : Node} {c : Context} {m : Move} {q r : Path} {f : Flow} {i : Nat}
  {ts : List Moment} {s : Script} {as : List Alert}

theorem of_preferred_success {name : String} {dropped : Bool} {ro bo : Outcome}
    (h : preferred name dropped ro bo = .done ⟨.success, as⟩) :
    ∃ as, ro = .done ⟨.success, as⟩ := by
  cases ro with
  | cancelled as => cases h
  | done e =>
    obtain ⟨as', hp⟩ := preferred_done name dropped e bo
    rw [hp, Outcome.done.injEq, Execution.mk.injEq] at h
    exact ⟨e.alerts, by rw [← h.1]⟩

theorem of_timed_success {child : String} {d : Duration} {expired fired : Bool} {bo : Outcome}
    (h : timed child d expired fired bo = .done ⟨.success, as⟩) :
    expired = false ∧ bo = .done ⟨.success, as⟩ := by
  cases expired with
  | false => exact ⟨rfl, h⟩
  | true => cases fired <;> cases h

theorem of_capped_success {child : String} {quota : Quota} {fired : Bool} {bo : Outcome}
    (h : capped child quota fired bo = .done ⟨.success, as⟩) :
    (∃ as, bo = .done ⟨.success, as⟩) ∧ (fired = false → quota.truncated = false) := by
  simp only [capped] at h
  split at h
  case isTrue hopen =>
    refine ⟨⟨as, h⟩, ?_⟩
    rintro rfl
    simp only [Bool.or_false, Bool.not_eq_true', Quota.reached, decide_eq_false_iff_not] at hopen
    simp only [Quota.truncated, decide_eq_false_iff_not]
    omega
  case isFalse =>
    cases bo with
    | cancelled as => cases h
    | done e =>
      obtain ⟨st, as⟩ := e
      cases st <;> cases ht : quota.truncated <;> simp_all

/-- A node that succeeds does so with each branch it needs, and tells it to stop only as a cap. -/
theorem Reached.branch_of_success (h : Reached p n) (hs : n.Reports .success)
    (hi : p.needs i = true) (hb : n.branches[i]? = some b) :
    b.Reports .success ∧ (p.caps = 0 → n.stops i = false) := by
  have hdoes := h.does
  obtain ⟨as, ho⟩ := hs
  cases n with
  | leaf => simp [branches] at hb
  | noop => simp [branches] at hb
  | group mode ns g =>
    cases p with
    | group mode' first rest =>
      obtain rfl : mode = mode' := hdoes
      simp only [outcome?] at ho
      split at ho
      case isTrue hended =>
        have hmode : mode ≠ .or := by
          rintro rfl
          cases hi
        obtain ⟨hdecision, hall⟩ :=
          h.heard.all_success hmode (ended_eq_true.1 hended) (Option.some.inj ho)
        exact ⟨hall b (List.mem_of_getElem? hb), fun _ => by simp [stops, hdecision]⟩
      case isFalse => cases ho
    | _ => cases hdoes
  | priority required optional dropped =>
    cases p with
    | priority =>
      obtain rfl : i = 0 := by simpa [Plan.needs] using hi
      obtain rfl : required = b := by simpa [branches] using hb
      simp only [outcome?] at ho
      split at ho
      case h_1 ro bo hro hbo =>
        obtain ⟨as, rfl⟩ := of_preferred_success (Option.some.inj ho)
        exact ⟨⟨as, hro⟩, fun _ => rfl⟩
      case h_2 => cases ho
    | _ => cases hdoes
  | timeout d k expired fired =>
    obtain rfl : b = k := List.mem_singleton.1 (List.mem_of_getElem? hb)
    obtain ⟨bo, hbo, ho⟩ := Option.map_eq_some_iff.1 ho
    obtain ⟨rfl, rfl⟩ := of_timed_success ho
    exact ⟨⟨as, hbo⟩, fun _ => rfl⟩
  | limit quota k stopped fired =>
    cases p with
    | limit =>
      obtain rfl : b = k := List.mem_singleton.1 (List.mem_of_getElem? hb)
      obtain ⟨bo, hbo, ho⟩ := Option.map_eq_some_iff.1 ho
      obtain ⟨⟨as, rfl⟩, -⟩ := of_capped_success ho
      exact ⟨⟨as, hbo⟩, by simp [Plan.caps]⟩
    | _ => cases hdoes
  | filter allows k =>
    obtain rfl : b = k := List.mem_singleton.1 (List.mem_of_getElem? hb)
    exact ⟨⟨as, ho⟩, fun _ => rfl⟩

def late : Node → Bool
  | .limit _ _ _ fired => fired
  | _ => false

theorem Moves.late (h : Moves m r c n n' f) (hc : c.fired = false) (hn : n.late = false) :
    n'.late = false := by
  cases h with
  | limit h => exact hc
  | _ => exact hn

theorem late_ofPlan (p : Plan) : (ofPlan p).late = false := by
  cases p <;> rfl

theorem late_of_follow (h : n.follow ts = some n') (hn : n.late = false)
    (hts : ∀ t ∈ ts, t.context.fired = false) : n'.late = false := by
  induction ts generalizing n with
  | nil => cases h; exact hn
  | cons t ts ih =>
    obtain ⟨k, f, ht, hk⟩ := follow_cons_eq_some.1 h
    obtain ⟨hc, hts⟩ := List.forall_mem_cons.1 hts
    exact ih hk ((meet_eq_some.1 ht).late hc hn) hts

theorem cuts_of_success (hs : n.Reports .success) (hn : n.late = false) : n.cuts = false := by
  obtain ⟨as, ho⟩ := hs
  cases n with
  | limit quota b stopped fired =>
    obtain ⟨bo, -, ho⟩ := Option.map_eq_some_iff.1 ho
    exact (of_capped_success ho).2 hn
  | _ => rfl

/-- A script has run to its end, and has handed over all its matches that were let through. -/
def Completes (q : Path) (s : Script) (ts : List Moment) (p : Plan) (n : Node) : Prop :=
  (∃ fired, n.at? q = some (.leaf s (.returned (.finished .success) fired)
    { runs := 1, emitted := s.batches.flatten.length, stopped := false })) ∧
  (ofPlan p).takes q ts = s.steps ∧
  (ofPlan p).handed q ts = s.batches.flatten.filter (p.allowed q)

theorem completes_leaf (h : (ofPlan (.leaf s)).follow ts = some n) (hs : n.Reports .success) :
    n.Completes [] s ts (.leaf s) := by
  obtain ⟨ph, pr, rfl, hupto, hhanded⟩ := upto_of_follow h
  obtain ⟨as, ho⟩ := hs
  obtain ⟨⟨fired, rfl⟩, hsteps, rfl⟩ := hupto.of_success ho
  refine ⟨⟨fired, ?_⟩, hsteps, ?_⟩
  · rw [Script.flatten_batches]
    rfl
  · rw [ofPlan, hhanded, hsteps, Plan.filter_allowed_nil, Script.flatten_batches]

/-- Going down the path, the one cap that may be there is met while the token has not fired. Below
it no cap is left, and the token does not matter. -/
theorem completes_of_success (h : (ofPlan p).follow ts = some n) (hs : n.Reports .success)
    (hm : p.Mandatory q) (hq : p.at? q = some (.leaf s))
    (hcaps : p.capsAbove q = 0 ∨ p.capsAbove q ≤ 1 ∧ ∀ t ∈ ts, t.context.fired = false) :
    n.Completes q s ts p := by
  induction q generalizing p n ts with
  | nil =>
    cases hq
    exact completes_leaf h hs
  | cons i q ih =>
    obtain ⟨p', hp', hq⟩ := Plan.at?_cons_eq_some.1 hq
    have hb := branch_ofPlan hp'
    obtain ⟨b, hb', hf⟩ := follow_share h hb
    have hdoes := Reached.does ⟨ts, h⟩
    obtain ⟨hbs, hstops⟩ := Reached.branch_of_success ⟨ts, h⟩ hs hm.1 hb'
    rw [Plan.capsAbove_cons hp'] at hcaps
    have hcuts : n.cuts = false := by
      rcases hcaps with hcaps | ⟨-, hts⟩
      · exact hdoes.cuts (by omega)
      · exact cuts_of_success hs (late_of_follow h (late_ofPlan p) hts)
    -- a cap fires the token below it, but it is the only one
    have hbelow : p'.capsAbove q = 0 ∨
        p'.capsAbove q ≤ 1 ∧ ∀ t ∈ (ofPlan p).share i ts, t.context.fired = false := by
      rcases hcaps with hcaps | ⟨hcaps, hts⟩
      · exact .inl (by omega)
      · by_cases hp : p.caps = 0
        · exact .inr ⟨by omega, not_fired_share h (hstops hp) hts⟩
        · exact .inl (by omega)
    obtain ⟨⟨fired, hat⟩, htakes, hhanded⟩ := ih hf hbs (hm.2 p' hp') hq hbelow
    refine ⟨⟨fired, at?_cons_eq_some.2 ⟨b, hb', hat⟩⟩, ?_, ?_⟩
    · rw [takes_cons hb, htakes]
    · rw [handed_share h hcuts hb, hhanded, (does_ofPlan p).lets, Plan.filter_allowed_cons hp']

/-- If a plan comes to a full success while the token never fires, every script that it needs and
that has at most one cap above it is complete. -/
theorem complete_of_status_success {o : Outcome} (h : (ofPlan p).follow ts = some n)
    (hts : ∀ t ∈ ts, t.context.fired = false) (ho : n.outcome? = some o)
    (hs : (o.execution n.name).status = .success) (hm : p.Mandatory q)
    (hq : p.at? q = some (.leaf s)) (hcaps : p.capsAbove q ≤ 1) : n.Completes q s ts p := by
  apply completes_of_success h _ hm hq (.inr ⟨hcaps, hts⟩)
  cases o with
  | cancelled as => cases hs
  | done e => exact ⟨e.alerts, by rw [ho, ← hs]; rfl⟩

end Node

/-- The same for a run whose caller never fires the token. -/
theorem Run.completes_of_success {r r' : Run} {es : List Event} {p : Plan} {q : Path} {s : Script}
    {as : List Alert} (ht : r.tree = .ofPlan p) (h : r.follow es = some r') (hr : r'.fired = false)
    (hs : r'.outcome? = some (.done ⟨.success, as⟩)) (hm : p.Mandatory q)
    (hq : p.at? q = some (.leaf s)) (hcaps : p.capsAbove q ≤ 1) :
    r'.tree.Completes q s (r.moments es) p := by
  have hfollow := follow_moments h
  rw [ht] at hfollow
  exact Node.completes_of_success hfollow ⟨as, hs⟩ hm hq (.inr ⟨hcaps, not_fired_moments h hr⟩)

/-! A cap that what comes through the checker below it just fills. -/

namespace Filled

def text : Script := { name := "text", steps := [.sleep ⟨0⟩, .emit [.ofRepo "a", .ofPath "a" "b"]] }

def plan : Plan := .limit 1 Nat.one_pos (.filter (fun m => m.kind = .repo) (.leaf text))

def moments : List Moment := List.replicate 4 ⟨.calm, [0, 0], .act⟩

def tree : Node := .limit ⟨1, 1⟩ (.filter (fun m => m.kind = .repo)
  (.leaf text (.returned (.finished .success) true) { runs := 1, emitted := 2 })) true false

theorem text_complete : tree.Completes [0, 0] text moments plan := by
  have hfollow : (Node.ofPlan plan).follow moments = some tree := rfl
  have hquiet : ∀ t ∈ moments, t.context.fired = false := by
    intro t ht
    rw [List.eq_of_mem_replicate ht]
    rfl
  have hmandatory : plan.Mandatory [0, 0] := by
    refine ⟨rfl, ?_⟩
    rintro b ⟨⟩
    refine ⟨rfl, ?_⟩
    rintro b ⟨⟩
    trivial
  exact Node.complete_of_status_success hfollow hquiet rfl rfl hmandatory rfl (by decide)

end Filled

end SearchPlan
