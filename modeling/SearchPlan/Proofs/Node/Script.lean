import SearchPlan.Proofs.Node.Gathering

/-! What a script does in a history of its tree: the steps it goes into, one after the other, and
the matches it hands over by them. -/

namespace SearchPlan

def Step.yield : Step → Batch
  | .sleep _ => []
  | .emit b => b

theorem Script.flatten_batches (s : Script) : s.batches.flatten = s.steps.flatMap Step.yield := by
  rw [batches]
  induction s.steps with
  | nil => rfl
  | cons st rest ih => cases st <;> simpa [Step.yield] using ih

theorem Ending.eq_of_success {e : Ending} {name : String} {fired : Bool} {as : List Alert}
    (h : e.outcome name fired = .done ⟨.success, as⟩) : e = .finished .success := by
  cases e with
  | finished status => cases status <;> cases fired <;> simp_all [outcome]
  | failed e => cases fired <;> simp_all [outcome]

def Probe.ofSteps (taken : List Step) : Probe :=
  { runs := 1, emitted := (taken.flatMap Step.yield).length }

@[simp] theorem Probe.ofSteps_sleep (taken : List Step) (d : Duration) :
    ofSteps (taken ++ [.sleep d]) = ofSteps taken := by
  simp [ofSteps, Step.yield]

@[simp] theorem Probe.ofSteps_emit (taken : List Step) (b : Batch) :
    ofSteps (taken ++ [.emit b]) = (ofSteps taken).emit b.length := by
  simp [ofSteps, Step.yield, emit]

namespace Phase

/-- The step that a script goes into on its way from one phase to the next. -/
def enters : Phase → Phase → List Step
  | .running (_ :: _), .returned _ _ => []
  | .running (st :: _), _ => [st]
  | _, _ => []

/-- What a script has come to by the steps it has taken. -/
inductive Upto (s : Script) : Phase → Probe → List Step → Prop
  | idle : Upto s .idle {} []
  | running : taken ++ rest = s.steps → pr = .ofSteps taken → Upto s (.running rest) pr taken
  | sleeping : taken ++ rest = s.steps → pr = .ofSteps taken →
      Upto s (.sleeping wakeAt rest) pr taken
  | sending : taken ++ rest = s.steps → pr.emit size = .ofSteps taken →
      Upto s (.sending size rest) pr taken
  | finished : taken = s.steps → pr = .ofSteps taken → Upto s (.returned s.ending fired) pr taken
  | stopped : Upto s (.returned (.finished .partialSuccess) true) pr taken
  | skipped : Upto s .skipped pr taken

variable {c : Context} {s : Script} {m : Move} {ph ph' : Phase} {pr pr' : Probe} {f : Flow}
  {taken : List Step}

/-- A script hands over the matches of the step it goes into, and no others. -/
theorem Moves.batch_eq (h : Moves c s m ph pr ph' pr' f) :
    f.batch = (ph.enters ph').flatMap Step.yield := by
  cases h <;> simp [enters, Flow.batch, Step.yield]

theorem Moves.upto (h : Moves c s m ph pr ph' pr' f) (ht : Upto s ph pr taken) :
    Upto s ph' pr' (taken ++ ph.enters ph') := by
  cases h with
  | skip => exact .skipped
  | stop => exact .stopped
  | halt => exact .stopped
  | start =>
    cases ht
    exact .running rfl rfl
  | finish =>
    obtain _ | ⟨hsteps, hpr⟩ := ht
    rw [List.append_nil] at hsteps
    simp only [enters, List.append_nil]
    exact .finished hsteps hpr
  | pass =>
    obtain _ | ⟨hsteps, hpr⟩ := ht
    exact .running (by simpa [enters] using hsteps) (by simpa [enters] using hpr)
  | sleep =>
    obtain _ | ⟨hsteps, hpr⟩ := ht
    exact .sleeping (by simpa [enters] using hsteps) (by simpa [enters] using hpr)
  | queue =>
    obtain _ | ⟨hsteps, hpr⟩ := ht
    exact .sending (by simpa [enters] using hsteps) (by simp [enters, hpr])
  | emit =>
    obtain _ | ⟨hsteps, hpr⟩ := ht
    exact .running (by simpa [enters] using hsteps) (by simp [enters, hpr])
  | wake =>
    cases ht with
    | sleeping hsteps hpr =>
      simp only [enters, List.append_nil]
      exact .running hsteps hpr
  | resume =>
    cases ht with
    | sending hsteps hpr =>
      simp only [enters, List.append_nil]
      exact .running hsteps hpr

theorem Upto.of_success {name : String} {as : List Alert} (h : Upto s ph pr taken)
    (hs : ph.outcome? name = some (.done ⟨.success, as⟩)) :
    (∃ fired, ph = .returned (.finished .success) fired) ∧ taken = s.steps ∧
      pr = .ofSteps s.steps := by
  cases h with
  | finished hsteps hpr =>
    subst hsteps
    exact ⟨⟨_, by rw [Ending.eq_of_success (Option.some.inj hs)]⟩, rfl, hpr⟩
  | stopped => simp [outcome?, Ending.outcome] at hs
  | _ => cases hs

/-- How many of the matches that a script has handed over its probe has yet to count. -/
def owed : Phase → Nat
  | .sending size _ => size
  | _ => 0

/-- Whether a script has been called in this run. -/
def started : Phase → Bool
  | .idle => false
  | .skipped => false
  | _ => true

/-- The steps that a script has yet to take, unless it is at its end. -/
def rest? (s : Script) : Phase → Option (List Step)
  | .idle => some s.steps
  | .running rest => some rest
  | .sleeping _ rest => some rest
  | .sending _ rest => some rest
  | .returned _ _ => none
  | .skipped => none

/-- A script has taken the first of its steps, and its probe, which had counted `before` matches,
has counted those of these steps. -/
structure Tally (s : Script) (before : Nat) (ph : Phase) (pr : Probe) (taken : List Step) :
    Prop where
  first : taken <+: s.steps
  rest : ∀ rest, ph.rest? s = some rest → taken ++ rest = s.steps
  count : pr.emitted + ph.owed = before + (taken.flatMap Step.yield).length

theorem Tally.take {before : Nat} {st : Step} {rest : List Step}
    (ht : Tally s before (.running (st :: rest)) pr taken) (hrest : ph'.rest? s = some rest)
    (hcount : pr'.emitted + ph'.owed = pr.emitted + st.yield.length) :
    Tally s before ph' pr' (taken ++ [st]) := by
  have hsteps : taken ++ [st] ++ rest = s.steps := by
    rw [List.append_assoc]
    exact ht.rest _ rfl
  refine ⟨⟨rest, hsteps⟩, ?_, ?_⟩
  · intro rest' hrest'
    rw [hrest] at hrest'
    cases hrest'
    exact hsteps
  · have htotal : pr.emitted = before + (taken.flatMap Step.yield).length := ht.count
    rw [hcount, htotal, List.flatMap_append, List.flatMap_singleton, List.length_append,
      Nat.add_assoc]

theorem Tally.stay {before : Nat} (ht : Tally s before ph pr taken)
    (hrest : ∀ rest, ph'.rest? s = some rest → ph.rest? s = some rest)
    (hcount : pr'.emitted + ph'.owed = pr.emitted + ph.owed) :
    Tally s before ph' pr' (taken ++ []) := by
  rw [List.append_nil]
  exact ⟨ht.first, fun rest h => ht.rest rest (hrest rest h), hcount.trans ht.count⟩

theorem Tally.prefix_flatten {before : Nat} (ht : Tally s before ph pr taken) :
    taken.flatMap Step.yield <+: s.batches.flatten := by
  obtain ⟨rest, hrest⟩ := ht.first
  rw [Script.flatten_batches, ← hrest, List.flatMap_append]
  exact List.prefix_append _ _

theorem Moves.tally {before : Nat} (h : Moves c s m ph pr ph' pr' f)
    (ht : Tally s before ph pr taken) : Tally s before ph' pr' (taken ++ ph.enters ph') := by
  cases h with
  | pass => exact ht.take rfl rfl
  | sleep => exact ht.take rfl rfl
  | queue => exact ht.take rfl rfl
  | emit => exact ht.take rfl rfl
  | start => exact ht.stay (fun _ h => h) rfl
  | wake => exact ht.stay (fun _ h => h) rfl
  | resume => exact ht.stay (fun _ h => h) rfl
  | _ => exact ht.stay nofun rfl

end Phase

namespace Node

variable {n n' k : Node} {t : Moment} {ts us : List Moment} {f : Flow} {i : Nat} {q : Path}
  {s : Script}

def enters : Node → Node → List Step
  | .leaf _ ph _, .leaf _ ph' _ => ph.enters ph'
  | _, _ => []

def entered : List Moment → Node → List Step
  | [], _ => []
  | t :: ts, n =>
    match n.meet t with
    | none => []
    | some (n', _) => n.enters n' ++ entered ts n'

/-- The steps that the script at a path takes in a history of the tree. -/
def takes : Path → List Moment → Node → List Step
  | [], ts, n => n.entered ts
  | i :: q, ts, n =>
    match n.branches[i]? with
    | some b => b.takes q (n.share i ts)
    | none => []

theorem takes_cons {b : Node} (h : n.branches[i]? = some b) (q : Path) (ts : List Moment) :
    n.takes (i :: q) ts = b.takes q (n.share i ts) := by
  simp only [takes, h]

@[simp] theorem takes_nil (q : Path) (n : Node) : n.takes q [] = [] := by
  induction q generalizing n with
  | nil => rfl
  | cons i q ih =>
    simp only [takes]
    split
    · exact ih _
    · rfl

/-- A move of a tree leaves the script at a path as it was, or is a move of that script. -/
theorem Moves.script {c : Context} {m : Move} {p : Path} {ph : Phase} {pr : Probe}
    (h : Moves m p c n n' f) (hs : n.at? q = some (.leaf s ph pr)) :
    ∃ ph' pr', n'.at? q = some (.leaf s ph' pr') ∧
      (p ≠ q ∧ ph' = ph ∧ pr' = pr ∨
        p = q ∧ ∃ f', Phase.Moves (n.sees q c) s m ph pr ph' pr' f') := by
  by_cases hpq : p = q
  · subst hpq
    rw [← List.append_nil p] at h
    obtain ⟨k, k', f', hk, hk', hm⟩ := h.of_append
    obtain rfl : .leaf s ph pr = k := Option.some.inj (hs.symm.trans hk)
    cases hm with
    | leaf hm => exact ⟨_, _, hk', .inr ⟨rfl, f', hm⟩⟩
  · obtain ⟨k', hk'⟩ := h.exists_at? hs
    obtain ⟨k, hk, hmove⟩ := h.at? hk'
    obtain rfl : .leaf s ph pr = k := Option.some.inj (hs.symm.trans hk)
    rcases hmove with rfl | ⟨r, f', rfl, hm⟩
    · exact ⟨ph, pr, hk', .inl ⟨hpq, rfl, rfl⟩⟩
    · cases hm with
      | leaf => exact absurd (List.append_nil q) hpq

/-- What holds of a script in a tree at first and is kept by each of its moves holds after every
history of the tree. -/
theorem script_induction {motive : Phase → Probe → Prop} {ph : Phase} {pr : Probe}
    (h : n.follow ts = some n') (hs : n.at? q = some (.leaf s ph pr)) (start : motive ph pr)
    (move : ∀ {c m ph pr ph' pr' f}, motive ph pr → Phase.Moves c s m ph pr ph' pr' f →
      motive ph' pr') : ∃ ph' pr', n'.at? q = some (.leaf s ph' pr') ∧ motive ph' pr' := by
  refine follow_induction (motive := fun _ k => ∃ ph' pr', k.at? q = some (.leaf s ph' pr') ∧
    motive ph' pr') ⟨ph, pr, hs, start⟩ ?_ h
  rintro _ _ _ _ _ - ⟨ph₁, pr₁, hs₁, ih⟩ hm
  obtain ⟨ph', pr', hs', ⟨-, rfl, rfl⟩ | ⟨-, f', hph⟩⟩ := hm.script hs₁
  · exact ⟨_, _, hs', ih⟩
  · exact ⟨ph', pr', hs', move ih hph⟩

theorem entered_append (h : n.follow ts = some k) (us : List Moment) :
    n.entered (ts ++ us) = n.entered ts ++ k.entered us := by
  induction ts generalizing n with
  | nil => cases h; rfl
  | cons t ts ih =>
    obtain ⟨n₁, f, ht, h⟩ := follow_cons_eq_some.1 h
    simp only [List.cons_append, entered, ht, ih h, List.append_assoc]

/-- What holds of a script at first and is kept by each of its moves holds after every history, in
which it hands over the matches of the steps it takes. -/
theorem leaf_induction {motive : Phase → Probe → List Step → Prop} {ph : Phase} {pr : Probe}
    (start : motive ph pr [])
    (move : ∀ {c m ph pr ph' pr' f taken}, motive ph pr taken →
      Phase.Moves c s m ph pr ph' pr' f → motive ph' pr' (taken ++ ph.enters ph'))
    (h : (leaf s ph pr).follow ts = some n) :
    ∃ ph' pr', n = .leaf s ph' pr' ∧ motive ph' pr' ((leaf s ph pr).entered ts) ∧
      (leaf s ph pr).handed [] ts = ((leaf s ph pr).entered ts).flatMap Step.yield := by
  refine follow_induction
    (motive := fun ts n => ∃ ph' pr', n = .leaf s ph' pr' ∧
      motive ph' pr' ((leaf s ph pr).entered ts) ∧
      (leaf s ph pr).handed [] ts = ((leaf s ph pr).entered ts).flatMap Step.yield)
    ⟨ph, pr, rfl, start, rfl⟩ ?_ h
  rintro ts ⟨c, p, m⟩ k k' f hk ⟨ph', pr', rfl, hmotive, hhanded⟩ hm
  have ht := meet_eq_some.2 hm
  cases hm with
  | leaf hm =>
    refine ⟨_, _, rfl, ?_, ?_⟩
    · rw [entered_append hk]
      simp only [entered, ht, enters, List.append_nil]
      exact move hmotive hm
    · rw [entered_append hk, handed_append hk, handed_cons ht, hhanded, hm.batch_eq]
      simp [entered, ht, enters, handed, sent]

/-- A script on its own takes its steps in order and hands over their matches in that order. -/
theorem upto_of_follow (h : (leaf s .idle {}).follow ts = some n) :
    ∃ ph pr, n = .leaf s ph pr ∧ ph.Upto s pr ((leaf s .idle {}).entered ts) ∧
      (leaf s .idle {}).handed [] ts = ((leaf s .idle {}).entered ts).flatMap Step.yield :=
  leaf_induction .idle (fun ht hm => hm.upto ht) h

end Node

end SearchPlan
