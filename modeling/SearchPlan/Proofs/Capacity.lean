import SearchPlan.Proofs.Node.Ready
import SearchPlan.Proofs.Node.Token
import SearchPlan.Proofs.Node.Transit

/-! What a cap counts while its branches send past each other. A send reserves its room when it
starts, and fires the token of the branch only when it is over. -/

namespace SearchPlan

namespace Node

variable {p p' : Plan} {n n' k k' b b' : Node} {c : Context} {m : Move} {q r : Path} {f : Flow}
  {i : Nat} {ts : List Moment} {quota quota' : Quota} {stopped stopped' fired fired' : Bool}
  {count : Nat} {hc : 0 < count}

/-- A cap has told its branch to stop only when it was reached, and if it is reached it has done so
unless a sender below it is still waiting. -/
def Prompt : Node → Prop
  | .limit quota b stopped _ => (stopped = true → quota.reached = true) ∧
    (quota.reached = true → stopped = true ∨ ∃ r, b.Waits r)
  | _ => True

theorem prompt_of_pass (hm : Moves m r c b b' f)
    (h : (limit quota b stopped fired).Prompt) :
    (limit (quota.pass f).1 b' (stopped || (quota.pass f).2.2) fired').Prompt := by
  obtain ⟨hstopped, hreached⟩ := h
  refine ⟨?_, ?_⟩
  · intro hs
    rcases Bool.or_eq_true_iff.1 hs with hs | hs
    · exact Quota.reached_pass (hstopped hs) f
    · exact Quota.reached_of_stops hs
  · intro hr
    cases hs : stopped with
    | true => exact .inl rfl
    | false =>
      cases f with
      | quiet =>
        right
        obtain ⟨q, hq⟩ := (hreached hr).resolve_left (by simp [hs])
        exact ⟨q, (hm.waits_or_resumed hq).resolve_right nofun⟩
      | resumed => exact .inl hr
      | handed x waits =>
        cases waits with
        | true => exact .inr ⟨_, hm.waits_of_handed⟩
        | false =>
          left
          simp only [Quota.pass] at hr ⊢
          split <;> simp_all

theorem Moves.prompt (h : Moves m q c n n' f) (hn : n.Prompt) : n'.Prompt := by
  cases h with
  | limit h => exact prompt_of_pass h hn
  | _ => trivial

theorem Ready.limit (h : Ready (.limit count hc p) n) :
    ∃ b, n = .limit { limit := count } b false false := by
  cases h with
  | first => exact ⟨_, rfl⟩
  | @again k ts n hk hfollow =>
    obtain ⟨quota, b, stopped, fired, rfl, rfl⟩ := (does_of_follow hfollow hk.does).limit
    exact ⟨_, rfl⟩

/-- A node of the tree has a history of its own, with the same matches getting through. -/
theorem exists_forwarded_at? (h : n.follow ts = some n') (hk : n.at? q = some k) :
    ∃ k' us, n'.at? q = some k' ∧ k.follow us = some k' ∧
      n.forwarded q ts = k.forwarded [] us ∧ ∀ r, n.hands (q ++ r) ts = k.hands r us := by
  induction q generalizing n n' ts with
  | nil =>
    cases hk
    exact ⟨n', ts, rfl, h, rfl, fun _ => rfl⟩
  | cons i q ih =>
    obtain ⟨b, hb, hk⟩ := at?_cons_eq_some.1 hk
    obtain ⟨b', hb', hf⟩ := follow_share h hb
    obtain ⟨k', us, hat, hus, hforwarded, hhands⟩ := ih hf hk
    refine ⟨k', us, at?_cons_eq_some.2 ⟨b', hb', hat⟩, hus, ?_, ?_⟩
    · rw [forwarded_cons hb, hforwarded]
    · intro r
      rw [List.cons_append, hands_cons hb, hhands]

theorem prompt_start (b : Node) (fired : Bool) (hc : 0 < count) :
    (limit { limit := count } b false fired).Prompt := by
  refine ⟨nofun, ?_⟩
  intro hr
  simp only [Quota.reached, decide_eq_true_eq] at hr
  exact absurd hr (Nat.not_le.2 hc)

theorem Ready.prompt (hn : Ready p n) (h : n.follow ts = some n') : n'.Prompt := by
  refine follow_induction (motive := fun _ k => k.Prompt) ?_
    (fun _ _ _ _ _ _ ih hm => hm.prompt ih) h
  cases p with
  | limit count hc p =>
    obtain ⟨b, rfl⟩ := hn.limit
    exact prompt_start b false hc
  | _ =>
    have hdoes := hn.does
    cases n <;> trivial

/-- What a cap has come to when the matches `sent` to it have been cut down to those it `handed`
over, of which the `forwarded` ones have got through. -/
structure Counts (count : Nat) (sent handed forwarded : List Match) (quota : Quota)
    (b : Node) (stopped : Bool) : Prop where
  handed_eq : handed = sent.take count
  forwarded_le : forwarded.length ≤ count
  reached : quota.reached = true ↔ count ≤ sent.length
  truncated : quota.truncated = true ↔ count < sent.length
  not_early : stopped = true → count ≤ sent.length
  /-- No send to the cap is under way. -/
  settled : (∀ r, ¬b.Waits r) →
    forwarded.length = min count sent.length ∧ (count ≤ sent.length → stopped = true)

theorem Ready.counts (hn : Ready (.limit count hc p) n) (h : n.follow ts = some n') :
    ∃ quota b stopped fired, n' = .limit quota b stopped fired ∧
      Counts count (n.hands [0] ts) (n.hands [] ts) (n.forwarded [] ts) quota b stopped := by
  have hdoes := does_of_follow h hn.does
  have hprompt := hn.prompt h
  obtain ⟨b₀, rfl⟩ := hn.limit
  obtain ⟨hle, hall⟩ := length_forwarded h
  cases n' with
  | limit quota b stopped fired =>
    obtain ⟨hstopped, hreached⟩ := hprompt
    obtain ⟨hlimit, hreceived, hhands⟩ := limit_follow h
    rw [Nat.zero_add] at hreceived
    rw [Nat.sub_zero] at hhands
    have hiff : quota.reached = true ↔
        count ≤ ((Node.limit { limit := count } b₀ false false).hands [0] ts).length := by
      rw [Quota.reached, decide_eq_true_eq, hlimit, hreceived]
    rw [hhands, List.length_take] at hle hall
    refine ⟨quota, b, stopped, fired, rfl, hhands, ?_, hiff, ?_, ?_, ?_⟩
    · exact Nat.le_trans hle (Nat.min_le_left _ _)
    · rw [Quota.truncated, decide_eq_true_eq, hlimit, hreceived]
    · intro hs
      exact hiff.1 (hstopped hs)
    · intro hfree
      refine ⟨hall ?_, ?_⟩
      · intro q hw
        cases q with
        | nil =>
          obtain ⟨s, size, rest, pr, hq⟩ := hw
          cases hq
        | cons i q =>
          obtain ⟨a, ha, hw⟩ := hw.of_cons
          obtain ⟨rfl, rfl⟩ := getElem?_single ha
          exact hfree q hw
      · intro hr
        apply (hreached (hiff.2 hr)).resolve_right
        rintro ⟨r, hw⟩
        exact hfree r hw
  | _ => cases hdoes

/-- Wherever a cap stands and whatever makes the senders below it wait, it lets the first of the
matches sent to it through, up to its count, and its flags tell how many came. It does not fire the
token of its branch before its count is reached, and has fired it then when no send is under way. -/
theorem Ready.cap_counts (hn : Ready p n) (h : n.follow ts = some n')
    (hp : p.at? q = some (.limit count hc p')) :
    ∃ quota b stopped fired, n'.at? q = some (.limit quota b stopped fired) ∧
      (∀ c, (n'.sees (q ++ [0]) c).fired = ((n'.sees q c).fired || stopped)) ∧
      Counts count (n.hands (q ++ [0]) ts) (n.hands q ts) (n.forwarded q ts) quota b stopped := by
  obtain ⟨k, hk, hready⟩ := hn.at? hp
  obtain ⟨k', us, hk', hus, hforwarded, hhands⟩ := exists_forwarded_at? h hk
  obtain ⟨quota, b, stopped, fired, rfl, hcounts⟩ := hready.counts hus
  refine ⟨quota, b, stopped, fired, hk', ?_, ?_⟩
  · intro c
    rw [sees_append hk', sees_cons rfl]
    exact under_fired _ 0 _
  · have hout := hhands []
    rw [List.append_nil] at hout
    rw [hout, hforwarded, hhands]
    exact hcounts

end Node

/-! A sender that waits below a cap is overtaken by another, which fills the cap. -/

namespace Overtaken

def first : Script := { name := "first", steps := [.emit [.ofRepo "a", .ofRepo "b"]] }

def second : Script :=
  { name := "second", steps := [.emit [.ofRepo "c", .ofRepo "d"], .emit [.ofRepo "e"]] }

def plan : Plan :=
  .timeout (.ofMillis 9) (.limit 3 (by decide) (.group .parallel (.leaf first) [.leaf second]))

def busy : Context := { Context.calm with waits := fun _ => true }

def roomy : Context := { Context.calm with granted := fun _ => true }

def moments : List Moment :=
  [⟨.calm, [0, 0, 0], .act⟩, ⟨busy, [0, 0, 0], .act⟩, ⟨.calm, [0, 0, 1], .act⟩,
    ⟨.calm, [0, 0, 1], .act⟩, ⟨.calm, [0, 0, 1], .act⟩, ⟨roomy, [0, 0, 0], .act⟩,
    ⟨.calm, [0, 0, 0], .act⟩]

def branch : Node := .group .parallel
  [.leaf first (.returned (.finished .success) true) { runs := 1, emitted := 2 },
    .leaf second (.returned (.finished .partialSuccess) true)
      { runs := 1, emitted := 2, stopped := true }]
  { statuses := [.success], interrupted := true }

def tree : Node := .timeout (.ofMillis 9) (.limit ⟨3, 4⟩ branch true false) false false

theorem three_forwarded : (Node.ofPlan plan).follow moments = some tree ∧
    (Node.ofPlan plan).hands [0, 0] moments =
      [.ofRepo "a", .ofRepo "b", .ofRepo "c", .ofRepo "d"] ∧
    (Node.ofPlan plan).forwarded [0] moments = [.ofRepo "c", .ofRepo "a", .ofRepo "b"] ∧
    ((Node.ofPlan plan).forwarded [0] moments).length =
      min 3 ((Node.ofPlan plan).hands ([0] ++ [0]) moments).length ∧
    (tree.sees [0, 0] .calm).fired = true := by
  have hfollow : (Node.ofPlan plan).follow moments = some tree := rfl
  have hsent : (Node.ofPlan plan).hands [0, 0] moments =
      [.ofRepo "a", .ofRepo "b", .ofRepo "c", .ofRepo "d"] := by decide
  have hforwarded : (Node.ofPlan plan).forwarded [0] moments =
      [.ofRepo "c", .ofRepo "a", .ofRepo "b"] := by decide
  obtain ⟨quota, b, stopped, fired, hat, htoken, hcounts⟩ :=
    Node.Ready.cap_counts .first hfollow (q := [0]) rfl
  cases hat
  obtain ⟨hlen, hstopped⟩ := hcounts.settled (Node.not_waits_of_ended rfl)
  have hcount : 3 ≤ ((Node.ofPlan plan).hands ([0] ++ [0]) moments).length := by
    rw [List.singleton_append, hsent]
    decide
  refine ⟨hfollow, hsent, hforwarded, hlen, ?_⟩
  have hfired := htoken .calm
  rw [hstopped hcount, Bool.or_true] at hfired
  exact hfired

end Overtaken

end SearchPlan
