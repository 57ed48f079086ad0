import SearchPlan.Proofs.Node.Waiting
import SearchPlan.Proofs.Run.Direct
import SearchPlan.Proofs.Run.Received

/-! The senders in the line of a channel. They are just the scripts that wait in the tree, so that
no script waits in vain, and none at all for a collector. -/

namespace SearchPlan

namespace Channel

variable {ch : Channel} {p : Path}

def senders (ch : Channel) : List Path := ch.line.map (·.1)

@[simp] theorem senders_sent (ch : Channel) (p : Path) (b : Batch) :
    (ch.send p b false).senders = ch.senders := by
  simp only [send, senders, Bool.false_eq_true, if_false]
  split <;> rfl

@[simp] theorem senders_queued (ch : Channel) (p : Path) (b : Batch) :
    (ch.send p b true).senders = ch.senders ++ [p] := by
  simp [send, senders]

theorem closed_send (ch : Channel) (p : Path) (b : Batch) (waits : Bool) :
    (ch.send p b waits).closed = ch.closed := by
  simp only [send]
  split
  · rfl
  · split <;> rfl

theorem capacity_send (ch : Channel) (p : Path) (b : Batch) (waits : Bool) :
    (ch.send p b waits).capacity = ch.capacity := by
  simp only [send]
  split
  · rfl
  · split <;> rfl

theorem closed_resume (ch : Channel) (p : Path) : (ch.resume p).closed = ch.closed := by
  simp only [resume]
  split
  · rfl
  · split <;> rfl

theorem capacity_resume (ch : Channel) (p : Path) : (ch.resume p).capacity = ch.capacity := by
  simp only [resume]
  split
  · rfl
  · split <;> rfl

/-- A reader that is gone leaves the line to clear itself. -/
theorem left (ch : Channel) (gone : Bool) : (if gone then ch.close else ch).senders = ch.senders ∧
    (if gone then ch.close else ch).capacity = ch.capacity ∧
    (if gone then ch.close else ch).closed = (gone || ch.closed) := by
  cases gone <;> exact ⟨rfl, rfl, rfl⟩

/-- The sender that goes on is the one that leaves the line. -/
theorem senders_resume (h : ch.granted p = true) (hd : ch.senders.Nodup) :
    (ch.resume p).senders = ch.senders.filter (· ≠ p) := by
  cases hc : ch.closed with
  | true =>
    simp only [resume, hc, if_true, senders, List.filter_map]
    rfl
  | false =>
    simp only [granted, hc, Bool.false_eq_true, if_false, Bool.and_eq_true] at h
    obtain ⟨-, h⟩ := h
    cases hl : ch.line with
    | nil => simp [hl] at h
    | cons y line =>
      obtain rfl : y.1 = p := by simpa [hl] using h
      rw [senders, hl, List.map_cons, List.nodup_cons] at hd
      have hrest : (line.map (·.1)).filter (· ≠ y.1) = line.map (·.1) := by
        rw [List.filter_eq_self]
        intro q hq
        exact decide_eq_true fun he => hd.1 (he ▸ hq)
      simp only [resume, hc, Bool.false_eq_true, if_false, hl, senders, List.map_cons]
      rw [List.filter_cons_of_neg (by simp), hrest]

/-- Where nobody can go on, the line is empty or the reader has not gone and has something to
read. -/
theorem full_of_senders (hcapacity : 0 < ch.capacity) (hp : p ∈ ch.senders)
    (h : ∀ q ∈ ch.senders, ch.granted q = false) :
    ch.closed = false ∧ ∃ b ch', ch.read? = some (b, ch') := by
  have hclosed : ch.closed = false := by
    rw [Bool.eq_false_iff]
    intro hc
    obtain ⟨y, hy, rfl⟩ := List.mem_map.1 hp
    have hgranted := h _ hp
    simp only [granted, hc, if_true, List.any_eq_false, decide_eq_true_eq] at hgranted
    exact hgranted y hy rfl
  refine ⟨hclosed, ?_⟩
  cases hl : ch.line with
  | nil => simp [senders, hl] at hp
  | cons y line =>
    have hgranted := h y.1 (by simp [senders, hl])
    have hfull : ch.capacity ≤ ch.buffer.length := by
      simpa [granted, hclosed, hl, full] using hgranted
    cases hb : ch.buffer with
    | nil =>
      rw [hb, List.length_nil] at hfull
      omega
    | cons b buffer => exact ⟨b, { ch with buffer }, by simp [read?, hb]⟩

end Channel

namespace Run

variable {r r' : Run} {e : Event} {es : List Event} {f : Flow} {x : Batch}

theorem context_granted (r : Run) (p : Path) : r.context.granted p = r.outlet.granted p := by
  simp only [context]
  cases r.quota <;> rfl

theorem pass_resumed (r : Run) : (r.pass .resumed).2.1 = .resumed := by
  simp only [pass]
  cases r.quota <;> rfl

theorem pass_quiet (r : Run) : (r.pass .quiet).2.1 = .quiet := by
  simp only [pass]
  cases r.quota <;> rfl

theorem pass_sent (r : Run) (x : Batch) : (r.pass (.handed x false)).2.1 = .quiet ∨
    ∃ y, (r.pass (.handed x false)).2.1 = .handed y false := by
  simp only [pass]
  cases r.quota with
  | none => exact .inr ⟨x, rfl⟩
  | some quota => exact Node.passes_sent (.limit quota r.tree false false) x

/-- A batch that has to wait in the tree has to wait at the outlet. -/
theorem pass_of_waits (h : r.context.waits x = true) :
    ∃ y, (r.pass (.handed x true)).2.1 = .handed y true ∧ r.outlet.waits y = true := by
  simp only [context] at h
  simp only [pass]
  cases hq : r.quota with
  | none =>
    rw [hq] at h
    exact ⟨x, rfl, h⟩
  | some quota =>
    rw [hq] at h
    exact Node.passes_of_waits (n := .limit quota r.tree false false) (i := 0)
      (c := ⟨r.now, r.fired, r.outlet.waits, r.outlet.granted⟩) h

/-- The outlet knows who waits. A collector lets nobody wait; a channel has those who do in line. -/
inductive Served (r : Run) : Prop
  | collected : r.outlet = .collector held → r.reader.gone = true →
      (∀ q, ¬r.tree.Waits q) → Served r
  | queued : r.outlet = .channel ch → 0 < ch.capacity → ch.senders.Nodup →
      (∀ q, r.tree.Waits q ↔ q ∈ ch.senders) →
      (r.finished = false → ch.closed = r.reader.gone) → Served r

theorem Served.line {ch : Channel} (h : r.Served) (ho : r.outlet = .channel ch) :
    ch.senders.Nodup ∧ ∀ q, r.tree.Waits q ↔ q ∈ ch.senders := by
  cases h with
  | collected ho' => cases ho.symm.trans ho'
  | @queued ch' ho' _ hd hline =>
    obtain rfl : ch = ch' := Outlet.channel.inj (ho.symm.trans ho')
    exact ⟨hd, hline⟩

theorem served_direct {p : Plan} {n : Node} (hn : Node.Ready p n) (caller : Caller) :
    (direct n caller).Served :=
  .collected rfl rfl hn.not_waits

theorem served_spawned {p : Plan} {n : Node} (hn : Node.Ready p n) (caller : Caller)
    (sub : Subscription) : (spawned n caller sub).Served := by
  obtain ⟨hsenders, hcapacity, hclosed⟩ :=
    (Channel.ofCapacity sub.buffer).left (Reader.ofPause sub.pause sub.wants).gone
  refine .queued rfl ?_ ?_ ?_ fun _ => ?_
  · rw [hcapacity]
    exact Nat.le_max_right _ _
  · rw [hsenders]
    exact List.nodup_nil
  · intro q
    rw [hsenders]
    exact ⟨fun hw => absurd hw (hn.not_waits q), nofun⟩
  · rw [hclosed]
    exact Bool.or_false _

/-- A move keeps the line of a channel that of the scripts that wait. -/
theorem Served.move {ch : Channel} {m : Move} {p : Path} {n : Node}
    (hm : Node.Moves m p r.context r.tree n f) (ho : r.outlet = .channel ch)
    (hd : ch.senders.Nodup) (hline : ∀ q, r.tree.Waits q ↔ q ∈ ch.senders) :
    ∃ ch', r.outlet.accept p (r.pass f).2.1 = .channel ch' ∧ ch'.capacity = ch.capacity ∧
      ch'.closed = ch.closed ∧ ch'.senders.Nodup ∧ ∀ q, n.Waits q ↔ q ∈ ch'.senders := by
  have hothers {q : Path} (hpq : p ≠ q) : n.Waits q ↔ q ∈ ch.senders :=
    (hm.waits_iff hpq).trans (hline q)
  have hsame (hw : ¬r.tree.Waits p) (hw' : ¬n.Waits p) (q : Path) : n.Waits q ↔ q ∈ ch.senders := by
    by_cases hpq : p = q
    · subst hpq
      exact ⟨fun h => absurd h hw', fun h => absurd ((hline p).2 h) hw⟩
    · exact hothers hpq
  rw [ho]
  cases hm.sends with
  | resumed hw hw' hg =>
    rw [context_granted, ho] at hg
    refine ⟨ch.resume p, by rw [pass_resumed]; rfl, ch.capacity_resume p, ch.closed_resume p, ?_⟩
    rw [ch.senders_resume hg hd]
    refine ⟨hd.filter _, ?_⟩
    intro q
    rw [List.mem_filter, decide_eq_true_eq]
    by_cases hpq : p = q
    · subst hpq
      exact ⟨fun h => absurd h hw', fun h => absurd rfl h.2⟩
    · rw [hothers hpq]
      exact ⟨fun h => ⟨h, Ne.symm hpq⟩, fun h => h.1⟩
  | queued hw hw' hx =>
    obtain ⟨y, hy, -⟩ := pass_of_waits hx
    refine ⟨ch.send p y true, by rw [hy]; rfl, ch.capacity_send p y true,
      ch.closed_send p y true, ?_⟩
    rw [Channel.senders_queued]
    refine ⟨?_, ?_⟩
    · refine List.nodup_append.2 ⟨hd, List.pairwise_singleton _ p, ?_⟩
      rintro q hq q' hq' rfl
      rw [List.mem_singleton] at hq'
      exact hw ((hline p).2 (hq' ▸ hq))
    · intro q
      rw [List.mem_append, List.mem_singleton]
      by_cases hpq : p = q
      · subst hpq
        exact ⟨fun _ => .inr rfl, fun _ => hw'⟩
      · rw [hothers hpq]
        exact ⟨.inl, fun h => h.resolve_right (Ne.symm hpq)⟩
  | @sent x hw hw' =>
    rcases r.pass_sent x with hy | ⟨y, hy⟩
    · exact ⟨ch, by rw [hy]; rfl, rfl, rfl, hd, hsame hw hw'⟩
    · refine ⟨ch.send p y false, by rw [hy]; rfl, ch.capacity_send p y false,
        ch.closed_send p y false, ?_⟩
      rw [Channel.senders_sent]
      exact ⟨hd, hsame hw hw'⟩
  | quiet hw hw' => exact ⟨ch, by rw [pass_quiet]; rfl, rfl, rfl, hd, hsame hw hw'⟩

theorem Served.happens (h : r.Served) (hopen : r.finished = false) (he : Happens r e r') :
    r'.Served := by
  cases h with
  | collected ho hgone hfree =>
    cases he with
    | @move m p n f hm =>
      obtain ⟨held', ho'⟩ := Outlet.exists_accept _ p (r.pass f).2.1
      refine .collected (by rw [ho]; exact ho') hgone ?_
      intro q hw
      by_cases hpq : p = q
      · subst hpq
        cases hm.sends with
        | queued _ _ hx =>
          obtain ⟨y, -, hy⟩ := pass_of_waits hx
          rw [ho] at hy
          cases hy
        | _ => contradiction
      · exact hfree q ((hm.waits_iff hpq).1 hw)
    | cancel => exact .collected ho hgone hfree
    | tick => exact .collected ho hgone hfree
    | read hreader => simp [hgone] at hreader
    | leave hreader => simp [hgone] at hreader
  | queued ho hcapacity hd hline hclosed =>
    have hclosed := hclosed hopen
    cases he with
    | move hm =>
      obtain ⟨ch', ho', hcapacity', hclosed', hd', hline'⟩ := Served.move hm ho hd hline
      exact .queued ho' (hcapacity' ▸ hcapacity) hd' hline' fun _ => hclosed'.trans hclosed
    | cancel => exact .queued ho hcapacity hd hline fun _ => hclosed
    | tick => exact .queued ho hcapacity hd hline fun _ => hclosed
    | @read ch' b ch'' hgone hdue ho' hread =>
      obtain rfl : ch' = _ := Outlet.channel.inj (ho'.symm.trans ho)
      obtain rfl := Channel.eq_of_read hread
      obtain ⟨hs, hc, hcl⟩ := ch''.left (r.reader.read r.now b).gone
      refine .queued rfl ?_ ?_ ?_ fun _ => ?_
      · rw [hc]
        exact hcapacity
      · rw [hs]
        exact hd
      · rw [hs]
        exact hline
      · rw [hcl]
        exact (congrArg _ (hclosed.trans hgone)).trans (Bool.or_false _)
    | leave hgone hdue ho' hread hend =>
      refine .queued ho hcapacity hd hline fun hopen' => ?_
      have hover : ({ r with reader := r.reader.leave } : Run).finished = true := by
        rw [finished, Bool.and_eq_true]
        exact ⟨hend, rfl⟩
      rw [hover] at hopen'
      cases hopen'

theorem Served.follow {es : List Event} (h : r.Served) (hes : r.follow es = some r') : r'.Served :=
  follow_induction h (fun hr hopen he => hr.happens hopen he) hes

end Run

end SearchPlan
