import SearchPlan.Proofs.Run.Stream
import SearchPlan.Proofs.Run.Unfolds

/-! A channel makes its senders wait, but nothing gets lost by it and nothing gets out of order. -/

namespace SearchPlan

/-- The batches that a history hands over to the sink, with their senders. An empty batch does not
count as one. -/
def Node.posted (ts : List Moment) (n : Node) : List (Path × Batch) :=
  (n.sent ts).filter (!·.2.isEmpty)

theorem Node.posted_concat {n n' k : Node} {ts : List Moment} {t : Moment} {f : Flow}
    (h : n.follow ts = some k) (ht : k.meet t = some (n', f)) :
    n.posted (ts ++ [t]) = n.posted ts ++ [(t.path, f.batch)].filter (!·.2.isEmpty) := by
  rw [posted, sent_append h, List.filter_append]
  simp only [sent, ht]
  rfl

theorem Node.ne_nil_of_posted {n : Node} {ts : List Moment} {b : Batch}
    (h : b ∈ (n.posted ts).map (·.2)) : b ≠ [] := by
  obtain ⟨x, hx, rfl⟩ := List.mem_map.1 h
  simpa using (List.mem_filter.1 hx).2

namespace Channel

variable {ch ch' : Channel} {posted : List (Path × Batch)} {seen : List Batch} {p : Path}
  {b : Batch}

/-- What was posted to a channel is what its reader has seen, then what is in its buffer, then what
its senders wait with. -/
structure Stores (posted : List (Path × Batch)) (seen : List Batch) (ch : Channel) : Prop where
  order : ∃ past, posted = past ++ ch.line ∧ past.map (·.2) = seen ++ ch.buffer
  room : ch.buffer.length ≤ ch.capacity

theorem stores_new (capacity : Nat) : Stores [] [] { capacity } :=
  ⟨⟨[], rfl, rfl⟩, Nat.zero_le _⟩

theorem Stores.send (h : ch.Stores posted seen) (hclosed : ch.closed = false) (p : Path)
    (b : Batch) :
    (ch.send p b (ch.waits b)).Stores (posted ++ [(p, b)].filter (!·.2.isEmpty)) seen := by
  obtain ⟨⟨past, rfl, hpast⟩, hroom⟩ := h
  cases b with
  | nil => simpa [Channel.send, waits] using (⟨⟨past, rfl, hpast⟩, hroom⟩ : ch.Stores _ seen)
  | cons x b =>
    cases hw : ch.waits (x :: b) with
    | true => exact ⟨⟨past, by simp [Channel.send], hpast⟩, hroom⟩
    | false =>
      -- nobody is in line, so the batch comes next after those in the buffer
      obtain ⟨hfull, hline⟩ : ch.buffer.length < ch.capacity ∧ ch.line = [] := by
        simpa [waits, hclosed, full] using hw
      refine ⟨⟨past ++ [(p, x :: b)], ?_, ?_⟩, ?_⟩
      · simp [line_sent, hline]
      · simp [buffer_sent hclosed, hpast]
      · simp only [buffer_sent hclosed, capacity_send]
        exact Nat.le_trans (by simp) hfull

theorem Stores.resume (h : ch.Stores posted seen) (hclosed : ch.closed = false)
    (hg : ch.granted p = true) : (ch.resume p).Stores posted seen := by
  obtain ⟨⟨past, rfl, hpast⟩, hroom⟩ := h
  simp only [Channel.resume, hclosed, Bool.false_eq_true, if_false]
  cases hl : ch.line with
  | nil => exact ⟨⟨past, by rw [hl], hpast⟩, hroom⟩
  | cons y line =>
    have hfull : ch.buffer.length < ch.capacity := by
      simp only [granted, hclosed, Bool.false_eq_true, if_false, Bool.and_eq_true,
        Bool.not_eq_true', full, decide_eq_false_iff_not, Nat.not_le] at hg
      exact hg.1
    refine ⟨⟨past ++ [y], by simp, ?_⟩, ?_⟩
    · rw [List.map_append, hpast, List.append_assoc]
      rfl
    · rw [List.length_append]
      exact hfull

theorem Stores.read (h : ch.Stores posted seen) (hread : ch.read? = some (b, ch')) :
    ch'.Stores posted (seen ++ [b]) := by
  obtain rfl := eq_of_read hread
  obtain ⟨⟨past, rfl, hpast⟩, hroom⟩ := h
  refine ⟨⟨past, rfl, ?_⟩, Nat.le_of_succ_le hroom⟩
  rw [hpast, List.append_assoc]
  rfl

theorem buffer_of_read (h : ch.read? = none) : ch.buffer = [] := by
  simp only [read?] at h
  split at h
  · assumption
  · cases h

theorem exists_accept (ch : Channel) (p : Path) (f : Flow) :
    ∃ ch', (Outlet.channel ch).accept p f = .channel ch' ∧ ch'.closed = ch.closed := by
  cases f with
  | quiet => exact ⟨ch, rfl, rfl⟩
  | handed b waits => exact ⟨_, rfl, ch.closed_send p b waits⟩
  | resumed => exact ⟨_, rfl, ch.closed_resume p⟩

theorem Stores.append_eq (h : ch.Stores posted seen) :
    seen ++ ch.buffer ++ ch.line.map (·.2) = posted.map (·.2) := by
  obtain ⟨⟨past, rfl, hpast⟩, -⟩ := h
  rw [List.map_append, hpast]

theorem Stores.seen_prefix (h : ch.Stores posted seen) : seen <+: posted.map (·.2) := by
  rw [← h.append_eq, List.append_assoc]
  exact List.prefix_append _ _

end Channel

namespace Run

variable {r r' k : Run} {e : Event} {ts : List Moment} {n : Node} {p : Plan} {m : Move} {f : Flow}
  {capacity : Nat} {posted : List (Path × Batch)} {cancelAt : Option Nat} {sub : Subscription}

/-- What was posted to the channel of a run is accounted for as long as it is open. A reader that
has read to its end leaves it so. -/
inductive Accounts (capacity : Nat) (posted : List (Path × Batch)) (r : Run) : Prop
  | kept : r.outlet = .channel ch → ch.closed = false → ch.capacity = capacity →
      ch.Stores posted r.reader.seen →
      (r.reader.gone = true → r.tree.outcome?.isSome ∧ ch.buffer = []) → Accounts capacity posted r
  | closed : r.outlet = .channel ch → ch.closed = true → r.reader.gone = true →
      r.reader.seen <+: posted.map (·.2) → Accounts capacity posted r

theorem accounts_spawned (n : Node) (caller : Caller) (sub : Subscription) :
    (spawned n caller sub).Accounts (max sub.buffer 1) [] := by
  have ho : (spawned n caller sub).outlet =
      .channel (if (Reader.ofPause sub.pause sub.wants).gone then
        (Channel.ofCapacity sub.buffer).close else .ofCapacity sub.buffer) := rfl
  have hreader : (spawned n caller sub).reader = .ofPause sub.pause sub.wants := rfl
  cases hgone : (Reader.ofPause sub.pause sub.wants).gone with
  | true =>
    rw [hgone] at ho
    exact .closed ho rfl (by rw [hreader, hgone]) List.nil_prefix
  | false =>
    rw [hgone] at ho
    refine .kept ho rfl rfl (Channel.stores_new _) fun h => ?_
    rw [hreader, hgone] at h
    cases h

theorem Accounts.seen_prefix (h : r.Accounts capacity posted) :
    r.reader.seen <+: posted.map (·.2) := by
  cases h with
  | kept _ _ _ hstores => exact hstores.seen_prefix
  | closed _ _ _ hseen => exact hseen

theorem Accounts.of_eq (h : r.Accounts capacity posted) (ho : r'.outlet = r.outlet)
    (htree : r'.tree = r.tree) (hseen : r'.reader.seen = r.reader.seen)
    (hgone : r'.reader.gone = r.reader.gone) : r'.Accounts capacity posted := by
  cases h with
  | kept hout hclosed hcapacity hstores hend =>
    exact .kept (ho.trans hout) hclosed hcapacity (hseen ▸ hstores) (by rwa [hgone, htree])
  | closed hout hclosed hleft hfirst =>
    exact .closed (ho.trans hout) hclosed (hgone.trans hleft) (hseen ▸ hfirst)

/-- A batch that is handed over is stored until the reader takes it, or lost if the reader has left. -/
theorem Accounts.move (h : r.Accounts capacity posted) (hq : r.quota = none)
    (hm : Node.Moves m q r.context r.tree n f) :
    Accounts capacity (posted ++ [(q, f.batch)].filter (!·.2.isEmpty))
      { r with tree := n, outlet := r.outlet.accept q f } := by
  cases h with
  | @kept ch ho hclosed hcapacity hstores hgone =>
    have hcontext : r.context = ⟨r.now, r.fired, ch.waits, ch.granted⟩ := by
      simp only [context, hq, ho]
      rfl
    have hopen {ch' : Channel} (h : r.reader.gone = true) :
        n.outcome?.isSome ∧ ch'.buffer = [] := by
      have hended := (hgone h).1
      rw [hm.outcome?_eq_none] at hended
      cases hended
    rw [hcontext] at hm
    rw [ho]
    cases f with
    | quiet => exact .kept rfl hclosed hcapacity (by simpa [Flow.batch] using hstores) hopen
    | resumed =>
      cases hm.sends with
      | resumed _ _ hg =>
        refine .kept rfl ((ch.closed_resume q).trans hclosed)
          ((ch.capacity_resume q).trans hcapacity) ?_ hopen
        simpa [Flow.batch] using hstores.resume hclosed hg
    | handed b waits =>
      obtain rfl := hm.waits_eq
      exact .kept rfl ((ch.closed_send q b _).trans hclosed)
        ((ch.capacity_send q b _).trans hcapacity) (hstores.send hclosed q b) hopen
  | @closed ch ho hclosed hgone hseen =>
    obtain ⟨ch', ho', hclosed'⟩ := ch.exists_accept q f
    rw [ho]
    refine .closed ho' (hclosed'.trans hclosed) hgone ?_
    rw [List.map_append]
    exact hseen.trans (List.prefix_append _ _)

theorem Accounts.event (h : r.Accounts capacity (n.posted ts)) (hq : r.quota = none)
    (hfollow : n.follow ts = some r.tree) (he : r.step e = some r') :
    r'.Accounts capacity (n.posted (ts ++ r.moments [e])) := by
  simp only [moments, he]
  obtain ⟨hopen, he⟩ := happens_of_step he
  cases he with
  | move hm =>
    rw [pass_unlimited hq, Bool.or_false, Node.posted_concat hfollow (Node.meet_eq_some.2 hm), ← hq]
    exact h.move hq hm
  | cancel =>
    rw [List.append_nil]
    exact h.of_eq rfl rfl rfl rfl
  | tick =>
    rw [List.append_nil]
    exact h.of_eq rfl rfl rfl rfl
  | @read ch b ch' hstays hdue ho hread =>
    rw [List.append_nil]
    cases h with
    | @kept ch₀ ho' hclosed hcapacity hstores hgone =>
      obtain rfl : ch = ch₀ := Outlet.channel.inj (ho.symm.trans ho')
      have hstores' := hstores.read hread
      cases hleft : (r.reader.read r.now b).gone with
      | true => exact .closed rfl rfl hleft hstores'.seen_prefix
      | false =>
        obtain rfl := Channel.eq_of_read hread
        refine .kept rfl hclosed hcapacity hstores' fun h => ?_
        rw [hleft] at h
        cases h
    | closed _ _ hgone =>
      rw [hstays] at hgone
      cases hgone
  | @leave ch hstays hdue ho hread hend =>
    rw [List.append_nil]
    cases h with
    | @kept ch₀ ho' hclosed hcapacity hstores hgone =>
      obtain rfl : ch = ch₀ := Outlet.channel.inj (ho.symm.trans ho')
      exact .kept ho hclosed hcapacity hstores fun _ => ⟨hend, Channel.buffer_of_read hread⟩
    | closed _ _ hgone =>
      rw [hstays] at hgone
      cases hgone

theorem Unfolds.accounts (h : r.Unfolds ts r') (hq : r.quota = none)
    (hr : r.Accounts capacity []) : r'.Accounts capacity (r.tree.posted ts) := by
  induction h with
  | refl => exact hr
  | event h he ih => exact ih.event (h.quota hq) h.follow he
  | pause _ ih => exact ih.of_eq rfl rfl rfl rfl
  | @drop _ k _ hgone ih =>
    cases ih with
    | @kept ch ho _ _ hstores =>
      have ho' : k.drop.outlet = .channel ch.close := by
        rw [Run.drop, ho]
        rfl
      exact .closed ho' rfl rfl hstores.seen_prefix
    | closed _ _ hgone' =>
      rw [hgone] at hgone'
      cases hgone'

theorem Accounts.stores {ch : Channel} (h : r.Accounts capacity posted)
    (ho : r.outlet = .channel ch) (hstays : r.reader.gone = false) :
    ch.Stores posted r.reader.seen ∧ ch.capacity = capacity := by
  cases h with
  | @kept ch' ho' _ hcapacity hstores =>
    obtain rfl : ch = ch' := Outlet.channel.inj (ho.symm.trans ho')
    exact ⟨hstores, hcapacity⟩
  | closed _ _ hgone =>
    rw [hstays] at hgone
    cases hgone

/-- A reader that is gone without having closed the channel has come to the end of the run. -/
theorem Accounts.all_seen {ch : Channel} (h : r.Accounts capacity posted)
    (ho : r.outlet = .channel ch) (hline : ∀ q, r.tree.Waits q ↔ q ∈ ch.senders)
    (hgone : r.reader.gone = true) (hclosed : ch.closed = false) :
    r.finished = true ∧ r.reader.seen = posted.map (·.2) := by
  cases h with
  | @kept ch' ho' _ _ hstores hend =>
    obtain rfl : ch = ch' := Outlet.channel.inj (ho.symm.trans ho')
    obtain ⟨hended, hbuffer⟩ := hend hgone
    have hnobody : ch.line = [] := by
      rw [← List.map_eq_nil_iff (f := (·.1)), List.eq_nil_iff_forall_not_mem]
      exact fun q hq => Node.not_waits_of_ended hended q ((hline q).2 hq)
    have hall := hstores.append_eq
    rw [hbuffer, hnobody, List.map_nil, List.append_nil, List.append_nil] at hall
    refine ⟨?_, hall⟩
    rw [finished, Bool.and_eq_true]
    exact ⟨hended, hgone⟩
  | @closed ch' ho' hclosed' =>
    obtain rfl : ch = ch' := Outlet.channel.inj (ho.symm.trans ho')
    rw [hclosed] at hclosed'
    cases hclosed'

theorem Accounts.exists_channel (h : r.Accounts capacity posted) :
    ∃ ch, r.outlet = .channel ch := by
  cases h with
  | kept ho => exact ⟨_, ho⟩
  | closed ho => exact ⟨_, ho⟩

end Run

/-- The reader has wanted `wants` batches, and leaves with the last of them. -/
structure Reader.Counts (wants : Option Nat) (reader : Reader) : Prop where
  left : reader.wants.map (· + reader.seen.length) = wants
  leaves : reader.wants = some 0 → reader.gone = true

theorem Reader.counts_ofPause (pause : Duration) (wants : Option Nat) :
    (Reader.ofPause pause wants).Counts wants := by
  refine ⟨?_, fun h => decide_eq_true h⟩
  cases wants <;> rfl

theorem Reader.Counts.read {reader : Reader} {wants : Option Nat} (h : reader.Counts wants)
    (hgone : reader.gone = false) (now : Nat) (b : Batch) : (reader.read now b).Counts wants := by
  obtain ⟨hleft, hleaves⟩ := h
  refine ⟨?_, fun h => decide_eq_true h⟩
  cases hw : reader.wants with
  | none =>
    rw [hw] at hleft
    simpa [Reader.read, hw] using hleft
  | some k =>
    have hpos : k ≠ 0 := by
      rintro rfl
      rw [hleaves hw] at hgone
      cases hgone
    rw [hw] at hleft
    simp only [Reader.read, hw, Option.map_some, List.length_append, List.length_singleton,
      ← hleft, Option.some.injEq]
    omega

namespace Run

variable {r r' : Run} {ts : List Moment} {n : Node} {p : Plan} {cancelAt wants : Option Nat}
  {sub : Subscription}

theorem Unfolds.counts (h : r.Unfolds ts r') (hr : r.reader.Counts wants) :
    r'.reader.Counts wants := by
  induction h with
  | refl => exact hr
  | event _ he ih =>
    cases (happens_of_step he).2 with
    | read hgone => exact ih.read hgone _ _
    | leave => exact ⟨ih.left, fun _ => rfl⟩
    | _ => exact ih
  | pause _ ih => exact ⟨ih.left, ih.leaves⟩
  | drop _ _ ih => exact ⟨ih.left, fun _ => rfl⟩

/-- Behind a channel, the batches that the reader has seen, those in the buffer and those of the
senders in line are all that was handed over, in that order, as long as the reader has not left. One
that leaves at the end of the run, and so without closing the channel, has seen them all. Any other
has seen the first of them, as many as it has read. -/
theorem nothing_lost (hn : Node.Ready p n) (h : (spawned n { cancelAt } sub).Unfolds ts r) :
    ∃ ch, r.outlet = .channel ch ∧
      (r.reader.gone = false →
        r.reader.seen ++ ch.buffer ++ ch.line.map (·.2) = (n.posted ts).map (·.2) ∧
        (∀ b ∈ r.reader.seen ++ ch.buffer ++ ch.line.map (·.2), b ≠ []) ∧
        ch.line <:+ n.posted ts ∧ ch.senders.Nodup ∧ (∀ q, r.tree.Waits q ↔ q ∈ ch.senders) ∧
        ch.buffer.length ≤ max sub.buffer 1) ∧
      (r.reader.gone = true → ch.closed = false →
        r.finished = true ∧ r.reader.seen = (n.posted ts).map (·.2)) ∧
      r.reader.seen <+: (n.posted ts).map (·.2) ∧
      (∀ k, sub.wants = some k → r.reader.wants = some 0 →
        r.reader.seen = ((n.posted ts).map (·.2)).take k) := by
  have haccounts : r.Accounts (max sub.buffer 1) (n.posted ts) :=
    h.accounts rfl (accounts_spawned n _ sub)
  have hcounts := h.counts (Reader.counts_ofPause sub.pause sub.wants)
  have hfirst := haccounts.seen_prefix
  obtain ⟨ch, ho⟩ := haccounts.exists_channel
  obtain ⟨hd, hline⟩ := (h.served (served_spawned hn _ sub)).line ho
  refine ⟨ch, ho, fun hstays => ?_, haccounts.all_seen ho hline, hfirst, fun k hk hzero => ?_⟩
  · obtain ⟨hstores, hcapacity⟩ := haccounts.stores ho hstays
    obtain ⟨past, hpast, -⟩ := hstores.order
    refine ⟨hstores.append_eq, ?_, ⟨past, hpast.symm⟩, hd, hline, hcapacity ▸ hstores.room⟩
    rw [hstores.append_eq]
    exact fun b hb => Node.ne_nil_of_posted hb
  · have hleft := hcounts.left
    rw [hzero, hk, Option.map_some, Option.some.injEq, Nat.zero_add] at hleft
    rw [← hleft]
    exact List.prefix_iff_eq_take.1 hfirst

end Run

/-! Two scripts wait for a reader that has read one batch. -/

namespace Crowded

def talk : Script := { name := "talk", steps := [.emit [.ofRepo "a"], .emit [.ofRepo "b"]] }

def chat : Script := { name := "chat", steps := [.emit [], .emit [.ofRepo "c"]] }

def plan : Plan := .group .parallel (.leaf talk) [.leaf chat]

def listener : Subscription := { buffer := 0, pause := .ofMillis 5, wants := some 3 }

def start : Run := .spawned (.ofPlan plan) {} listener

def events : List Event :=
  [.move [0] .act, .move [0] .act, .move [1] .act, .move [1] .act, .move [1] .act, .move [0] .act,
    .tick, .read, .move [1] .act]

def ready : List Batch := [[.ofRepo "a"], [.ofRepo "c"], [.ofRepo "b"]]

theorem batches_in_order : ∃ r ch, start.follow events = some r ∧ r.outlet = .channel ch ∧
    r.reader.seen = [[.ofRepo "a"]] ∧ ch.buffer = [[.ofRepo "c"]] ∧
    ch.line = [([0], [.ofRepo "b"])] ∧
    ((Node.ofPlan plan).posted (start.moments events)).map (·.2) = ready := by
  have hfollow : (start.follow events).map (fun r => (r.outlet, r.reader)) =
      some (.channel { capacity := 1, buffer := [[.ofRepo "c"]], line := [([0], [.ofRepo "b"])] },
        { pause := 5, wants := some 2, due := 10, seen := [[.ofRepo "a"]] }) := by decide +kernel
  obtain ⟨r, hr, hresult⟩ := Option.map_eq_some_iff.1 hfollow
  obtain ⟨ho, hreader⟩ := Prod.mk.inj hresult
  obtain ⟨ch, ho', hall, -⟩ := Run.nothing_lost .first (Run.unfolds_of_follow hr)
  obtain rfl := Outlet.channel.inj (ho.symm.trans ho')
  obtain ⟨hposted, -⟩ := hall (by rw [hreader])
  rw [hreader] at hposted
  exact ⟨r, _, hr, ho, by rw [hreader], rfl, rfl, hposted.symm⟩

end Crowded

end SearchPlan
