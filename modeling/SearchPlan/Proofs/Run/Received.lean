import SearchPlan.Proofs.Run.Happens

/-! What has reached the sink of the caller of a run. Nothing is added to it after the tree has
ended. -/

namespace SearchPlan

variable {r r' : Run} {e : Event} {es : List Event}

/-- The batches that an outlet holds for its caller. -/
def Outlet.stored : Outlet → List Batch
  | .collector held => held
  | .channel c => c.buffer

/-- The batches that have reached the caller's sink, those already read from it included. -/
def Run.received (r : Run) : List Batch := r.reader.seen ++ r.outlet.stored

theorem Channel.eq_of_read {ch ch' : Channel} {b : Batch} (h : ch.read? = some (b, ch')) :
    ch = { ch' with buffer := b :: ch'.buffer } := by
  simp only [read?] at h
  split at h
  case h_1 => cases h
  case h_2 hb =>
    cases h
    rw [← hb]

/-- A reader that leaves drops what is left in the buffer. -/
theorem Channel.stored_close (ch : Channel) (gone : Bool) :
    (if gone then ch.close else ch).buffer <+: ch.buffer := by
  cases gone with
  | true => exact List.nil_prefix
  | false => exact List.prefix_rfl

/-- When the tree has ended, nothing reaches the sink any more. -/
theorem Run.Happens.received (h : Happens r e r')
    (ho : r.tree.outcome?.isSome) : r'.tree = r.tree ∧ r'.received <+: r.received := by
  cases h with
  | move hm =>
    rw [hm.outcome?_eq_none] at ho
    cases ho
  | @read ch b ch' hgone hdue hout hread =>
    obtain rfl := Channel.eq_of_read hread
    refine ⟨rfl, ?_⟩
    simp only [Run.received, hout, Outlet.stored, Reader.read, List.append_assoc]
    exact (List.prefix_append_right_inj _).2 ((List.prefix_append_right_inj [b]).2
      (ch'.stored_close _))
  | _ => exact ⟨rfl, List.prefix_rfl⟩

theorem Run.received_of_follow (h : r.follow es = some r')
    (ho : r.tree.outcome?.isSome) : r'.tree = r.tree ∧ r'.received <+: r.received := by
  induction es generalizing r with
  | nil =>
    cases h
    exact ⟨rfl, List.prefix_rfl⟩
  | cons e es ih =>
    obtain ⟨k, hk, h⟩ := follow_cons_eq_some.1 h
    obtain ⟨htree, hreceived⟩ := (happens_of_step hk).2.received ho
    rw [← htree] at ho
    obtain ⟨htree', hreceived'⟩ := ih h ho
    exact ⟨htree'.trans htree, hreceived'.trans hreceived⟩

end SearchPlan
