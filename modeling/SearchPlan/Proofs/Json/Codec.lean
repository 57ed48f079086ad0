import SearchPlan.Json.Codec
import SearchPlan.Proofs.Json.Record
import SearchPlan.Proofs.Json.Text

/-! The JSON forms of matches, events, statuses, alerts and executions: what stands for each of
them, that just this is read, and that all that is written is read back. -/

namespace SearchPlan

namespace Json

variable {α : Type} {j : Json}

/-- An integer of 32 bits without sign. -/
def IsLine (j : Json) (n : UInt32) : Prop := j = .integer n.toNat

def IsMatchKind (j : Json) (k : MatchKind) : Prop := j.Names k.text

def IsStatus (j : Json) (s : Status) : Prop := j.Names s.text

def IsAlertKind (j : Json) (k : AlertKind) : Prop := j.Names k.text

def matchFields : List String := ["repo", "path", "line", "kind", "preview"]

structure IsMatch (j : Json) (m : Match) : Prop where
  record : IsRecord matchFields j
  repo : Gives matchFields IsString j "repo" m.repo
  path : MayGive matchFields IsString j "path" m.path
  line : MayGive matchFields IsLine j "line" m.line
  kind : Gives matchFields IsMatchKind j "kind" m.kind
  preview : MayGive matchFields IsString j "preview" m.preview

def eventFields : List String := ["matches"]

structure IsEvent (j : Json) (b : Batch) : Prop where
  record : IsRecord eventFields j
  elements : Gives eventFields (Lists IsMatch) j "matches" b

def alertFields : List String := ["kind", "job", "message"]

structure IsAlert (j : Json) (a : Alert) : Prop where
  record : IsRecord alertFields j
  kind : Gives alertFields IsAlertKind j "kind" a.kind
  job : Gives alertFields IsString j "job" a.job
  message : Gives alertFields IsString j "message" a.message

def executionFields : List String := ["status", "alerts"]

structure IsExecution (j : Json) (e : Execution) : Prop where
  record : IsRecord executionFields j
  status : Gives executionFields IsStatus j "status" e.status
  alerts : Gives executionFields (Lists IsAlert) j "alerts" e.alerts

theorem reads_variant {all : List α} {text : α → String}
    (hfind : ∀ k, all.find? (text · = text k) = some k) :
    Reads (fun j => j.variant?.bind fun name => all.find? (text · = name))
      fun j k => j.Names (text k) := by
  intro j k
  dsimp only
  rw [Option.bind_eq_some_iff]
  constructor
  · rintro ⟨name, hname, hk⟩
    have htext := List.find?_some hk
    rw [decide_eq_true_eq] at htext
    rw [htext]
    exact variant?_eq_some_iff.1 hname
  · intro h
    exact ⟨text k, variant?_eq_some_iff.2 h, hfind k⟩

theorem reads_matchKind : Reads MatchKind.ofJson? IsMatchKind :=
  reads_variant fun k => by cases k <;> rfl

theorem reads_status : Reads Status.ofJson? IsStatus :=
  reads_variant fun k => by cases k <;> rfl

theorem reads_alertKind : Reads AlertKind.ofJson? IsAlertKind :=
  reads_variant fun k => by cases k <;> rfl

theorem reads_line : Reads Match.lineOfJson? IsLine := by
  intro j line
  constructor
  · intro h
    unfold Match.lineOfJson? at h
    split at h
    case h_1 n =>
      split at h
      case isTrue hn =>
        cases h
        rw [IsLine, UInt32.toNat_ofNat_of_lt' hn]
        rfl
      case isFalse => cases h
    case h_2 => cases h
  · rintro rfl
    have hline : Match.lineOfJson? (.integer (.ofNat line.toNat)) = some (line.toNat.toUInt32) :=
      if_pos line.toNat_lt_size
    rw [Nat.toUInt32_eq, UInt32.ofNat_toNat] at hline
    exact hline

theorem ofJson?_match {repo path line kind preview : Option Json}
    (h : j.record? matchFields = some [repo, path, line, kind, preview]) :
    Match.ofJson? j = do
      let repo ← required? string? repo
      let path ← optional? string? path
      let line ← optional? Match.lineOfJson? line
      let kind ← required? MatchKind.ofJson? kind
      let preview ← optional? string? preview
      return { repo, path, line, kind, preview } := by
  rw [Match.ofJson?, ← matchFields, h]
  cases repo <;> cases kind <;> simp [required?]

theorem reads_record {decode : Json → Option α} {Stands : Json → α → Prop} {names : List String}
    (hnames : names.Nodup) (hrecord : ∀ {j x}, Stands j x → IsRecord names j)
    (hnone : ∀ {j}, j.record? names = none → decode j = none)
    (hsome : ∀ {j slots}, j.record? names = some slots → List.Forall₂ (Slot names j) names slots →
      ∀ x, decode j = some x ↔ Stands j x) : Reads decode Stands := by
  intro j x
  cases h : j.record? names with
  | none =>
    rw [hnone h]
    refine iff_of_false nofun fun hstands => ?_
    obtain ⟨slots, hslots⟩ := exists_record? (hrecord hstands)
    rw [h] at hslots
    cases hslots
  | some slots => exact hsome h (slots_of_record? hnames h) x

theorem reads_match : Reads Match.ofJson? IsMatch := by
  refine reads_record (by decide) IsMatch.record ?_ ?_
  · intro j h
    rw [Match.ofJson?, ← matchFields, h]
  · intro j slots h hslots m
    obtain _ | ⟨hrepo, _ | ⟨hpath, _ | ⟨hline, _ | ⟨hkind, _ | ⟨hpreview, _ | _⟩⟩⟩⟩⟩ := hslots
    rw [ofJson?_match h]
    simp only [Option.bind_eq_bind, Option.bind_eq_some_iff, Option.pure_def, Option.some.injEq,
      hrepo.gives reads_string, hpath.mayGive reads_string rfl, hline.mayGive reads_line rfl,
      hkind.gives reads_matchKind, hpreview.mayGive reads_string rfl]
    constructor
    · rintro ⟨repo, hrepo, path, hpath, line, hline, kind, hkind, preview, hpreview, rfl⟩
      exact ⟨isRecord_of_record? h, hrepo, hpath, hline, hkind, hpreview⟩
    · intro h
      exact ⟨_, h.repo, _, h.path, _, h.line, _, h.kind, _, h.preview, rfl⟩

theorem ofJson?_event {elements : Option Json} (h : j.record? eventFields = some [elements]) :
    Batch.ofJson? j = required? (list? Match.ofJson?) elements := by
  rw [Batch.ofJson?, ← eventFields, h]
  cases elements <;> rfl

theorem reads_event : Reads Batch.ofJson? IsEvent := by
  refine reads_record (by decide) IsEvent.record ?_ ?_
  · intro j h
    rw [Batch.ofJson?, ← eventFields, h]
  · intro j slots h hslots b
    obtain _ | ⟨helements, _ | _⟩ := hslots
    rw [ofJson?_event h, helements.gives reads_match.list]
    exact ⟨fun hb => ⟨isRecord_of_record? h, hb⟩, IsEvent.elements⟩

theorem ofJson?_alert {kind job message : Option Json}
    (h : j.record? alertFields = some [kind, job, message]) :
    Alert.ofJson? j = do
      let kind ← required? AlertKind.ofJson? kind
      let job ← required? string? job
      let message ← required? string? message
      return { kind, job, message } := by
  rw [Alert.ofJson?, ← alertFields, h]
  cases kind <;> cases job <;> cases message <;> simp [required?]

theorem reads_alert : Reads Alert.ofJson? IsAlert := by
  refine reads_record (by decide) IsAlert.record ?_ ?_
  · intro j h
    rw [Alert.ofJson?, ← alertFields, h]
  · intro j slots h hslots a
    obtain _ | ⟨hkind, _ | ⟨hjob, _ | ⟨hmessage, _ | _⟩⟩⟩ := hslots
    rw [ofJson?_alert h]
    simp only [Option.bind_eq_bind, Option.bind_eq_some_iff, Option.pure_def, Option.some.injEq,
      hkind.gives reads_alertKind, hjob.gives reads_string, hmessage.gives reads_string]
    constructor
    · rintro ⟨kind, hkind, job, hjob, message, hmessage, rfl⟩
      exact ⟨isRecord_of_record? h, hkind, hjob, hmessage⟩
    · intro h
      exact ⟨_, h.kind, _, h.job, _, h.message, rfl⟩

theorem ofJson?_execution {status alerts : Option Json}
    (h : j.record? executionFields = some [status, alerts]) :
    Execution.ofJson? j = do
      let status ← required? Status.ofJson? status
      let alerts ← required? (list? Alert.ofJson?) alerts
      return { status, alerts } := by
  rw [Execution.ofJson?, ← executionFields, h]
  cases status <;> cases alerts <;> simp [required?, list?, Option.bind_assoc]

theorem reads_execution : Reads Execution.ofJson? IsExecution := by
  refine reads_record (by decide) IsExecution.record ?_ ?_
  · intro j h
    rw [Execution.ofJson?, ← executionFields, h]
  · intro j slots h hslots e
    obtain _ | ⟨hstatus, _ | ⟨halerts, _ | _⟩⟩ := hslots
    rw [ofJson?_execution h]
    simp only [Option.bind_eq_bind, Option.bind_eq_some_iff, Option.pure_def, Option.some.injEq,
      hstatus.gives reads_status, halerts.gives reads_alert.list]
    constructor
    · rintro ⟨status, hstatus, alerts, halerts, rfl⟩
      exact ⟨isRecord_of_record? h, hstatus, halerts⟩
    · intro h
      exact ⟨_, h.status, _, h.alerts, rfl⟩

theorem record?_toJson (m : Match) : m.toJson.record? matchFields =
    some [some (.string m.repo), m.path.map .string, m.line.map fun n => .ofNat n.toNat,
      some m.kind.toJson, m.preview.map .string] := by
  obtain ⟨repo, path, line, kind, preview⟩ := m
  cases path <;> cases line <;> cases preview <;> rfl

theorem string?_string (s : String) : string? (.string s) = some s := rfl

theorem ofJson?_toJson_kind (k : MatchKind) : MatchKind.ofJson? k.toJson = some k :=
  (reads_matchKind _ k).2 (.string k.text)

theorem ofJson?_toJson_line (n : UInt32) : Match.lineOfJson? (.ofNat n.toNat) = some n :=
  (reads_line _ n).2 rfl

theorem ofJson?_toJson_match (m : Match) : Match.ofJson? m.toJson = some m := by
  have hpath := optional?_map .string nofun string?_string m.path
  have hline := optional?_map (fun n : UInt32 => .ofNat n.toNat) nofun ofJson?_toJson_line m.line
  have hpreview := optional?_map .string nofun string?_string m.preview
  rw [ofJson?_match (record?_toJson m), required?_some, required?_some, string?_string, hpath,
    hline, ofJson?_toJson_kind, hpreview]
  rfl

theorem ofJson?_toJson_event (b : Batch) : Batch.ofJson? b.toJson = some b := by
  rw [ofJson?_event rfl]
  exact list?_map ofJson?_toJson_match b

theorem ofJson?_toJson_status (s : Status) : Status.ofJson? s.toJson = some s :=
  (reads_status _ s).2 (.string s.text)

theorem ofJson?_toJson_alertKind (k : AlertKind) : AlertKind.ofJson? k.toJson = some k :=
  (reads_alertKind _ k).2 (.string k.text)

theorem ofJson?_toJson_alert (a : Alert) : Alert.ofJson? a.toJson = some a := by
  have hrecord : a.toJson.record? alertFields =
      some [some a.kind.toJson, some (.string a.job), some (.string a.message)] := rfl
  rw [ofJson?_alert hrecord, required?_some, required?_some, required?_some,
    ofJson?_toJson_alertKind, string?_string, string?_string]
  rfl

theorem ofJson?_toJson_execution (e : Execution) : Execution.ofJson? e.toJson = some e := by
  have hrecord : e.toJson.record? executionFields =
      some [some e.status.toJson, some (.array (e.alerts.map Alert.toJson))] := rfl
  rw [ofJson?_execution hrecord, required?_some, required?_some, ofJson?_toJson_status,
    list?_map ofJson?_toJson_alert]
  rfl

theorem plain_match (m : Match) : m.toJson.Plain := by
  obtain ⟨repo, path, line, kind, preview⟩ := m
  refine .object ?_ ?_
  · cases path <;> cases line <;> cases preview <;> exact of_decide_eq_true rfl
  · cases path <;> cases line <;> cases preview <;>
      simp [MatchKind.toJson, ofNat, Plain.string, Plain.integer]

theorem plain_list {encode : α → Json} (h : ∀ x, (encode x).Plain) (xs : List α) :
    (array (xs.map encode)).Plain :=
  .array (List.forall_mem_map.2 fun x _ => h x)

theorem plain_event (b : Batch) : b.toJson.Plain :=
  .object (List.nodup_singleton _) (List.forall_mem_singleton.2 (plain_list plain_match b))

theorem plain_alert (a : Alert) : a.toJson.Plain := by
  refine .object (of_decide_eq_true rfl) ?_
  simp [AlertKind.toJson, Plain.string]

theorem plain_execution (e : Execution) : e.toJson.Plain := by
  refine .object (of_decide_eq_true rfl) ?_
  simp [Status.toJson, Plain.string, plain_list plain_alert]

/-- What is read is just what stands for a value, a value is read back from what is written of it
and from its text, and whatever it was read from, writing and reading it once more changes
nothing. -/
structure Faithful (encode : α → Json) (decode : Json → Option α) (Stands : Json → α → Prop) :
    Prop where
  reads : Reads decode Stands
  read_back : ∀ x, decode (encode x) = some x
  compact_back : ∀ x, (Reader.read? (encode x).compact).bind decode = some x
  pretty_back : ∀ x depth, (Reader.read? ((encode x).pretty depth)).bind decode = some x
  settles : ∀ j x, decode j = some x →
    decode (encode x) = some x ∧ (decode (encode x)).map encode = some (encode x)

theorem Reads.faithful {encode : α → Json} {decode : Json → Option α} {Stands : Json → α → Prop}
    (h : Reads decode Stands) (hplain : ∀ x, (encode x).Plain)
    (hback : ∀ x, decode (encode x) = some x) : Faithful encode decode Stands where
  reads := h
  read_back := hback
  compact_back x := by rw [read?_compact (hplain x), Option.bind_some, hback]
  pretty_back x depth := by rw [read?_pretty (hplain x), Option.bind_some, hback]
  settles j x _ := ⟨hback x, by rw [hback, Option.map_some]⟩

theorem codec_faithful :
    Faithful Match.toJson Match.ofJson? IsMatch ∧ Faithful Batch.toJson Batch.ofJson? IsEvent ∧
      Faithful Status.toJson Status.ofJson? IsStatus ∧ Faithful Alert.toJson Alert.ofJson? IsAlert ∧
      Faithful Execution.toJson Execution.ofJson? IsExecution :=
  ⟨reads_match.faithful plain_match ofJson?_toJson_match,
    reads_event.faithful plain_event ofJson?_toJson_event,
    reads_status.faithful (fun s => .string s.text) ofJson?_toJson_status,
    reads_alert.faithful plain_alert ofJson?_toJson_alert,
    reads_execution.faithful plain_execution ofJson?_toJson_execution⟩

end Json

end SearchPlan
