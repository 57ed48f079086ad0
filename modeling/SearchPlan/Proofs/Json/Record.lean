import Mathlib.Data.List.Forall2
import Mathlib.Data.List.Nodup
import SearchPlan.Json

/-! What JSON values stand for a name, a list or a record, apart from how they are read. -/

namespace SearchPlan.Json

variable {α : Type} {decode : Json → Option α} {Stands : Json → α → Prop} {names : List String}
  {name : String} {j v w : Json} {slot : Option Json} {slots : List (Option Json)} {x : α}

/-- A variant without content: its name, or an object with this as its only key, and `null`. -/
inductive Names : Json → String → Prop
  | string (name : String) : Names (.string name) name
  | key (name : String) : Names (.object [(name, .null)]) name

/-- An array whose elements stand for those of a list. -/
inductive Lists (Stands : Json → α → Prop) : Json → List α → Prop
  | array {vs : List Json} {xs : List α} : List.Forall₂ Stands vs xs → Lists Stands (.array vs) xs

/-- An object with whatever keys, or an array of as many values as the record has fields. -/
inductive IsRecord (names : List String) : Json → Prop
  | object (fields : List (String × Json)) : IsRecord names (.object fields)
  | array {vs : List Json} : vs.length = names.length → IsRecord names (.array vs)

/-- The value of a field: the first one that an object has under its name, or the one that stands in
its place in an array. -/
inductive Has (names : List String) : Json → String → Json → Prop
  | key {name : String} {v : Json} (before after : List (String × Json)) :
      (∀ field ∈ before, field.1 ≠ name) →
        Has names (.object (before ++ (name, v) :: after)) name v
  | place {name : String} {v : Json} {vs : List Json} :
      (name, v) ∈ names.zip vs → Has names (.array vs) name v

/-- The field has a value that stands for `x`. -/
def Gives (names : List String) (Stands : Json → α → Prop) (j : Json) (name : String) (x : α) :
    Prop :=
  ∃ v, Has names j name v ∧ Stands v x

/-- A field that may be missing or `null`. -/
inductive MayGive (names : List String) (Stands : Json → α → Prop) (j : Json) (name : String) :
    Option α → Prop
  | without : (∀ v, Has names j name v → v = .null) → MayGive names Stands j name none
  | given {x : α} : Gives names Stands j name x → MayGive names Stands j name (some x)

/-- What is read is just what stands for a value. -/
def Reads (decode : Json → Option α) (Stands : Json → α → Prop) : Prop :=
  ∀ v x, decode v = some x ↔ Stands v x

def IsString (j : Json) (s : String) : Prop := j = .string s

theorem reads_string : Reads string? IsString := by
  intro v s
  cases v <;> simp [string?, IsString]

theorem variant?_eq_some_iff : j.variant? = some name ↔ j.Names name := by
  constructor
  · intro h
    unfold variant? at h
    split at h
    · cases h
      exact .string name
    · cases h
      exact .key name
    · cases h
  · rintro (_ | _) <;> rfl

theorem mapM_eq_some_iff {vs : List Json} {xs : List α} :
    vs.mapM decode = some xs ↔ List.Forall₂ (fun v x => decode v = some x) vs xs := by
  induction vs generalizing xs with
  | nil => simp [eq_comm]
  | cons v vs ih =>
    simp only [List.mapM_cons, Option.bind_eq_bind, Option.bind_eq_some_iff, ih,
      List.forall₂_cons_left_iff, Option.pure_def, Option.some.injEq]
    constructor
    · rintro ⟨x, hx, xs, hxs, rfl⟩
      exact ⟨x, xs, hx, hxs, rfl⟩
    · rintro ⟨x, xs, hx, hxs, rfl⟩
      exact ⟨x, hx, xs, hxs, rfl⟩

/-- The elements of an array, each of which is read. -/
def list? (decode : Json → Option α) (j : Json) : Option (List α) := j.array?.bind (·.mapM decode)

theorem Reads.list (h : Reads decode Stands) : Reads (list? decode) (Lists Stands) := by
  intro v xs
  constructor
  · intro hv
    obtain ⟨vs, harray, hvs⟩ := Option.bind_eq_some_iff.1 hv
    cases v <;> cases harray
    exact .array ((mapM_eq_some_iff.1 hvs).imp fun v x => (h v x).1)
  · rintro ⟨hvs⟩
    exact mapM_eq_some_iff.2 (hvs.imp fun v x => (h v x).2)

theorem list?_map {encode : α → Json} (hback : ∀ x, decode (encode x) = some x) (xs : List α) :
    list? decode (.array (xs.map encode)) = some xs :=
  mapM_eq_some_iff.2 (List.forall₂_map_left_iff.2 (List.forall₂_same.2 fun x _ => hback x))

/-- What is found for a field. -/
def Slot (names : List String) (j : Json) (name : String) (slot : Option Json) : Prop :=
  ∀ v, slot = some v ↔ Has names j name v

theorem slot_object (names : List String) (fields : List (String × Json)) (name : String) :
    Slot names (.object fields) name (fields.lookup name) := by
  intro v
  rw [List.lookup_eq_some_iff]
  constructor
  · rintro ⟨before, after, rfl, hbefore⟩
    refine .key before after fun field hfield heq => ?_
    have := hbefore field hfield
    rw [heq, bne_self_eq_false] at this
    cases this
  · rintro ⟨before, after, hbefore⟩
    exact ⟨before, after, rfl, fun field hfield => bne_iff_ne.2 (hbefore field hfield).symm⟩

theorem slot_array {vs : List Json} (hnames : names.Nodup) (hlength : vs.length = names.length)
    (hv : (name, v) ∈ names.zip vs) : Slot names (.array vs) name (some v) := by
  have hfirst : ((names.zip vs).map Prod.fst).Nodup := by
    rwa [List.map_fst_zip (Nat.le_of_eq hlength.symm)]
  intro w
  constructor
  · rintro ⟨⟩
    exact .place hv
  · rintro ⟨⟩
    case place hw => exact congrArg some (Prod.mk.inj (List.inj_on_of_nodup_map hfirst hv hw rfl)).2

theorem isRecord_of_record? (h : j.record? names = some slots) : IsRecord names j := by
  unfold record? at h
  split at h
  · exact .object _
  · split at h
    case isTrue hlength => exact .array hlength
    case isFalse => cases h
  · cases h

theorem slots_of_record? (hnames : names.Nodup) (h : j.record? names = some slots) :
    List.Forall₂ (Slot names j) names slots := by
  cases isRecord_of_record? h with
  | object fields =>
    cases h
    exact List.forall₂_map_right_iff.2 (List.forall₂_same.2 fun name _ => slot_object _ _ name)
  | @array vs hlength =>
    rw [record?, if_pos hlength] at h
    cases h
    rw [List.forall₂_map_right_iff, List.forall₂_iff_zip]
    exact ⟨hlength.symm, fun hv => slot_array hnames hlength hv⟩

theorem exists_record? (h : IsRecord names j) : ∃ slots, j.record? names = some slots := by
  cases h with
  | object fields => exact ⟨_, rfl⟩
  | array hlength => exact ⟨_, if_pos hlength⟩

/-- A value that may not be missing. -/
def required? (decode : Json → Option α) (slot : Option Json) : Option α := slot.bind decode

theorem required?_some (decode : Json → Option α) (v : Json) :
    required? decode (some v) = decode v := rfl

theorem Slot.gives (hslot : Slot names j name slot) (h : Reads decode Stands) :
    required? decode slot = some x ↔ Gives names Stands j name x := by
  rw [required?, Option.bind_eq_some_iff]
  exact exists_congr fun v => and_congr (hslot v) (h v x)

theorem optional?_of_ne_null (hv : v ≠ .null) :
    optional? decode (some v) = (decode v).map some := by
  cases v
  case null => exact absurd rfl hv
  all_goals rfl

theorem optional?_map (encode : α → Json) (hnull : ∀ x, encode x ≠ .null)
    (hback : ∀ x, decode (encode x) = some x) (x : Option α) :
    optional? decode (x.map encode) = some x := by
  cases x with
  | none => rfl
  | some x => rw [Option.map_some, optional?_of_ne_null (hnull x), hback, Option.map_some]

theorem not_gives_of_null (hslot : Slot names j name slot) (h : Reads decode Stands)
    (hnull : decode .null = none) (hv : ∀ v, slot = some v → v = .null) :
    ¬Gives names Stands j name x := by
  rintro ⟨v, hhas, hstands⟩
  cases hv v ((hslot v).2 hhas)
  rw [← h, hnull] at hstands
  cases hstands

theorem Slot.mayGive {x : Option α} (hslot : Slot names j name slot) (h : Reads decode Stands)
    (hnull : decode .null = none) :
    optional? decode slot = some x ↔ MayGive names Stands j name x := by
  by_cases hall : ∀ v, slot = some v → v = .null
  case pos =>
    have hnone : optional? decode slot = some none := by
      cases slot with
      | none => rfl
      | some v => cases hall v rfl; rfl
    rw [hnone, Option.some.injEq]
    constructor
    · rintro rfl
      exact .without fun v hhas => hall v ((hslot v).2 hhas)
    · rintro (_ | hgives)
      · rfl
      · exact absurd hgives (not_gives_of_null hslot h hnull hall)
  case neg =>
    obtain ⟨v, himp⟩ := not_forall.1 hall
    obtain ⟨rfl, hv⟩ := Classical.not_imp.1 himp
    rw [optional?_of_ne_null hv, Option.map_eq_some_iff]
    constructor
    · rintro ⟨x, hx, rfl⟩
      exact .given ((hslot.gives h).1 hx)
    · rintro (hwithout | hgives)
      · exact absurd (hwithout v ((hslot v).1 rfl)) hv
      · exact ⟨_, (hslot.gives h).2 hgives, rfl⟩

end SearchPlan.Json
