import Mathlib.Data.List.DropRight
import Mathlib.Data.List.Forall2
import SearchPlan.Json.Writer
import SearchPlan.Proofs.Json.Scalar

/-! The text that is written of a JSON value, on one line or on many, is read as that value. -/

namespace SearchPlan.Json

namespace Reader

variable {fuel : Nat} {cs rest text inner closing blanks : List Char} {texts : List (List Char)}
  {v : Json} {vs : List Json} {field : String × Json} {fields before : List (String × Json)}

theorem skipBlanks_skipBlanks (cs : List Char) : skipBlanks (skipBlanks cs) = skipBlanks cs :=
  List.dropWhile_idempotent _ cs

theorem value?_skipBlanks (fuel : Nat) (cs : List Char) :
    value? fuel (skipBlanks cs) = value? fuel cs := by
  cases fuel with
  | zero => rw [value?, value?]
  | succ fuel => rw [value?, skipBlanks_skipBlanks, value?]

theorem value?_append (h : Blank blanks) (fuel : Nat) (cs : List Char) :
    value? fuel (blanks ++ cs) = value? fuel cs := by
  rw [← value?_skipBlanks, skipBlanks_append h, value?_skipBlanks]

theorem elements?_skipBlanks (fuel : Nat) (read : List Json) (cs : List Char) :
    elements? fuel read (skipBlanks cs) = elements? fuel read cs := by
  cases fuel with
  | zero => rw [elements?, elements?]
  | succ fuel => rw [elements?, value?_skipBlanks, elements?]

theorem elements?_append (h : Blank blanks) (fuel : Nat) (read : List Json) (cs : List Char) :
    elements? fuel read (blanks ++ cs) = elements? fuel read cs := by
  rw [← elements?_skipBlanks, skipBlanks_append h, elements?_skipBlanks]

theorem elements?_more (htext : Spells text v) (hfuel : text.length ≤ fuel) (read : List Json)
    (cs : List Char) :
    elements? (fuel + 1) read (text ++ ',' :: cs) = elements? fuel (v :: read) cs := by
  rw [elements?, htext _ _ hfuel (ends_cons (by decide))]
  dsimp only
  rw [skipBlanks_cons rfl]
  rfl

theorem elements?_last (htext : Spells text v) (hclosing : Blank closing)
    (hfuel : text.length ≤ fuel) (read : List Json) (rest : List Char) :
    elements? (fuel + 1) read (text ++ (closing ++ ']' :: rest)) =
      some (read.reverse ++ [v], rest) := by
  rw [elements?, htext _ _ hfuel (ends_blank hclosing (ends_cons (by decide)))]
  dsimp only
  rw [skipBlanks_append hclosing, skipBlanks_cons rfl]
  exact congrArg (fun vs => some (vs, rest)) List.reverse_cons

theorem elements?_intercalate (hinner : Blank inner) (hclosing : Blank closing)
    (htext : Spells text v) (htexts : List.Forall₂ Spells texts vs)
    (hfuel : ((',' :: inner).intercalate (text :: texts)).length < fuel) (read : List Json)
    (rest : List Char) :
    elements? fuel read ((',' :: inner).intercalate (text :: texts) ++ (closing ++ ']' :: rest)) =
      some (read.reverse ++ v :: vs, rest) := by
  induction htexts generalizing text v fuel read with
  | nil =>
    obtain ⟨fuel, rfl⟩ := Nat.exists_eq_succ_of_ne_zero (Nat.ne_zero_of_lt hfuel)
    rw [List.intercalate_singleton] at hfuel ⊢
    exact elements?_last htext hclosing (Nat.le_of_lt_succ hfuel) read rest
  | @cons next w texts vs hnext _ ih =>
    obtain ⟨fuel, rfl⟩ := Nat.exists_eq_succ_of_ne_zero (Nat.ne_zero_of_lt hfuel)
    rw [List.intercalate_cons_cons] at hfuel ⊢
    simp only [List.length_append, List.length_cons] at hfuel
    rw [List.append_assoc, List.append_assoc, List.cons_append,
      elements?_more htext (by omega), elements?_append hinner, ih hnext (by omega),
      List.reverse_cons, List.append_assoc, List.singleton_append]

theorem value?_bracket (fuel : Nat) (cs : List Char) :
    value? (fuel + 1) ('[' :: cs) =
      match skipBlanks cs with
      | ']' :: rest => some (.array [], rest)
      | cs => (elements? fuel [] cs).map fun (vs, rest) => (.array vs, rest) := by
  rw [value?, skipBlanks_cons rfl]
  rfl

theorem value?_closing_bracket (fuel : Nat) (cs : List Char) : value? fuel (']' :: cs) = none := by
  cases fuel with
  | zero => rw [value?]
  | succ fuel =>
    rw [value?, skipBlanks_cons rfl]
    rfl

theorem value?_elements (h : elements? fuel [] cs = some (vs, rest)) :
    value? (fuel + 1) ('[' :: cs) = some (.array vs, rest) := by
  rw [← elements?_skipBlanks] at h
  rw [value?_bracket]
  split
  case h_1 heq =>
    -- No element starts with the bracket that would end an empty array.
    rw [heq] at h
    cases fuel with
    | zero => rw [elements?] at h; cases h
    | succ fuel => rw [elements?, value?_closing_bracket] at h; cases h
  case h_2 => rw [h, Option.map_some]

theorem spells_array (hinner : Blank inner) (hclosing : Blank closing)
    (h : List.Forall₂ Spells texts vs) :
    Spells ('[' :: (inner ++ (',' :: inner).intercalate texts ++ closing ++ [']']))
      (.array vs) := by
  refine spells_of_succ nofun fun fuel rest hfuel _ => ?_
  simp only [List.length_cons, List.length_append, List.length_nil] at hfuel
  simp only [List.cons_append, List.append_assoc, List.nil_append]
  cases h with
  | nil =>
    rw [List.intercalate_nil, List.nil_append, value?_bracket, skipBlanks_append hinner,
      skipBlanks_append hclosing, skipBlanks_cons rfl]
    rfl
  | cons htext htexts =>
    refine value?_elements ?_
    rw [elements?_append hinner]
    exact elements?_intercalate hinner hclosing htext htexts (by omega) [] rest

/-- The text of a field: its name, a colon and the text of its value. -/
inductive SpellsField : List Char → String × Json → Prop
  | colon {text blanks : List Char} {v : Json} (key : String) : Blank blanks → Spells text v →
      SpellsField ((quote key).toList ++ ':' :: (blanks ++ text)) (key, v)

theorem insert_of_new {key : String} (h : key ∉ fields.map Prod.fst) (v : Json) :
    insert key v fields = fields ++ [(key, v)] := by
  induction fields with
  | nil => rfl
  | cons field fields ih =>
    obtain ⟨hkey, hfields⟩ := not_or.1 (List.mem_cons.not.1 h)
    rw [insert, if_neg (Ne.symm hkey), ih hfields, List.cons_append]

theorem members?_skipBlanks (fuel : Nat) (read : List (String × Json)) (cs : List Char) :
    members? fuel read (skipBlanks cs) = members? fuel read cs := by
  cases fuel with
  | zero => rw [members?, members?]
  | succ fuel => rw [members?, skipBlanks_skipBlanks, members?]

theorem members?_append (h : Blank blanks) (fuel : Nat) (read : List (String × Json))
    (cs : List Char) : members? fuel read (blanks ++ cs) = members? fuel read cs := by
  rw [← members?_skipBlanks, skipBlanks_append h, members?_skipBlanks]

/-- What is made of the text behind a field, the white space before it left out. -/
def others? (fuel : Nat) (read : List (String × Json)) :
    List Char → Option (List (String × Json) × List Char)
  | ',' :: cs => members? fuel read cs
  | '\x7d' :: cs => some (read, cs)
  | _ => none

theorem members?_field (hfield : SpellsField text field) (hfuel : text.length ≤ fuel)
    (hnew : field.1 ∉ before.map Prod.fst) (hrest : Ends rest) :
    members? (fuel + 1) before (text ++ rest) =
      others? fuel (before ++ [field]) (skipBlanks rest) := by
  obtain @⟨text, blanks, v, key, hblanks, htext⟩ := hfield
  rw [toList_quote] at hfuel ⊢
  simp only [List.length_append, List.length_cons, List.length_nil] at hfuel
  simp only [List.cons_append, List.append_assoc, List.nil_append]
  have hquote (cs : List Char) : skipBlanks ('"' :: cs) = '"' :: cs := skipBlanks_cons rfl cs
  have hcolon (cs : List Char) : skipBlanks (':' :: cs) = ':' :: cs := skipBlanks_cons rfl cs
  have hkey := string?_quote (s := key) (show _ < fuel by omega)
  have hvalue := htext fuel rest (by omega) hrest
  simp only [members?, hquote, hkey, hcolon, value?_append hblanks, hvalue, insert_of_new hnew]
  rfl

theorem members?_more (hfield : SpellsField text field) (hfuel : text.length ≤ fuel)
    (hnew : field.1 ∉ before.map Prod.fst) (cs : List Char) :
    members? (fuel + 1) before (text ++ ',' :: cs) =
      members? fuel (before ++ [field]) cs := by
  rw [members?_field hfield hfuel hnew (ends_cons (by decide)), skipBlanks_cons rfl, others?]

theorem members?_last (hfield : SpellsField text field) (hclosing : Blank closing)
    (hfuel : text.length ≤ fuel) (hnew : field.1 ∉ before.map Prod.fst) (rest : List Char) :
    members? (fuel + 1) before (text ++ (closing ++ '\x7d' :: rest)) =
      some (before ++ [field], rest) := by
  rw [members?_field hfield hfuel hnew (ends_blank hclosing (ends_cons (by decide))),
    skipBlanks_append hclosing, skipBlanks_cons rfl, others?]

theorem new_of_nodup (h : ((before ++ field :: fields).map Prod.fst).Nodup) :
    field.1 ∉ before.map Prod.fst := by
  rw [List.map_append, List.nodup_append] at h
  exact fun hmem => h.2.2 field.1 hmem field.1 List.mem_cons_self rfl

theorem members?_intercalate (hinner : Blank inner) (hclosing : Blank closing)
    (htext : SpellsField text field) (htexts : List.Forall₂ SpellsField texts fields)
    (hfuel : ((',' :: inner).intercalate (text :: texts)).length < fuel)
    (hkeys : ((before ++ field :: fields).map Prod.fst).Nodup) (rest : List Char) :
    members? fuel before
        ((',' :: inner).intercalate (text :: texts) ++ (closing ++ '\x7d' :: rest)) =
      some (before ++ field :: fields, rest) := by
  induction htexts generalizing text field fuel before with
  | nil =>
    obtain ⟨fuel, rfl⟩ := Nat.exists_eq_succ_of_ne_zero (Nat.ne_zero_of_lt hfuel)
    rw [List.intercalate_singleton] at hfuel ⊢
    exact members?_last htext hclosing (Nat.le_of_lt_succ hfuel) (new_of_nodup hkeys) rest
  | cons hnext _ ih =>
    obtain ⟨fuel, rfl⟩ := Nat.exists_eq_succ_of_ne_zero (Nat.ne_zero_of_lt hfuel)
    rw [List.intercalate_cons_cons] at hfuel ⊢
    simp only [List.length_append, List.length_cons] at hfuel
    -- A new key goes behind the ones before, so `insert` keeps the fields in their order.
    have hnew := new_of_nodup hkeys
    rw [List.append_cons] at hkeys
    rw [List.append_assoc, List.append_assoc, List.cons_append,
      members?_more htext (by omega) hnew, members?_append hinner,
      ih hnext (by omega) hkeys, List.append_assoc, List.singleton_append]

theorem value?_brace (fuel : Nat) (cs : List Char) :
    value? (fuel + 1) ('\x7b' :: cs) =
      match skipBlanks cs with
      | '\x7d' :: rest => some (.object [], rest)
      | cs => (members? fuel [] cs).map fun (ms, rest) => (.object ms, rest) := by
  rw [value?, skipBlanks_cons rfl]
  rfl

theorem value?_members (h : members? fuel [] cs = some (fields, rest)) :
    value? (fuel + 1) ('\x7b' :: cs) = some (.object fields, rest) := by
  rw [← members?_skipBlanks] at h
  rw [value?_brace]
  split
  case h_1 heq =>
    rw [heq] at h
    cases fuel with
    | zero => rw [members?] at h; cases h
    | succ fuel => rw [members?, skipBlanks_cons rfl] at h; cases h
  case h_2 => rw [h, Option.map_some]

theorem spells_object (hinner : Blank inner) (hclosing : Blank closing)
    (h : List.Forall₂ SpellsField texts fields) (hkeys : (fields.map Prod.fst).Nodup) :
    Spells ('\x7b' :: (inner ++ (',' :: inner).intercalate texts ++ closing ++ ['\x7d']))
      (.object fields) := by
  refine spells_of_succ nofun fun fuel rest hfuel _ => ?_
  simp only [List.length_cons, List.length_append, List.length_nil] at hfuel
  simp only [List.cons_append, List.append_assoc, List.nil_append]
  cases h with
  | nil =>
    rw [List.intercalate_nil, List.nil_append, value?_brace, skipBlanks_append hinner,
      skipBlanks_append hclosing, skipBlanks_cons rfl]
    rfl
  | cons htext htexts =>
    refine value?_members ?_
    rw [members?_append hinner]
    exact members?_intercalate hinner hclosing htext htexts (by omega) hkeys rest

theorem read?_of_spells {text : String} (h : Spells text.toList v) : read? text = some v := by
  have hvalue := h (2 * text.toList.length + 1) [] (by omega) ends_nil
  rw [List.append_nil] at hvalue
  rw [read?, hvalue]
  rfl

variable {write : Json → String}

theorem toList_brackets (opening inner closing last : String) (parts : List String) :
    (opening ++ inner ++ ("," ++ inner).intercalate parts ++ closing ++ last).toList =
      opening.toList ++ (inner.toList ++
        (',' :: inner.toList).intercalate (parts.map String.toList) ++ closing.toList ++
          last.toList) := by
  simp [String.toList_intercalate]

theorem spells_elements (inner closing : String) (hinner : Blank inner.toList)
    (hclosing : Blank closing.toList) (h : ∀ v ∈ vs, Spells (write v).toList v) :
    Spells ("[" ++ inner ++ ("," ++ inner).intercalate (vs.map write) ++ closing ++ "]").toList
      (.array vs) := by
  rw [toList_brackets, List.map_map]
  exact spells_array hinner hclosing (List.forall₂_map_left_iff.2 (List.forall₂_same.2 h))

theorem spells_fields (inner space closing : String) (hinner : Blank inner.toList)
    (hspace : Blank space.toList) (hclosing : Blank closing.toList)
    (hkeys : (fields.map Prod.fst).Nodup)
    (h : ∀ field ∈ fields, Spells (write field.2).toList field.2) :
    Spells ("\x7b" ++ inner ++ ("," ++ inner).intercalate (fields.map fun field =>
      quote field.1 ++ (":" ++ space) ++ write field.2) ++ closing ++ "\x7d").toList
      (.object fields) := by
  rw [toList_brackets, List.map_map]
  refine spells_object hinner hclosing (List.forall₂_map_left_iff.2 (List.forall₂_same.2 ?_)) hkeys
  intro field hfield
  have hcolon := SpellsField.colon field.1 hspace (h field hfield)
  simpa using hcolon

end Reader

/-- Made of integers, with no key twice in an object. -/
inductive Plain : Json → Prop
  | null : Plain .null
  | bool (b : Bool) : Plain (.bool b)
  | integer (n : Int) : Plain (.integer n)
  | string (s : String) : Plain (.string s)
  | array {vs : List Json} : (∀ v ∈ vs, Plain v) → Plain (.array vs)
  | object {fields : List (String × Json)} : (fields.map Prod.fst).Nodup →
      (∀ field ∈ fields, Plain field.2) → Plain (.object fields)

theorem compactAll_eq (vs : List Json) : compactAll vs = vs.map compact := by
  induction vs with
  | nil => rfl
  | cons v vs ih => rw [compactAll, ih, List.map_cons]

theorem compactFields_eq (fields : List (String × Json)) :
    compactFields fields = fields.map fun field => quote field.1 ++ ":" ++ field.2.compact := by
  induction fields with
  | nil => rfl
  | cons field fields ih => rw [compactFields, ih, List.map_cons]

theorem prettyAll_eq (depth : Nat) (vs : List Json) :
    prettyAll depth vs = vs.map (pretty depth) := by
  induction vs with
  | nil => rfl
  | cons v vs ih => rw [prettyAll, ih, List.map_cons]

theorem prettyFields_eq (depth : Nat) (fields : List (String × Json)) :
    prettyFields depth fields =
      fields.map fun field => quote field.1 ++ ": " ++ field.2.pretty depth := by
  induction fields with
  | nil => rfl
  | cons field fields ih => rw [prettyFields, ih, List.map_cons]

open Json.Reader

theorem blank_space : Blank " ".toList := List.forall_mem_singleton.2 rfl

theorem blank_indentation (depth : Nat) : Blank (indentation depth).toList := by
  intro c hc
  rw [indentation, String.toList_append, String.toList_ofList, List.mem_append] at hc
  rcases hc with hc | hc
  · cases List.mem_singleton.1 hc
    rfl
  · cases List.eq_of_mem_replicate (String.toList_ofList ▸ hc)
    rfl

theorem spells_compact {j : Json} (h : Plain j) : Spells j.compact.toList j := by
  induction h with
  | null => exact spells_null
  | bool b => exact spells_bool b
  | integer n => exact spells_integer n
  | string s => exact spells_string s
  | @array vs _ ih =>
    rw [compact, compactAll_eq]
    have harray := spells_elements "" "" blank_nil blank_nil ih
    simpa using harray
  | @object fields hkeys _ ih =>
    rw [compact, compactFields_eq]
    have hobject := spells_fields "" "" "" blank_nil blank_nil blank_nil hkeys ih
    simpa using hobject

theorem spells_pretty {j : Json} (h : Plain j) (depth : Nat) :
    Spells (j.pretty depth).toList j := by
  induction h generalizing depth with
  | null => exact spells_null
  | bool b => exact spells_bool b
  | integer n => exact spells_integer n
  | string s => exact spells_string s
  | @array vs _ ih =>
    rw [pretty, prettyAll_eq, block]
    split
    case isTrue hempty =>
      cases vs with
      | nil => simpa using spells_array blank_nil blank_nil .nil
      | cons => cases hempty
    case isFalse =>
      exact spells_elements _ _ (blank_indentation _) (blank_indentation _) fun v hv => ih v hv _
  | @object fields hkeys _ ih =>
    rw [pretty, prettyFields_eq, block]
    split
    case isTrue hempty =>
      cases fields with
      | nil => simpa using spells_object blank_nil blank_nil .nil hkeys
      | cons => cases hempty
    case isFalse =>
      exact spells_fields _ " " _ (blank_indentation _) blank_space (blank_indentation _) hkeys
        fun field hfield => ih field hfield _

theorem read?_compact {j : Json} (h : Plain j) : Reader.read? j.compact = some j :=
  read?_of_spells (spells_compact h)

theorem read?_pretty {j : Json} (h : Plain j) (depth : Nat) :
    Reader.read? (j.pretty depth) = some j :=
  read?_of_spells (spells_pretty h depth)

end SearchPlan.Json
