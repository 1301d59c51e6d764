import Mathlib.Data.List.Forall2
import Mathlib.Data.List.Induction
import SemanticIndex.Proofs.Manifest.Grammar

/-!
# Members and sections

A text spells an object with its members as they are written, repeated keys among them.  Each key
of the object that is read stands where it was first written and has the value that was last given
for it.  Normalizing keeps all that: it appends the sections that were never given, empties those
that were last given as null, and leaves an object that has its sections as it is.
-/

namespace SemanticIndex

/-! ## Members -/

/-- Keys and values as they are written, repeated keys included. -/
abbrev Members := List (String × Json)

namespace Members

/-- The value that is last given for a key. -/
def last? (members : Members) (key : String) : Option Json :=
  Fields.get? members.reverse key

/-- The fields that are made of members one after the other. -/
def fields (members : Members) : Properties :=
  members.foldl (fun fields member => fields.put member.1 member.2) []

theorem fields_append_singleton (members : Members) (member : String × Json) :
    fields (members ++ [member]) = (fields members).put member.1 member.2 := by
  rw [fields, List.foldl_append]
  rfl

/-- Keys stand where they were first given. -/
theorem keys_fields (members : Members) :
    (fields members).keys = (members.map Prod.fst).eraseDups := by
  induction members using List.reverseRecOn with
  | nil => rfl
  | append_singleton members member induction =>
    rw [fields_append_singleton, List.map_append, List.eraseDups_append, ← induction]
    -- A key that was given before keeps its place, and its last copy is the one that is erased.
    by_cases given : member.1 ∈ (fields members).keys
    · rw [Fields.keys_put_of_mem given]
      rw [induction, List.mem_eraseDups] at given
      simp [List.removeAll, given]
    · rw [Fields.put_of_not_mem given, Fields.keys, List.map_append]
      rw [induction, List.mem_eraseDups] at given
      simp [List.removeAll, given, Fields.keys, List.eraseDups_cons]

theorem get?_fields (members : Members) (key : String) :
    (fields members).get? key = members.last? key := by
  induction members using List.reverseRecOn with
  | nil => rfl
  | append_singleton members member induction =>
    rw [fields_append_singleton, Fields.get?_put, last?, List.reverse_concat, Fields.get?,
      induction, last?]
    simp only [eq_comm]

theorem nodup_keys_fields (members : Members) : (fields members).keys.Nodup := by
  induction members using List.reverseRecOn with
  | nil => exact List.nodup_nil
  | append_singleton members member induction =>
    rw [fields_append_singleton]
    exact Fields.nodup_keys_put induction

end Members

namespace Json

/-- A written key and form have the meaning of a member. -/
def SpellsMember (written : List Piece × Form) (member : String × Json) : Prop :=
  stringOf? written.1 = some member.1 ∧ ofForm? written.2 = some member.2

/-- A text spells an object with the given members. -/
def SpellsObject (text : String) (members : Members) : Prop :=
  ∃ written, Form.ofText? (some nestingLimit) text.toList = some (.object written) ∧
    List.Forall₂ SpellsMember written members

theorem ofFields?_eq_some_iff
    {before fields : Properties}
    {written : List (List Piece × Form)} :
    ofFields? before written = some fields ↔
      ∃ members : Members, List.Forall₂ SpellsMember written members ∧
        members.foldl (fun fields member => fields.put member.1 member.2) before = fields := by
  induction written generalizing before with
  | nil => simp [ofFields?]
  | cons form rest induction =>
    simp only [ofFields?, Option.bind_eq_bind, Option.bind_eq_some_iff, induction,
      List.forall₂_cons_left_iff]
    constructor
    · rintro ⟨key, named, value, meaning, members, spelled, rfl⟩
      exact ⟨_, ⟨(key, value), members, ⟨named, meaning⟩, spelled, rfl⟩, rfl⟩
    · rintro ⟨_, ⟨⟨key, value⟩, members, ⟨named, meaning⟩, spelled, rfl⟩, rfl⟩
      exact ⟨key, named, value, meaning, members, spelled, rfl⟩

theorem value?_ne_object
    {numeral : Numeral}
    {fields : Properties} :
    numeral.value? ≠ some (.object fields) := by
  unfold Numeral.value?
  dsimp only
  split
  · simp
  · split <;> simp

theorem ofForm?_eq_some_object_iff
    {form : Form}
    {fields : Properties} :
    ofForm? form = some (.object fields) ↔
      ∃ written, form = .object written ∧ ofFields? [] written = some fields := by
  cases form with
  | number numeral => simp [ofForm?, value?_ne_object]
  | _ => simp [ofForm?]

/-- What is read of an object is made of the members that the text spells. -/
theorem read?_eq_some_object_iff
    {text : String}
    {given : Properties} :
    read? text = some (.object given) ↔
      ∃ members, SpellsObject text members ∧ members.fields = given := by
  simp only [read?, Option.bind_eq_bind, Option.bind_eq_some_iff, ofForm?_eq_some_object_iff,
    SpellsObject]
  constructor
  · rintro ⟨_, formed, written, rfl, meaning⟩
    obtain ⟨members, spelled, rfl⟩ := ofFields?_eq_some_iff.mp meaning
    exact ⟨members, ⟨written, formed, spelled⟩, rfl⟩
  · rintro ⟨members, ⟨written, formed, spelled⟩, rfl⟩
    exact ⟨_, formed, written, rfl, ofFields?_eq_some_iff.mpr ⟨members, spelled, rfl⟩⟩

end Json

/-! ## Sections -/

namespace Manifest

/-- What stands for a section; an absent or null one is empty. -/
def sectionValue : Option Json → Json
  | none => .array []
  | some .null => .array []
  | some value => value

theorem sectionValue_some
    {value : Json}
    (given : value ≠ .null) :
    sectionValue (some value) = value := by
  cases value with
  | null => exact absurd rfl given
  | _ => rfl

theorem get?_supply (fields : Properties) (key other : String) :
    (supply fields key).get? other =
      if other = key then some (sectionValue (fields.get? key)) else fields.get? other := by
  unfold supply
  split
  · rename_i absent
    rw [Fields.get?_put, absent]
    rfl
  · rename_i null
    rw [Fields.get?_put, null]
    rfl
  · rename_i value given found
    rw [found, sectionValue_some given]
    split
    · rename_i same
      rw [same, found]
    · rfl

variable {fields : Properties} {keys : List String}

theorem get?_foldl_supply (distinct : keys.Nodup) (key : String) :
    (keys.foldl supply fields).get? key =
      if key ∈ keys then some (sectionValue (fields.get? key)) else fields.get? key := by
  induction keys generalizing fields with
  | nil => simp
  | cons first rest induction =>
    obtain ⟨fresh, distinct⟩ := List.nodup_cons.mp distinct
    rw [List.foldl_cons, induction distinct, get?_supply]
    by_cases same : key = first
    · subst same
      simp [fresh]
    · simp [same]

theorem nodup_keys_foldl_supply
    (distinct : keys.Nodup)
    (distinctFields : fields.keys.Nodup) :
    (keys.foldl supply fields).keys.Nodup := by
  rw [keys_foldl_supply distinct]
  apply distinctFields.append (distinct.filter _)
  intro key present new
  exact (by simpa using List.of_mem_filter new : key ∉ fields.keys) present

/-- What an object with the given members is when it has been supplied with its sections. -/
structure Supplied (members : Members) (fields : Properties) : Prop where
  keys : fields.keys = (members.map Prod.fst).eraseDups ++
    sections.filter (· ∉ members.map Prod.fst)
  others : ∀ key, key ∉ sections → fields.get? key = members.last? key
  ofSection : ∀ key ∈ sections, fields.get? key = some (sectionValue (members.last? key))

theorem supplied_iff
    {members : Members} :
    Supplied members fields ↔ sections.foldl supply members.fields = fields := by
  have keysEq : (sections.foldl supply members.fields).keys =
      (members.map Prod.fst).eraseDups ++ sections.filter (· ∉ members.map Prod.fst) := by
    simp only [keys_foldl_supply nodup_sections, Members.keys_fields, List.mem_eraseDups]
  have valueEq (key : String) := @get?_foldl_supply members.fields sections nodup_sections key
  simp only [Members.get?_fields] at valueEq
  constructor
  · rintro ⟨keys, others, ofSection⟩
    apply Fields.ext_get? (nodup_keys_foldl_supply nodup_sections members.nodup_keys_fields)
      (keysEq.trans keys.symm)
    intro key _
    rw [valueEq]
    split
    · rename_i isSection
      exact (ofSection key isSection).symm
    · rename_i isOther
      exact (others key isOther).symm
  · rintro rfl
    refine ⟨keysEq, ?_, ?_⟩
    · intro key isOther
      rw [valueEq, if_neg isOther]
    · intro key isSection
      rw [valueEq, if_pos isSection]

/-- A text that reads as an object with all its sections, none of them null, is normal. -/
theorem normalize_of_given
    {text : String}
    (read : Json.read? text = some (.object fields))
    (given : ∀ key ∈ sections, ∃ value, fields.get? key = some value ∧ value ≠ .null) :
    normalize text = .ok fields :=
  normalize_eq_ok_iff.mpr ⟨fields, read, foldl_supply_of_given given⟩

theorem Supplied.given
    {members : Members}
    (supplied : Supplied members fields) :
    ∀ key ∈ sections, ∃ value, fields.get? key = some value ∧ value ≠ .null := by
  intro key isSection
  refine ⟨_, supplied.ofSection key isSection, ?_⟩
  unfold sectionValue
  split
  · nofun
  · nofun
  · assumption

/--
A text normalizes exactly when it spells an object.  The keys of the result are those of the text,
each where it was first written, followed by the sections that were not given; every key has its
last value, and a section that is absent or null is empty.  Texts that are written for the result,
on one line or over several, normalize to it again, given that its doubles are read back.
-/
theorem normalize_supplies_sections (text : String) (fields : Properties) :
    (normalize text = .ok fields ↔
      ∃ members, Json.SpellsObject text members ∧ Supplied members fields) ∧
    (normalize text = .ok fields → Json.ReadsDoublesBack text →
      normalize (Json.object fields).compact = .ok fields ∧
        normalize (Json.object fields).indented = .ok fields) := by
  have judged : normalize text = .ok fields ↔
      ∃ members, Json.SpellsObject text members ∧ Supplied members fields := by
    rw [normalize_eq_ok_iff]
    simp only [Json.read?_eq_some_object_iff, supplied_iff]
    constructor
    · rintro ⟨_, ⟨members, spelled, rfl⟩, supplied⟩
      exact ⟨members, spelled, supplied⟩
    · rintro ⟨members, spelled, supplied⟩
      exact ⟨_, ⟨members, spelled, rfl⟩, supplied⟩
  refine ⟨judged, fun normalized numbers => ?_⟩
  have fits := fitsWith_of_normalize numbers.fits normalized
  obtain ⟨members, -, supplied⟩ := judged.mp normalized
  have indented := Json.read?_indented fits [] nofun
  rw [String.ofList_nil, String.append_empty] at indented
  exact ⟨normalize_of_given (Json.read?_compact fits) supplied.given,
    normalize_of_given indented supplied.given⟩

/-- A text with a repeated key, a section that is null and one that is no array. -/
def scatteredText : String :=
  "\x7b\"note\":1,\"views\":[2],\"metrics\":7,\"views\":null,\"label\":-0.5,\"note\":\"a\"\x7d"

theorem normalize_supplies_sections_scattered :
    ∃ fields, normalize scatteredText = .ok fields ∧
      fields.keys = ["note", "views", "metrics", "label", "models", "relationships"] ∧
      normalize (Json.object fields).compact = .ok fields ∧
      (Json.object fields).compact =
        "\x7b\"note\":\"a\",\"views\":[],\"metrics\":7,\"label\":-0.5,\"models\":[]," ++
        "\"relationships\":[]\x7d" := by
  have normal : (normalize scatteredText).toOption.map
      (fun fields => (Fields.keys fields, (Json.object fields).compact)) =
        some (["note", "views", "metrics", "label", "models", "relationships"],
          "\x7b\"note\":\"a\",\"views\":[],\"metrics\":7,\"label\":-0.5,\"models\":[]," ++
          "\"relationships\":[]\x7d") := by
    decide +kernel
  cases normalized : normalize scatteredText with
  | error error =>
    rw [normalized] at normal
    exact nomatch normal
  | ok fields =>
    rw [normalized] at normal
    obtain ⟨keys, written⟩ := Prod.mk.inj (Option.some.inj normal)
    have numbers : Json.ReadsDoublesBack scatteredText := by decide +kernel
    obtain ⟨-, again⟩ := normalize_supplies_sections scatteredText fields
    exact ⟨fields, rfl, keys, (again normalized numbers).1, written⟩

end Manifest

end SemanticIndex
