import SemanticIndex.Manifest.Reader
import SemanticIndex.Manifest.Writer
import SemanticIndex.Proofs.Json.Values
import SemanticIndex.Proofs.Manifest.Shape

/-!
# Objects filled with members

An entity is written as its interpreted members, some of which may be left out, and behind them
the members that are not interpreted.  When every interpreted member has a value of its shape, and
the others have none of the interpreted keys, the object has the shape of the entity, and each
member is found under its key again.
-/

namespace SemanticIndex

/-! ## Members that are not interpreted -/

/-- Members apart from the interpreted ones, with values that nest at most so deep. -/
structure Kept (known : List String) (levels : Nat) (extra : Properties) : Prop where
  distinct : extra.keys.Nodup
  outside : ∀ field ∈ extra, field.1 ∉ known
  fits : ∀ field ∈ extra, field.2.Fits levels

theorem kept_without
    {levels : Nat}
    {fields : Properties}
    (fits : (Json.object fields).Fits (levels + 1))
    (known : List String) :
    Kept known levels (fields.without known) := by
  cases fits with
  | object distinct fits =>
    constructor
    · exact distinct.sublist (List.filter_sublist.map Prod.fst)
    · intro field inside
      exact (Fields.mem_without.mp inside).2
    · intro field inside
      exact fits field (Fields.mem_without.mp inside).1

/-! ## Members that are interpreted -/

/-- A member of an entity takes a value of its shape that nests at most so deep. -/
structure Member.Takes (levels : Nat) (member : Member) (value : Option Json) : Prop where
  shape : ∀ given ∈ value, member.shape given = none
  fits : ∀ given ∈ value, given.Fits levels
  complete : member.required = true → value.isSome = true

theorem Member.takes_some
    {levels : Nat}
    {member : Member}
    {value : Json}
    (shape : member.shape value = none)
    (fits : value.Fits levels) :
    member.Takes levels (some value) where
  shape given present := by
    obtain rfl := Option.some.inj present
    exact shape
  fits given present := by
    obtain rfl := Option.some.inj present
    exact fits
  complete _ := rfl

/-- The members of an entity in their order, each with the value that is written for it, if any. -/
abbrev Filling := List (Member × Option Json)

namespace Filling

def keys (filling : Filling) : List String :=
  filling.map (·.1.key)

/-- The members that are written. -/
def fields (filling : Filling) : Properties :=
  filling.filterMap fun entry => entry.2.map fun value => (entry.1.key, value)

@[simp]
theorem fields_nil : fields [] = [] := rfl

@[simp]
theorem fields_cons_none (member : Member) (rest : Filling) :
    fields ((member, none) :: rest) = fields rest := rfl

@[simp]
theorem fields_cons_some (member : Member) (value : Json) (rest : Filling) :
    fields ((member, some value) :: rest) = (member.key, value) :: fields rest := rfl

@[simp]
theorem fields_cons_map
    {inner : Type}
    (member : Member)
    (toJson : inner → Json)
    (value : Option inner)
    (rest : Filling) :
    fields ((member, value.map toJson) :: rest) =
      optionalField member.key toJson value ++ fields rest := by
  cases value <;> rfl

theorem mem_fields
    {filling : Filling}
    {field : String × Json} :
    field ∈ filling.fields ↔
      ∃ entry ∈ filling, entry.1.key = field.1 ∧ entry.2 = some field.2 := by
  rw [fields, List.mem_filterMap]
  constructor
  · rintro ⟨entry, inside, equal⟩
    obtain ⟨value, present, rfl⟩ := Option.map_eq_some_iff.mp equal
    exact ⟨entry, inside, rfl, present⟩
  · rintro ⟨entry, inside, same, present⟩
    refine ⟨entry, inside, ?_⟩
    rw [present, same]
    rfl

theorem keys_fields (filling : Filling) : filling.fields.keys.Sublist filling.keys := by
  induction filling with
  | nil => exact List.Sublist.refl _
  | cons first rest induction =>
    rcases first with ⟨member, _ | value⟩
    · exact induction.cons member.key
    · exact induction.cons_cons member.key

end Filling

/-- An object has its members filled, and others kept behind them. -/
structure Filled (levels : Nat) (filling : Filling) (extra : Properties) : Prop where
  distinct : filling.keys.Nodup
  takes : ∀ entry ∈ filling, entry.1.Takes levels entry.2
  kept : Kept filling.keys levels extra

namespace Filled

variable {levels : Nat} {filling : Filling} {extra : Properties}
    (filled : Filled levels filling extra)

include filled

theorem distinct_keys : (Fields.keys (filling.fields ++ extra)).Nodup := by
  rw [Fields.keys, List.map_append]
  apply (filled.distinct.sublist filling.keys_fields).append filled.kept.distinct
  intro key inFront inExtra
  obtain ⟨field, found, rfl⟩ := List.mem_map.mp inExtra
  exact filled.kept.outside field found (filling.keys_fields.subset inFront)

theorem fits : (Json.object (filling.fields ++ extra)).Fits (levels + 1) := by
  apply Json.FitsWith.object filled.distinct_keys
  intro field inside
  rcases List.mem_append.mp inside with inFront | inExtra
  · obtain ⟨entry, known, _, present⟩ := Filling.mem_fields.mp inFront
    exact (filled.takes entry known).fits field.2 present
  · exact filled.kept.fits field inExtra

theorem entry_eq
    {one other : Member × Option Json}
    (first : one ∈ filling)
    (second : other ∈ filling)
    (same : one.1.key = other.1.key) :
    one = other :=
  List.inj_on_of_nodup_map filled.distinct first second same

/-- Under the key of a member is the value that was written for it. -/
theorem get?_eq
    (entry : Member × Option Json)
    (known : entry ∈ filling) :
    Fields.get? (filling.fields ++ extra) entry.1.key = entry.2 := by
  cases value : entry.2 with
  | some present =>
    apply Fields.get?_of_mem filled.distinct_keys
    exact List.mem_append_left extra (Filling.mem_fields.mpr ⟨entry, known, rfl, value⟩)
  | none =>
    -- Such a member is not written, and no other one has its key.
    apply Fields.get?_eq_none
    intro inside
    obtain ⟨field, found, same⟩ := List.mem_map.mp inside
    rcases List.mem_append.mp found with inFront | inExtra
    · obtain ⟨other, among, key, present⟩ := Filling.mem_fields.mp inFront
      rw [filled.entry_eq among known (key.trans same), value] at present
      cases present
    · apply filled.kept.outside field inExtra
      rw [same]
      exact List.mem_map_of_mem known

/-- The members that are not interpreted are the others. -/
theorem without_eq : Fields.without (filling.fields ++ extra) filling.keys = extra := by
  rw [Fields.without_append, Fields.without_eq_nil, Fields.without_eq_self filled.kept.outside,
    List.nil_append]
  intro field inside
  exact filling.keys_fields.subset (List.mem_map_of_mem inside)

theorem fieldFault_eq_none :
    Shape.fieldFault (filling.map Prod.fst) (filling.fields ++ extra) = none := by
  apply List.findSome?_eq_none_iff.mpr
  intro field inside
  cases found : (filling.map Prod.fst).find? (·.key == field.1) with
  | none => rfl
  | some member =>
    have same : member.key = field.1 := by simpa using List.find?_some found
    obtain ⟨entry, known, rfl⟩ := List.mem_map.mp (List.mem_of_find?_eq_some found)
    have present := filled.get?_eq entry known
    rw [same, Fields.get?_of_mem filled.distinct_keys inside] at present
    exact (filled.takes entry known).shape field.2 present.symm

theorem absence_eq_none :
    Shape.absence (filling.map Prod.fst) (filling.fields ++ extra) = none := by
  apply List.findSome?_eq_none_iff.mpr
  intro member inside
  obtain ⟨entry, known, rfl⟩ := List.mem_map.mp inside
  rw [filled.get?_eq entry known]
  cases required : entry.1.required with
  | false => rfl
  | true => simp [Option.isSome_iff_ne_none.mp ((filled.takes entry known).complete required)]

theorem shape_eq_none (name : String) :
    Shape.entity name (filling.map Prod.fst) (.object (filling.fields ++ extra)) = none :=
  Shape.entity_eq_none_iff.mpr ⟨_, rfl, filled.fieldFault_eq_none, filled.absence_eq_none⟩

end Filled

/-! ## Reading members -/

section Reading

variable {fields : Properties} {key : String}

theorem text_of_get?
    {text : String}
    (found : fields.get? key = some (.string text)) :
    fields.text key = text := by
  rw [Fields.text, found]
  rfl

theorem text?_of_get?
    {text : Option String}
    (found : fields.get? key = text.map Json.string) :
    fields.text? key = text := by
  rw [Fields.text?, found]
  cases text <;> rfl

theorem bool?_of_get?
    {truth : Option Bool}
    (found : fields.get? key = truth.map Json.bool) :
    fields.bool? key = truth := by
  rw [Fields.bool?, found]
  cases truth <;> rfl

theorem object?_of_get?
    {inner : Option Properties}
    (found : fields.get? key = inner.map Json.object) :
    fields.object? key = inner := by
  rw [Fields.object?, found]
  cases inner <;> rfl

variable {levels : Nat} {inner : Properties}

theorem fits_of_object?
    (fits : (Json.object fields).Fits (levels + 1))
    (found : inner ∈ fields.object? key) :
    (Json.object inner).Fits levels := by
  obtain ⟨value, present, same⟩ := Option.bind_eq_some_iff.mp found
  cases fits with
  | object _ fits =>
    have fitsValue := fits (key, value) (Fields.mem_of_get? present)
    cases value <;> cases same
    exact fitsValue

theorem fits_of_mem_objects
    (fits : (Json.object fields).Fits (levels + 2))
    (inside : inner ∈ fields.objects key) :
    (Json.object inner).Fits levels := by
  unfold Fields.objects at inside
  obtain ⟨element, among, same⟩ := List.mem_filterMap.mp inside
  cases found : fields.get? key with
  | none => simp [found] at among
  | some value =>
    cases fits with
    | object _ fits =>
      have fitsValue := fits (key, value) (Fields.mem_of_get? found)
      rw [found] at among
      cases value with
      | array elements =>
        cases fitsValue with
        | array fits =>
          have fitsElement := fits element among
          cases element <;> cases same
          exact fitsElement
      | _ => cases among

theorem fitsWith_put
    {kind : Binary64 → Prop}
    {value : Json}
    (fits : (Json.object fields).FitsWith kind (levels + 1))
    (new : value.FitsWith kind levels) :
    (Json.object (fields.put key value)).FitsWith kind (levels + 1) := by
  cases fits with
  | object distinct fits =>
    apply Json.FitsWith.object (Fields.nodup_keys_put distinct)
    intro field inside
    rcases Fields.mem_put inside with rfl | before
    · exact new
    · exact fits field before

end Reading

end SemanticIndex
