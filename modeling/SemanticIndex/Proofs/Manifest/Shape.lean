import SemanticIndex.Manifest.Shape
import SemanticIndex.Proofs.Json.Fields

/-!
# Values without a departure from their shape

A value departs nowhere from its shape exactly when it has the form that the shape describes: a
string, an array of such elements, an object whose members have their shapes and whose required
members are present.
-/

namespace SemanticIndex.Shape

variable {value : Json}

theorem string_eq_none_iff : string value = none ↔ ∃ text, value = .string text := by
  cases value <;> simp [string, mismatch]

theorem bool_eq_none_iff : bool value = none ↔ ∃ truth, value = .bool truth := by
  cases value <;> simp [bool, mismatch]

theorem object_eq_none_iff : object value = none ↔ ∃ fields, value = .object fields := by
  cases value <;> simp [object, mismatch]

theorem optional_eq_none_iff {shape : Shape} :
    optional shape value = none ↔ value = .null ∨ shape value = none := by
  cases value <;> simp [optional]

theorem arrayOf_eq_none_iff {shape : Shape} :
    arrayOf shape value = none ↔
      ∃ elements, value = .array elements ∧ ∀ element ∈ elements, shape element = none := by
  cases value <;> simp [arrayOf, mismatch]

theorem pair_eq_none_iff :
    pair value = none ↔ ∃ first second, value = .array [.string first, .string second] := by
  unfold pair
  split
  · simp
  · simp
  · simp [Option.or_eq_none_iff, string_eq_none_iff]
  · rename_i notTwo
    simp [mismatch]
    exact fun first second equal => notTwo _ _ _ equal

theorem entity_eq_none_iff {name : String} {members : List Member} :
    entity name members value = none ↔
      ∃ fields, value = .object fields ∧
        fieldFault members fields = none ∧ absence members fields = none := by
  cases value <;> simp [entity, mismatch, Option.or_eq_none_iff]

theorem shape_of_get?
    {members : List Member}
    {fields : Properties}
    {key : String}
    {member : Member}
    (fits : fieldFault members fields = none)
    (known : members.find? (·.key == key) = some member)
    (found : fields.get? key = some value) :
    member.shape value = none := by
  have fault := List.findSome?_eq_none_iff.mp fits (key, value) (Fields.mem_of_get? found)
  rw [known] at fault
  exact fault

theorem exists_get?_of_required
    {members : List Member}
    {fields : Properties}
    {member : Member}
    (complete : absence members fields = none)
    (known : member ∈ members)
    (required : member.required = true) :
    ∃ value, fields.get? member.key = some value := by
  have present := List.findSome?_eq_none_iff.mp complete member known
  rw [required, Bool.true_and] at present
  cases found : fields.get? member.key with
  | none => simp [found] at present
  | some value => exact ⟨value, rfl⟩

end SemanticIndex.Shape
