import Mathlib.Data.List.Forall2
import Mathlib.Data.List.Zip
import SemanticIndex.Manifest.Reader
import SemanticIndex.Proofs.Json.Fields

/-!
# Values up to the order of keys

Two values are reordered if they differ in the order of the keys in their objects and in nothing
else, at whatever depth.  What is looked up in reordered objects is reordered, and texts, truth
values and the number of elements stay the same, so that everything that is read by key is read
from both alike.
-/

namespace SemanticIndex

/-- The values differ at most in the order in which their objects have their keys, at any depth. -/
inductive Json.Reordered : Json → Json → Prop where
  | null : Reordered .null .null
  | bool {value} : Reordered (.bool value) (.bool value)
  | integer {value} : Reordered (.integer value) (.integer value)
  | fraction {value} : Reordered (.fraction value) (.fraction value)
  | string {value} : Reordered (.string value) (.string value)
  | array {elements others : List Json} :
    elements.length = others.length →
      (∀ one other, (one, other) ∈ elements.zip others → Reordered one other) →
      Reordered (.array elements) (.array others)
  | object {fields others : Properties} :
    fields.keys.Perm others.keys →
      (∀ key one other, fields.get? key = some one → others.get? key = some other →
        Reordered one other) →
      Reordered (.object fields) (.object others)

/-- The fields differ at most in the order of their keys and of the keys in their values. -/
def Fields.Reordered (fields others : Properties) : Prop :=
  (Json.object fields).Reordered (.object others)

namespace Json.Reordered

variable {one other : Json}

theorem array_iff
    {elements others : List Json} :
    Reordered (.array elements) (.array others) ↔ List.Forall₂ Reordered elements others := by
  rw [List.forall₂_iff_zip]
  constructor
  · rintro (_ | _ | _ | _ | _ | ⟨sameLength, alike⟩)
    exact ⟨sameLength, alike _ _⟩
  · rintro ⟨sameLength, alike⟩
    exact .array sameLength fun _ _ => alike

theorem refl : (value : Json) → Reordered value value
  | .null => .null
  | .bool _ => .bool
  | .integer _ => .integer
  | .fraction _ => .fraction
  | .string _ => .string
  | .array elements => by
    rw [array_iff, List.forall₂_same]
    exact fun element _ => refl element
  | .object fields => by
    refine .object (.refl _) ?_
    intro key one other found otherFound
    obtain rfl := Option.some.inj (found.symm.trans otherFound)
    have smaller : sizeOf one < sizeOf fields := by
      have inside := List.sizeOf_lt_of_mem (Fields.mem_of_get? found)
      rw [Prod.mk.sizeOf_spec] at inside
      omega
    exact refl one

theorem symm (reordered : Reordered one other) : Reordered other one := by
  induction reordered with
  | null => exact .null
  | bool => exact .bool
  | integer => exact .integer
  | fraction => exact .fraction
  | string => exact .string
  | array sameLength _ induction =>
    refine .array sameLength.symm fun one other inside => induction other one ?_
    -- The pairs of the turned lists are the turned pairs.
    rw [← List.zip_swap]
    exact List.mem_map_of_mem (f := Prod.swap) inside
  | object sameKeys _ induction =>
    exact .object sameKeys.symm fun key one other found otherFound =>
      induction key other one otherFound found

theorem text?_eq (reordered : Reordered one other) : one.text? = other.text? := by
  cases reordered <;> rfl

theorem bool?_eq (reordered : Reordered one other) : one.bool? = other.bool? := by
  cases reordered <;> rfl

theorem fields? (reordered : Reordered one other) :
    Option.Rel Fields.Reordered one.fields? other.fields? := by
  cases reordered with
  | object sameKeys alike => exact .some (.object sameKeys alike)
  | _ => exact .none

theorem elements? (reordered : Reordered one other) :
    Option.Rel (List.Forall₂ Reordered) one.elements? other.elements? := by
  cases reordered with
  | array sameLength alike => exact .some (array_iff.mp (.array sameLength alike))
  | _ => exact .none

end Json.Reordered

/-! ## Reading by key -/

namespace Fields.Reordered

variable {fields others : Properties} (reordered : Fields.Reordered fields others)

include reordered

theorem keys_perm : fields.keys.Perm others.keys := by
  cases reordered with
  | object sameKeys _ => exact sameKeys

theorem symm : Fields.Reordered others fields :=
  Json.Reordered.symm reordered

theorem exists_get?
    {key : String}
    {one : Json}
    (found : fields.get? key = some one) :
    ∃ other, others.get? key = some other ∧ one.Reordered other := by
  cases reordered with
  | object sameKeys alike =>
    have inside : key ∈ fields.keys := List.mem_map_of_mem (Fields.mem_of_get? found)
    obtain ⟨other, otherFound⟩ := Fields.exists_get?_of_mem_keys (sameKeys.mem_iff.mp inside)
    exact ⟨other, otherFound, alike key one other found otherFound⟩

theorem get? (key : String) :
    Option.Rel Json.Reordered (fields.get? key) (others.get? key) := by
  cases found : fields.get? key with
  | some one =>
    obtain ⟨other, otherFound, alike⟩ := reordered.exists_get? found
    rw [otherFound]
    exact .some alike
  | none =>
    cases otherFound : others.get? key with
    | none => exact .none
    | some other =>
      obtain ⟨_, back, _⟩ := reordered.symm.exists_get? otherFound
      cases found.symm.trans back

theorem bind_get?
    {result : Type}
    {relation : result → result → Prop}
    {read : Json → Option result}
    (related : ∀ ⦃one other⦄, one.Reordered other → Option.Rel relation (read one) (read other))
    (key : String) :
    Option.Rel relation ((fields.get? key).bind read) ((others.get? key).bind read) := by
  have alike := reordered.get? key
  generalize fields.get? key = one at alike ⊢
  generalize others.get? key = other at alike ⊢
  cases alike with
  | none => exact .none
  | some alike => exact related alike

theorem bind_get?_eq
    {result : Type}
    {read : Json → Option result}
    (same : ∀ ⦃one other⦄, one.Reordered other → read one = read other)
    (key : String) :
    (fields.get? key).bind read = (others.get? key).bind read := by
  have alike := reordered.get? key
  generalize fields.get? key = one at alike ⊢
  generalize others.get? key = other at alike ⊢
  cases alike with
  | none => rfl
  | some alike => exact same alike

theorem text?_eq (key : String) : fields.text? key = others.text? key :=
  reordered.bind_get?_eq (fun _ _ => Json.Reordered.text?_eq) key

theorem text_eq (key : String) : fields.text key = others.text key :=
  congrArg (·.getD "") (reordered.text?_eq key)

theorem bool?_eq (key : String) : fields.bool? key = others.bool? key :=
  reordered.bind_get?_eq (fun _ _ => Json.Reordered.bool?_eq) key

theorem object? (key : String) :
    Option.Rel Fields.Reordered (fields.object? key) (others.object? key) :=
  reordered.bind_get? (fun _ _ => Json.Reordered.fields?) key

theorem elements (key : String) :
    List.Forall₂ Json.Reordered
      (((fields.get? key).bind Json.elements?).getD [])
      (((others.get? key).bind Json.elements?).getD []) := by
  have alike := reordered.bind_get? (fun _ _ => Json.Reordered.elements?) key
  generalize (fields.get? key).bind Json.elements? = one at alike ⊢
  generalize (others.get? key).bind Json.elements? = other at alike ⊢
  cases alike with
  | none => exact .nil
  | some alike => exact alike

theorem objects (key : String) :
    List.Forall₂ Fields.Reordered (fields.objects key) (others.objects key) :=
  List.rel_filterMap (fun _ _ alike => alike.fields?) (reordered.elements key)

theorem texts_eq (key : String) : fields.texts key = others.texts key := by
  rw [← List.forall₂_eq_eq_eq]
  refine List.rel_filterMap ?_ (reordered.elements key)
  intro one other alike
  rw [alike.text?_eq]
  cases other.text? with
  | none => exact .none
  | some text => exact .some rfl

theorem without (known : List String) :
    Fields.Reordered (fields.without known) (others.without known) := by
  refine .object ?_ ?_
  · rw [Fields.keys_without, Fields.keys_without]
    exact reordered.keys_perm.filter _
  · intro key one other found otherFound
    rw [Fields.get?_without] at found otherFound
    split at found
    · cases found
    · rename_i outside
      rw [if_neg outside] at otherFound
      obtain ⟨_, same, alike⟩ := reordered.exists_get? found
      obtain rfl := Option.some.inj (otherFound.symm.trans same)
      exact alike

end Fields.Reordered

/-! ## Permutations -/

theorem Fields.eq_map_keys
    {fields : Properties}
    (distinct : fields.keys.Nodup) :
    fields = fields.keys.map fun key => (key, (fields.get? key).getD .null) := by
  rw [Fields.keys, List.map_map]
  apply (List.map_id fields).symm.trans
  apply List.map_congr_left
  intro field inside
  rw [Function.comp_apply, Fields.get?_of_mem distinct inside]
  rfl

/-- Fields with the same keys in the same order have related values under every key. -/
theorem Fields.get?_of_forall₂
    {relation : Json → Json → Prop}
    {fields others : Properties}
    (alike : List.Forall₂ (fun one other => one.1 = other.1 ∧ relation one.2 other.2)
      fields others)
    (key : String) :
    Option.Rel relation (fields.get? key) (others.get? key) := by
  induction alike with
  | nil => exact .none
  | cons first _ induction =>
    rw [Fields.get?, Fields.get?, first.1]
    split
    · exact .some first.2
    · exact induction

/-- Fields with distinct keys are reordered by permuting them and reordering their values. -/
theorem Fields.reordered_iff_perm
    {fields others : Properties}
    (distinct : fields.keys.Nodup) :
    Fields.Reordered fields others ↔
      ∃ permuted : Properties, fields.Perm permuted ∧
        List.Forall₂ (fun one other => one.1 = other.1 ∧ one.2.Reordered other.2)
          permuted others := by
  constructor
  · intro reordered
    have distinctOthers := reordered.keys_perm.nodup_iff.mp distinct
    refine ⟨others.map fun field => (field.1, (fields.get? field.1).getD .null), ?_, ?_⟩
    · have permuted := reordered.keys_perm.map fun key => (key, (fields.get? key).getD .null)
      rw [← Fields.eq_map_keys distinct, Fields.keys, List.map_map] at permuted
      exact permuted
    · rw [List.forall₂_map_left_iff, List.forall₂_same]
      rintro ⟨key, other⟩ inside
      have otherFound := Fields.get?_of_mem distinctOthers inside
      obtain ⟨one, found, alike⟩ := reordered.symm.exists_get? otherFound
      rw [found]
      exact ⟨rfl, alike.symm⟩
  · rintro ⟨middle, permuted, alike⟩
    have sameKeys : Fields.keys middle = others.keys := by
      rw [← List.forall₂_eq_eq_eq, Fields.keys, Fields.keys, List.forall₂_map_left_iff,
        List.forall₂_map_right_iff]
      exact alike.imp fun _ _ related => related.1
    have keysPermuted : fields.keys.Perm others.keys := sameKeys ▸ permuted.map Prod.fst
    have distinctMiddle : (Fields.keys middle).Nodup :=
      sameKeys ▸ keysPermuted.nodup_iff.mp distinct
    refine .object keysPermuted ?_
    intro key one other found otherFound
    have inside := permuted.mem_iff.mp (Fields.mem_of_get? found)
    have related := Fields.get?_of_forall₂ alike key
    rw [Fields.get?_of_mem distinctMiddle inside, otherFound] at related
    cases related with
    | some related => exact related

theorem Fields.reordered_of_perm
    {fields others : Properties}
    (distinct : fields.keys.Nodup)
    (permuted : fields.Perm others) :
    Fields.Reordered fields others := by
  rw [Fields.reordered_iff_perm distinct]
  exact ⟨others, permuted, List.forall₂_same.mpr fun field _ => ⟨rfl, .refl field.2⟩⟩

end SemanticIndex
