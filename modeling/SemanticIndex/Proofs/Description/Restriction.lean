import Mathlib.Data.List.Induction
import Mathlib.Data.List.Nodup
import SemanticIndex.Description.Apply
import SemanticIndex.Description.Request

/-!
# Which descriptions are kept

Descriptions have one entry for a name, so keeping some of them is keeping some of the names.
Those of a reply are kept for the selected models only, and the columns that they describe are
columns of the first model of the name that hold data of their own.
-/

namespace SemanticIndex

namespace Descriptions

/-- No name has two descriptions, so what is found under a name is what is listed with it. -/
theorem find?_eq_some_iff
    {descriptions : Descriptions}
    {name : String}
    {described : ModelDescription} :
    descriptions.find? name = some described ↔ (name, described) ∈ descriptions.entries := by
  have distinct : (descriptions.entries.map Prod.fst).Nodup :=
    List.pairwise_map.mpr (descriptions.increasing.imp String.ne_of_lt)
  rw [find?, Option.map_eq_some_iff]
  constructor
  · rintro ⟨entry, found, rfl⟩
    have named : entry.1 = name := by simpa using List.find?_some found
    exact named ▸ List.mem_of_find?_eq_some found
  · intro listed
    cases found : descriptions.entries.find? fun entry => entry.1 = name with
    | none => simpa using List.find?_eq_none.mp found _ listed
    | some entry =>
      have named : entry.1 = name := by simpa using List.find?_some found
      have same := List.inj_on_of_nodup_map distinct (List.mem_of_find?_eq_some found) listed named
      exact ⟨entry, rfl, by rw [same]⟩

/-- Descriptions are given by what is found under each name. -/
theorem eq_of_find?_eq
    {one other : Descriptions}
    (same : ∀ name, one.find? name = other.find? name) :
    one = other := by
  have distinct (descriptions : Descriptions) : descriptions.entries.Nodup :=
    descriptions.increasing.imp fun less equal => String.ne_of_lt less (congrArg Prod.fst equal)
  have sameEntries : one.entries.Perm other.entries := by
    rw [List.perm_ext_iff_of_nodup (distinct one) (distinct other)]
    rintro ⟨name, described⟩
    rw [← find?_eq_some_iff, ← find?_eq_some_iff, same]
  have ordered : one.entries = other.entries := by
    apply sameEntries.eq_of_pairwise _ one.increasing other.increasing
    intro first second _ _ less greater
    exact absurd greater (String.lt_asymm less)
  cases one
  cases other
  cases ordered
  rfl

/-- The names that are described. -/
def names (descriptions : Descriptions) : List String :=
  descriptions.entries.map Prod.fst

theorem mem_names_iff
    {descriptions : Descriptions}
    {name : String} :
    name ∈ descriptions.names ↔ ∃ described, descriptions.find? name = some described := by
  simp only [names, find?_eq_some_iff, List.mem_map, Prod.exists, exists_and_right,
    exists_eq_right]

theorem isSome_find?_iff
    {descriptions : Descriptions}
    {name : String} :
    (descriptions.find? name).isSome ↔ name ∈ descriptions.names := by
  rw [Option.isSome_iff_exists, mem_names_iff]

theorem find?_put
    (descriptions : Descriptions)
    (name : String)
    (new : ModelDescription)
    (other : String) :
    (descriptions.put name new).find? other =
      if other = name then some new else descriptions.find? other := by
  show ((putEntry name new descriptions.entries).find? (·.1 = other)).map Prod.snd = _
  unfold find?
  generalize descriptions.entries = entries
  induction entries with
  | nil => by_cases same : other = name <;> simp [putEntry, same, Ne.symm]
  | cons first rest induction =>
    obtain ⟨candidate, old⟩ := first
    unfold putEntry
    split
    · by_cases same : other = name <;> simp [same, Ne.symm]
    · split
      · rename_i named
        subst named
        by_cases same : other = candidate <;> simp [same, Ne.symm]
      · rename_i differ
        by_cases here : candidate = other
        · simp [here, here ▸ differ]
        · simpa [here] using induction

/-- Of the descriptions with one name the last one is collected. -/
theorem find?_ofList (named : List (String × ModelDescription)) (name : String) :
    (ofList named).find? name = (named.reverse.find? (·.1 = name)).map Prod.snd := by
  unfold ofList
  induction named using List.reverseRecOn with
  | nil => rfl
  | append_singleton earlier entry induction =>
    rw [List.foldl_append, List.foldl_cons, List.foldl_nil, find?_put, induction,
      List.reverse_append, List.reverse_singleton, List.singleton_append, List.find?_cons]
    by_cases same : name = entry.1
    · simp [same]
    · simp [same, Ne.symm same]

/-- Changing descriptions by name changes what stands under each name. -/
theorem find?_filterMap
    (descriptions : Descriptions)
    (change : String → ModelDescription → Option ModelDescription)
    (name : String) :
    (descriptions.filterMap change).find? name = (descriptions.find? name).bind (change name) := by
  apply Option.ext
  intro found
  simp only [find?_eq_some_iff, Option.bind_eq_some_iff, filterMap, List.mem_filterMap,
    Option.map_eq_some_iff]
  constructor
  · rintro ⟨⟨_, described⟩, listed, _, changed, equal⟩
    cases equal
    exact ⟨described, listed, changed⟩
  · rintro ⟨described, listed, changed⟩
    exact ⟨(name, described), listed, found, changed, rfl⟩

theorem find?_restrict
    (descriptions : Descriptions)
    (picked : List PickedModel)
    (name : String) :
    (descriptions.restrict picked).find? name =
      (descriptions.find? name).bind fun described =>
        (picked.find? (·.name = name)).map fun model =>
          { described with
            columns := described.columns.filter fun column =>
              model.columns.any (·.name = column.name) } :=
  descriptions.find?_filterMap _ name

end Descriptions

/-- The picked model of a name is the first model of that name, if the name is selected. -/
theorem Manifest.find?_pick
    (manifest : Manifest)
    (selected : List String)
    (name : String) :
    (manifest.pick selected).find? (·.name = name) =
      if name ∈ selected then (manifest.models.find? (·.name = name)).map .ofModel else none := by
  rw [pick, List.find?_map, List.find?_filter]
  split
  · rename_i isSelected
    congr 2
    funext model
    by_cases named : model.name = name <;> simp [PickedModel.ofModel, named, isSelected]
  · rename_i unselected
    rw [Option.map_eq_none_iff, List.find?_eq_none]
    intro model _ both
    rw [decide_eq_true_iff, List.contains_iff_mem] at both
    have named : model.name = name := of_decide_eq_true both.2
    exact unselected (named ▸ both.1)

end SemanticIndex
