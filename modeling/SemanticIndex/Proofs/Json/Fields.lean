import Mathlib.Data.List.Nodup
import SemanticIndex.Json.Fields

/-!
# Fields under their keys

Facts about the fields of an object whose keys are distinct: what stands under a key, and what is
left when some keys are taken out.
-/

namespace SemanticIndex.Fields

variable {value : Type} {fields : Fields value} {key : String} {new : value}

theorem put_of_not_mem (absent : key ∉ fields.keys) :
    fields.put key new = fields ++ [(key, new)] := by
  induction fields with
  | nil => rfl
  | cons first rest induction =>
    simp only [keys, List.map_cons, List.mem_cons, not_or] at absent
    rw [put, if_neg (Ne.symm absent.1), induction absent.2, List.cons_append]

theorem keys_put_of_mem (present : key ∈ fields.keys) :
    (fields.put key new).keys = fields.keys := by
  induction fields with
  | nil => cases present
  | cons first rest induction =>
    unfold put
    split
    · rename_i same
      simp [keys, same]
    · rename_i other
      have present := (List.mem_cons.mp present).resolve_left (Ne.symm other)
      exact congrArg (first.1 :: ·) (induction present)

theorem put_append_of_not_mem
    {front back : Fields value}
    {old : value}
    (fresh : key ∉ front.keys) :
    Fields.put (front ++ (key, old) :: back) key new = front ++ (key, new) :: back := by
  induction front with
  | nil => simp only [List.nil_append, put, if_pos]
  | cons first rest induction =>
    simp only [keys, List.map_cons, List.mem_cons, not_or] at fresh
    rw [List.cons_append, put, if_neg (Ne.symm fresh.1), induction fresh.2, List.cons_append]

/-- The fields around the first one of a present key. -/
theorem exists_append_of_mem_keys (present : key ∈ fields.keys) :
    ∃ front old back, fields = front ++ (key, old) :: back ∧ key ∉ Fields.keys front := by
  induction fields with
  | nil => cases present
  | cons first rest induction =>
    by_cases same : first.1 = key
    · exact ⟨[], first.2, rest, by rw [← same]; rfl, List.not_mem_nil⟩
    · have later := (List.mem_cons.mp present).resolve_left (Ne.symm same)
      obtain ⟨front, old, back, rfl, fresh⟩ := induction later
      exact ⟨first :: front, old, back, rfl,
        fun inside => (List.mem_cons.mp inside).elim (Ne.symm same) fresh⟩

theorem nodup_keys_put (distinct : fields.keys.Nodup) : (fields.put key new).keys.Nodup := by
  by_cases present : key ∈ fields.keys
  · rwa [keys_put_of_mem present]
  · rw [put_of_not_mem present, keys, List.map_append]
    apply distinct.append (List.nodup_singleton key)
    rintro other inside new
    rw [List.mem_singleton.mp new] at inside
    exact present inside

theorem mem_put {field : String × value} (inside : field ∈ fields.put key new) :
    field = (key, new) ∨ field ∈ fields := by
  induction fields with
  | nil => exact Or.inl (List.mem_singleton.mp inside)
  | cons first rest induction =>
    unfold put at inside
    split at inside
    · exact (List.mem_cons.mp inside).imp_right (List.mem_cons_of_mem first)
    · rcases List.mem_cons.mp inside with here | later
      · exact Or.inr (here ▸ List.mem_cons_self)
      · exact (induction later).imp_right (List.mem_cons_of_mem first)

theorem mem_of_get? {found : value} (present : fields.get? key = some found) :
    (key, found) ∈ fields := by
  induction fields with
  | nil => cases present
  | cons first rest induction =>
    unfold get? at present
    split at present
    · rename_i same
      obtain rfl := Option.some.inj present
      rw [← same]
      exact List.mem_cons_self
    · exact List.mem_cons_of_mem first (induction present)

theorem get?_append (front back : Fields value) :
    Fields.get? (front ++ back) key = (front.get? key).or (back.get? key) := by
  induction front with
  | nil => rfl
  | cons first rest induction =>
    rw [List.cons_append, get?, get?]
    split
    · rfl
    · exact induction

theorem get?_eq_none (absent : key ∉ fields.keys) : fields.get? key = none := by
  cases found : fields.get? key with
  | none => rfl
  | some present => exact absurd (List.mem_map_of_mem (mem_of_get? found)) absent

theorem exists_get?_of_mem_keys (present : key ∈ fields.keys) :
    ∃ found, fields.get? key = some found := by
  obtain ⟨front, old, back, rfl, fresh⟩ := exists_append_of_mem_keys present
  refine ⟨old, ?_⟩
  rw [get?_append, get?_eq_none fresh, Option.none_or, get?, if_pos rfl]

theorem without_congr
    {one other : List String}
    (same : ∀ key, key ∈ one ↔ key ∈ other) :
    fields.without one = fields.without other := by
  apply List.filter_congr
  intro field _
  have equal : one.contains field.1 = other.contains field.1 := by
    rw [Bool.eq_iff_iff, List.contains_iff_mem, List.contains_iff_mem]
    exact same field.1
  rw [equal]

theorem without_append (front back : Fields value) (known : List String) :
    Fields.without (front ++ back) known = front.without known ++ back.without known :=
  List.filter_append ..

theorem without_eq_nil
    {known : List String}
    (inside : ∀ field ∈ fields, field.1 ∈ known) :
    fields.without known = [] := by
  rw [without, List.filter_eq_nil_iff]
  intro field found
  simpa using inside field found

theorem without_eq_self
    {known : List String}
    (outside : ∀ field ∈ fields, field.1 ∉ known) :
    fields.without known = fields := by
  rw [without, List.filter_eq_self]
  intro field found
  simpa using outside field found

theorem mem_without
    {known : List String}
    {field : String × value} :
    field ∈ fields.without known ↔ field ∈ fields ∧ field.1 ∉ known := by
  simp [without]

theorem keys_without (known : List String) :
    (fields.without known).keys = fields.keys.filter fun key => !known.contains key := by
  rw [without, keys, keys, List.filter_map]
  rfl

theorem get?_without (known : List String) :
    (fields.without known).get? key = if key ∈ known then none else fields.get? key := by
  unfold without
  induction fields with
  | nil => simp [get?]
  | cons first rest induction =>
    by_cases inside : first.1 ∈ known
    · rw [List.filter_cons_of_neg (by simpa using inside), induction, get?]
      by_cases same : first.1 = key
      · rw [if_pos (same ▸ inside), if_pos (same ▸ inside)]
      · rw [if_neg same]
    · rw [List.filter_cons_of_pos (by simpa using inside), get?, get?, induction]
      by_cases same : first.1 = key
      · rw [if_pos same, if_pos same, if_neg (same ▸ inside)]
      · rw [if_neg same, if_neg same]

theorem get?_without_of_mem
    {known : List String}
    (inside : key ∈ known) :
    (fields.without known).get? key = none := by
  rw [get?_without, if_pos inside]

theorem get?_put {other : String} :
    (fields.put key new).get? other = if other = key then some new else fields.get? other := by
  induction fields with
  | nil => simp only [put, get?, eq_comm]
  | cons first rest induction =>
    unfold put
    split
    · rename_i same
      subst same
      by_cases found : other = first.1
      · rw [get?, if_pos found.symm, if_pos found]
      · rw [get?, if_neg (Ne.symm found), if_neg found, get?, if_neg (Ne.symm found)]
    · rename_i differ
      rw [get?, induction]
      by_cases found : first.1 = other
      · subst found
        rw [if_pos rfl, if_neg differ, get?, if_pos rfl]
      · rw [if_neg found, get?, if_neg found]

theorem get?_of_mem
    (distinct : fields.keys.Nodup)
    {found : value}
    (inside : (key, found) ∈ fields) :
    fields.get? key = some found := by
  induction fields with
  | nil => cases inside
  | cons first rest induction =>
    obtain ⟨fresh, distinct⟩ := List.nodup_cons.mp distinct
    unfold get?
    split
    · rename_i same
      rcases List.mem_cons.mp inside with equal | later
      · rw [← equal]
      · exact absurd (same ▸ List.mem_map_of_mem later) fresh
    · rename_i other
      rcases List.mem_cons.mp inside with equal | later
      · exact absurd (congrArg Prod.fst equal.symm) other
      · exact induction distinct later

/-- Fields are given by their keys and by what stands under each key. -/
theorem ext_get?
    {others : Fields value}
    (distinct : fields.keys.Nodup)
    (sameKeys : fields.keys = others.keys)
    (sameValues : ∀ key ∈ fields.keys, fields.get? key = others.get? key) :
    fields = others := by
  induction fields generalizing others with
  | nil => exact (List.map_eq_nil_iff.mp sameKeys.symm).symm
  | cons first rest induction =>
    obtain _ | ⟨other, others⟩ := others
    · cases sameKeys
    · obtain ⟨sameKey, sameRest⟩ := List.cons.inj sameKeys
      obtain ⟨fresh, distinct⟩ := List.nodup_cons.mp distinct
      have sameValue := sameValues first.1 List.mem_cons_self
      rw [get?, if_pos rfl, get?, if_pos sameKey.symm] at sameValue
      rw [Prod.ext sameKey (Option.some.inj sameValue), induction distinct sameRest]
      intro key inside
      have later := sameValues key (.tail _ inside)
      have differ : first.1 ≠ key := fun same => fresh (same ▸ inside)
      rwa [get?, if_neg differ, get?, if_neg (sameKey ▸ differ)] at later

end SemanticIndex.Fields
