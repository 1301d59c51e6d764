import SemanticIndex.Store.Table

/-!
# Views of tables

A table may be seen with its values replaced by others, or cut down to the keys with a given first
part.  Both views turn inserting and erasing into inserting and erasing.
-/

namespace SemanticIndex.Table

/-! ## Values replaced -/

section Map

variable {key value other : Type}

/-- The table with its values replaced by their images. -/
def map (image : value → other) (table : Table key value) : Table key other where
  rows := table.rows.map (Prod.map id image)
  distinct := by
    rw [List.map_map]
    exact table.distinct

@[simp]
theorem map_empty (image : value → other) :
    (empty : Table key value).map image = empty :=
  rfl

@[simp]
theorem size_map
    (image : value → other)
    (table : Table key value) :
    (table.map image).size = table.size := by
  simp [size, map]

@[simp]
theorem keys_map
    (image : value → other)
    (table : Table key value) :
    (table.map image).keys = table.keys := by
  simp only [keys, map, List.map_map]
  rfl

theorem map_keep
    (image : value → other)
    (table : Table key value)
    (condition : key → Bool) :
    (table.keep condition).map image = (table.map image).keep condition := by
  ext1
  simp only [map, keep, List.filter_map]
  rfl

variable [DecidableEq key]

@[simp]
theorem contains_map
    (image : value → other)
    (table : Table key value)
    (wanted : key) :
    (table.map image).contains wanted = table.contains wanted := by
  simp only [contains, keys_map]

theorem map_erase
    (image : value → other)
    (table : Table key value)
    (unwanted : key) :
    (table.erase unwanted).map image = (table.map image).erase unwanted :=
  map_keep image table _

theorem find?_map
    (image : value → other)
    (table : Table key value)
    (wanted : key) :
    (table.map image).find? wanted = (table.find? wanted).map image := by
  simp only [find?, map, List.find?_map, Option.map_map]
  rfl

theorem map_putRow
    (image : value → other)
    (wanted : key)
    (new : value)
    (rows : List (key × value)) :
    (putRow wanted new rows).map (Prod.map id image) =
      putRow wanted (image new) (rows.map (Prod.map id image)) := by
  induction rows with
  | nil => rfl
  | cons row rest induction =>
    rcases row with ⟨candidate, old⟩
    by_cases same : candidate = wanted
    · simp [putRow, same]
    · simp [putRow, same, induction]

theorem map_insert
    (image : value → other)
    (table : Table key value)
    (wanted : key)
    (new : value) :
    (table.insert wanted new).map image = (table.map image).insert wanted (image new) := by
  ext1
  exact map_putRow image wanted new table.rows

end Map

/-! ## Keys with a given first part -/

section Slice

variable {first second value : Type} [DecidableEq first]

/-- The rows in whose keys the first part is the given one, by the second part of their keys. -/
def slice (part : first) (table : Table (first × second) value) : Table second value where
  rows := (table.rows.filter fun row => row.1.1 == part).map fun row => (row.1.2, row.2)
  distinct := by
    have keysDiffer : (table.rows.filter fun row => row.1.1 == part).Pairwise
        fun one other => one.1 ≠ other.1 :=
      (List.pairwise_map.mp table.distinct).sublist List.filter_sublist
    rw [List.map_map, List.nodup_iff_pairwise_ne, List.pairwise_map]
    refine keysDiffer.imp_of_mem ?_
    intro one other oneKept otherKept differ same
    have oneFirst : one.1.1 = part := by simpa using (List.mem_filter.mp oneKept).2
    have otherFirst : other.1.1 = part := by simpa using (List.mem_filter.mp otherKept).2
    exact differ (Prod.ext (oneFirst.trans otherFirst.symm) same)

@[simp]
theorem slice_empty (part : first) :
    (empty : Table (first × second) value).slice part = empty :=
  rfl

theorem mem_keys_slice
    {part : first}
    {table : Table (first × second) value}
    {wanted : second} :
    wanted ∈ (table.slice part).keys ↔ (part, wanted) ∈ table.keys := by
  simp [keys, slice]

theorem slice_keep
    (part : first)
    (table : Table (first × second) value)
    (condition : first × second → Bool) :
    (table.keep condition).slice part =
      (table.slice part).keep fun key => condition (part, key) := by
  ext1
  simp only [slice, keep, List.filter_map, List.filter_filter]
  congr 1
  apply List.filter_congr
  intro row _
  by_cases inside : row.1.1 = part
  · subst inside
    simp
  · have outside : (row.1.1 == part) = false := by simpa using inside
    simp [outside]

theorem slice_drop
    (part : first)
    (table : Table (first × second) value) :
    (table.keep fun key => key.1 != part).slice part = empty := by
  rw [slice_keep]
  ext1
  simp [keep, empty]

theorem slice_drop_of_ne
    {part other : first}
    (differ : other ≠ part)
    (table : Table (first × second) value) :
    (table.keep fun key => key.1 != part).slice other = table.slice other := by
  rw [slice_keep]
  ext1
  simp [keep, differ]

variable [DecidableEq second]

theorem contains_slice
    (part : first)
    (table : Table (first × second) value)
    (wanted : second) :
    (table.slice part).contains wanted = table.contains (part, wanted) := by
  rw [Bool.eq_iff_iff, contains_iff_mem_keys, contains_iff_mem_keys, mem_keys_slice]

theorem find?_slice
    (part : first)
    (table : Table (first × second) value)
    (wanted : second) :
    (table.slice part).find? wanted = table.find? (part, wanted) := by
  have sameRow : ∀ row : (first × second) × value,
      (row.1.1 == part ∧ decide (row.1.2 = wanted)) ↔ row.1 = (part, wanted) := by
    intro row
    simp [Prod.ext_iff]
  simp only [find?, slice, List.find?_map, List.find?_filter, Option.map_map, Function.comp_def,
    sameRow]

theorem slice_erase
    (part : first)
    (table : Table (first × second) value)
    (unwanted : second) :
    (table.erase (part, unwanted)).slice part = (table.slice part).erase unwanted := by
  rw [erase, slice_keep, erase]
  congr 1
  funext key
  simp

theorem slice_erase_of_ne
    {part other : first}
    (differ : other ≠ part)
    (table : Table (first × second) value)
    (unwanted : second) :
    (table.erase (part, unwanted)).slice other = table.slice other := by
  rw [erase, slice_keep]
  ext1
  simp [keep, differ]

theorem slice_insert
    (part : first)
    (table : Table (first × second) value)
    (wanted : second)
    (new : value) :
    (table.insert (part, wanted) new).slice part = (table.slice part).insert wanted new := by
  have onRows : ∀ rows : List ((first × second) × value),
      ((putRow (part, wanted) new rows).filter fun row => row.1.1 == part).map
          (fun row => (row.1.2, row.2)) =
        putRow wanted new
          ((rows.filter fun row => row.1.1 == part).map fun row => (row.1.2, row.2)) := by
    intro rows
    induction rows with
    | nil => simp [putRow]
    | cons row rest induction =>
      obtain ⟨⟨candidate, key⟩, old⟩ := row
      by_cases inside : candidate = part
      · subst inside
        by_cases same : key = wanted
        · simp [putRow, same]
        · simpa [putRow, same] using induction
      · simpa [putRow, inside] using induction
  ext1
  exact onRows table.rows

theorem slice_insert_of_ne
    {part other : first}
    (differ : other ≠ part)
    (table : Table (first × second) value)
    (wanted : second)
    (new : value) :
    (table.insert (part, wanted) new).slice other = table.slice other := by
  have onRows : ∀ rows : List ((first × second) × value),
      (putRow (part, wanted) new rows).filter (fun row => row.1.1 == other) =
        rows.filter fun row => row.1.1 == other := by
    intro rows
    induction rows with
    | nil => simp [putRow, differ.symm]
    | cons row rest induction =>
      obtain ⟨candidate, old⟩ := row
      by_cases same : candidate = (part, wanted)
      · simp [putRow, same, differ.symm]
      · simp [putRow, same, List.filter_cons, induction]
  ext1
  simp only [slice, insert, onRows]

end Slice

end SemanticIndex.Table
