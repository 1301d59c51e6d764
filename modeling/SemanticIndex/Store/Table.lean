/-!
# Tables

A table maps keys to values.  Its rows stand in the order in which their keys came, and no key
has two rows.
-/

namespace SemanticIndex

/-- Rows with distinct keys. -/
@[ext]
structure Table (key value : Type) where
  rows : List (key × value)
  distinct : (rows.map Prod.fst).Nodup

namespace Table

variable {key value : Type}

/-- The table without rows. -/
def empty : Table key value :=
  ⟨[], List.nodup_nil⟩

instance : Inhabited (Table key value) :=
  ⟨empty⟩

/-- The number of rows. -/
def size (table : Table key value) : Nat :=
  table.rows.length

/-- The keys in the order of the rows. -/
def keys (table : Table key value) : List key :=
  table.rows.map Prod.fst

/-- Keep the rows whose keys satisfy a condition. -/
def keep (table : Table key value) (condition : key → Bool) : Table key value where
  rows := table.rows.filter fun row => condition row.1
  distinct := table.distinct.sublist (List.filter_sublist.map Prod.fst)

theorem nodup_keys (table : Table key value) : table.keys.Nodup :=
  table.distinct

theorem size_eq_length_keys (table : Table key value) : table.size = table.keys.length := by
  simp [size, keys]

theorem eq_empty_of_size_eq_zero
    {table : Table key value}
    (without : table.size = 0) :
    table = empty := by
  ext1
  exact List.eq_nil_of_length_eq_zero without

variable [DecidableEq key]

def find? (table : Table key value) (wanted : key) : Option value :=
  (table.rows.find? fun row => row.1 = wanted).map Prod.snd

/-- Decide whether a key has a row. -/
def contains (table : Table key value) (wanted : key) : Bool :=
  table.keys.contains wanted

/-- Remove the row of a key, if it has one. -/
def erase (table : Table key value) (unwanted : key) : Table key value :=
  table.keep (· ≠ unwanted)

/-- Set the value of a key in a list of rows, in place or at the end. -/
def putRow (wanted : key) (new : value) : List (key × value) → List (key × value)
  | [] => [(wanted, new)]
  | (candidate, old) :: rest =>
    if candidate = wanted then (wanted, new) :: rest
    else (candidate, old) :: putRow wanted new rest

theorem map_fst_putRow
    (wanted : key)
    (new : value)
    (rows : List (key × value)) :
    (putRow wanted new rows).map Prod.fst =
      if wanted ∈ rows.map Prod.fst then rows.map Prod.fst
      else rows.map Prod.fst ++ [wanted] := by
  induction rows with
  | nil => simp [putRow]
  | cons row rest induction =>
    rcases row with ⟨candidate, old⟩
    by_cases same : candidate = wanted
    · simp [putRow, same]
    · have other : ¬ wanted = candidate := fun equal => same equal.symm
      by_cases present : wanted ∈ rest.map Prod.fst
      · simp only [putRow, same, if_false, List.map_cons, induction, present, if_true]
        simp only [List.mem_cons, other, present, or_true, if_true]
      · simp only [putRow, same, if_false, List.map_cons, induction, present, List.mem_cons,
          other, or_self, List.cons_append]

theorem nodup_putRow
    {wanted : key}
    {new : value}
    {rows : List (key × value)}
    (distinct : (rows.map Prod.fst).Nodup) :
    ((putRow wanted new rows).map Prod.fst).Nodup := by
  rw [map_fst_putRow]
  split
  · exact distinct
  · rename_i absent
    rw [List.nodup_append]
    refine ⟨distinct, by simp, ?_⟩
    intro one present two last
    rw [List.mem_singleton] at last
    rintro rfl
    exact absent (last ▸ present)

/-- Set the value of a key, in place or at the end. -/
def insert (table : Table key value) (wanted : key) (new : value) : Table key value where
  rows := putRow wanted new table.rows
  distinct := nodup_putRow table.distinct

/-! ## Keys and size -/

theorem contains_iff_mem_keys
    {table : Table key value}
    {wanted : key} :
    table.contains wanted = true ↔ wanted ∈ table.keys := by
  simp [contains]

theorem keys_insert
    (table : Table key value)
    (wanted : key)
    (new : value) :
    (table.insert wanted new).keys =
      if wanted ∈ table.keys then table.keys else table.keys ++ [wanted] :=
  map_fst_putRow wanted new table.rows

theorem size_insert
    (table : Table key value)
    (wanted : key)
    (new : value) :
    (table.insert wanted new).size =
      if table.contains wanted then table.size else table.size + 1 := by
  simp only [size_eq_length_keys, keys_insert, contains_iff_mem_keys]
  split <;> simp

/-! ## Looking up -/

@[simp]
theorem find?_empty (wanted : key) : (empty : Table key value).find? wanted = none :=
  rfl

theorem mem_keys_iff_isSome_find?
    {table : Table key value}
    {wanted : key} :
    wanted ∈ table.keys ↔ (table.find? wanted).isSome := by
  simp [keys, find?, List.find?_isSome]

theorem find?_putRow
    (wanted other : key)
    (new : value)
    (rows : List (key × value)) :
    (putRow wanted new rows).find? (fun row => row.1 = other) =
      if other = wanted then some (wanted, new)
      else rows.find? fun row => row.1 = other := by
  induction rows with
  | nil =>
    by_cases same : other = wanted
    · simp [putRow, same]
    · simp [putRow, same, Ne.symm same]
  | cons row rest induction =>
    rcases row with ⟨candidate, old⟩
    by_cases same : candidate = wanted
    · subst same
      by_cases found : other = candidate
      · simp [putRow, found]
      · simp [putRow, found, Ne.symm found]
    · by_cases found : candidate = other
      · subst found
        simp [putRow, same]
      · simp [putRow, same, found, induction]

theorem find?_insert
    (table : Table key value)
    (wanted other : key)
    (new : value) :
    (table.insert wanted new).find? other =
      if other = wanted then some new else table.find? other := by
  simp only [find?, insert, find?_putRow]
  split <;> rfl

theorem find?_keep
    (table : Table key value)
    (condition : key → Bool)
    (wanted : key) :
    (table.keep condition).find? wanted =
      if condition wanted then table.find? wanted else none := by
  simp only [find?, keep, List.find?_filter]
  split
  · rename_i kept
    congr 2
    funext row
    by_cases same : row.1 = wanted
    · simp [same, kept]
    · simp [same]
  · rename_i dropped
    have missing : ∀ row ∈ table.rows, ¬ (condition row.1 ∧ row.1 = wanted) := by
      rintro row _ ⟨kept, rfl⟩
      exact dropped kept
    simpa using missing

theorem find?_erase
    (table : Table key value)
    (unwanted wanted : key) :
    (table.erase unwanted).find? wanted =
      if wanted = unwanted then none else table.find? wanted := by
  rw [erase, find?_keep]
  by_cases same : wanted = unwanted <;> simp [same]

/-- Tables that agree on every key have equally many rows. -/
theorem size_eq_of_find?_eq
    {one other : Table key value}
    (same : ∀ wanted, one.find? wanted = other.find? wanted) :
    one.size = other.size := by
  have keysPermute : one.keys.Perm other.keys := by
    rw [List.perm_ext_iff_of_nodup one.nodup_keys other.nodup_keys]
    intro wanted
    rw [mem_keys_iff_isSome_find?, mem_keys_iff_isSome_find?, same]
  rw [size_eq_length_keys, size_eq_length_keys]
  exact keysPermute.length_eq

/-! ## Rows after changes -/

theorem putRow_of_not_mem
    {wanted : key}
    {rows : List (key × value)}
    (absent : wanted ∉ rows.map Prod.fst)
    (new : value) :
    putRow wanted new rows = rows ++ [(wanted, new)] := by
  induction rows with
  | nil => rfl
  | cons row rest induction =>
    simp only [List.map_cons, List.mem_cons, not_or] at absent
    simp [putRow, Ne.symm absent.1, induction absent.2]

theorem rows_insert_of_not_mem
    {table : Table key value}
    {wanted : key}
    (absent : wanted ∉ table.keys)
    (new : value) :
    (table.insert wanted new).rows = table.rows ++ [(wanted, new)] :=
  putRow_of_not_mem absent new

theorem rows_foldl_erase
    (table : Table key value)
    (unwanted : List key) :
    (unwanted.foldl erase table).rows = table.rows.filter fun row => row.1 ∉ unwanted := by
  induction unwanted generalizing table with
  | nil => exact (List.filter_eq_self.mpr (by simp)).symm
  | cons first rest induction =>
    rw [List.foldl_cons, induction]
    simp only [erase, keep, List.filter_filter]
    congr 1
    funext row
    simp [Bool.and_comm]

end Table

end SemanticIndex
