/-!
# Descriptions

Descriptions say in words what models and their columns hold.  They are kept by model name, in
the order of the names, and no name has two of them.
-/

namespace SemanticIndex

/-- The description of a column. -/
structure ColumnDescription where
  name : String
  description : String
deriving DecidableEq, Inhabited

/-- The description of a model and its columns. -/
structure ModelDescription where
  name : String
  description : String
  columns : List ColumnDescription
deriving DecidableEq, Inhabited

/-- Model descriptions by name, in the order of the names. -/
structure Descriptions where
  entries : List (String × ModelDescription)
  increasing : entries.Pairwise fun one other => one.1 < other.1

namespace Descriptions

def empty : Descriptions :=
  ⟨[], List.Pairwise.nil⟩

instance : Inhabited Descriptions :=
  ⟨empty⟩

/-- Set the description of a name in a list ordered by names. -/
def putEntry
    (name : String)
    (new : ModelDescription) :
    List (String × ModelDescription) → List (String × ModelDescription)
  | [] => [(name, new)]
  | (candidate, old) :: rest =>
    if name < candidate then (name, new) :: (candidate, old) :: rest
    else if candidate = name then (name, new) :: rest
    else (candidate, old) :: putEntry name new rest

theorem key_of_mem_putEntry
    {name : String}
    {new : ModelDescription}
    {entries : List (String × ModelDescription)}
    {entry : String × ModelDescription}
    (member : entry ∈ putEntry name new entries) :
    entry.1 = name ∨ entry ∈ entries := by
  induction entries with
  | nil =>
    simp only [putEntry, List.mem_singleton] at member
    exact Or.inl (by rw [member])
  | cons first rest induction =>
    obtain ⟨candidate, old⟩ := first
    simp only [putEntry] at member
    split at member
    · rcases List.mem_cons.1 member with equal | inside
      · exact Or.inl (by rw [equal])
      · exact Or.inr inside
    · split at member
      · rcases List.mem_cons.1 member with equal | inside
        · exact Or.inl (by rw [equal])
        · exact Or.inr (List.mem_cons_of_mem _ inside)
      · rcases List.mem_cons.1 member with equal | inside
        · exact Or.inr (equal ▸ List.mem_cons_self)
        · rcases induction inside with same | deeper
          · exact Or.inl same
          · exact Or.inr (List.mem_cons_of_mem _ deeper)

theorem increasing_putEntry
    {name : String}
    {new : ModelDescription}
    {entries : List (String × ModelDescription)}
    (increasing : entries.Pairwise fun one other => one.1 < other.1) :
    (putEntry name new entries).Pairwise fun one other => one.1 < other.1 := by
  induction entries with
  | nil => simp [putEntry]
  | cons first rest induction =>
    obtain ⟨candidate, old⟩ := first
    rw [List.pairwise_cons] at increasing
    obtain ⟨below, ordered⟩ := increasing
    simp only [putEntry]
    split
    · rename_i before
      refine List.pairwise_cons.2 ⟨?_, List.pairwise_cons.2 ⟨below, ordered⟩⟩
      intro entry member
      rcases List.mem_cons.1 member with equal | inside
      · rw [equal]
        exact before
      · exact String.lt_trans before (below entry inside)
    · rename_i notBefore
      split
      · rename_i same
        subst same
        exact List.pairwise_cons.2 ⟨below, ordered⟩
      · rename_i different
        refine List.pairwise_cons.2 ⟨?_, induction ordered⟩
        intro entry member
        rcases key_of_mem_putEntry member with equal | inside
        · rw [equal]
          apply Classical.byContradiction
          intro notAfter
          exact different
            (String.le_antisymm (String.not_lt.1 notBefore) (String.not_lt.1 notAfter))
        · exact below entry inside

/-- Set the description of a name. -/
def put (descriptions : Descriptions) (name : String) (new : ModelDescription) : Descriptions where
  entries := putEntry name new descriptions.entries
  increasing := increasing_putEntry descriptions.increasing

/-- Collect named descriptions; the last one of a name counts. -/
def ofList (named : List (String × ModelDescription)) : Descriptions :=
  named.foldl (fun descriptions entry => descriptions.put entry.1 entry.2) empty

def find? (descriptions : Descriptions) (name : String) : Option ModelDescription :=
  (descriptions.entries.find? fun entry => entry.1 = name).map Prod.snd

theorem increasing_filterMap
    {entries : List (String × ModelDescription)}
    (change : String → ModelDescription → Option ModelDescription)
    (increasing : entries.Pairwise fun one other => one.1 < other.1) :
    (entries.filterMap fun entry =>
        (change entry.1 entry.2).map fun new => (entry.1, new)).Pairwise
      fun one other => one.1 < other.1 := by
  rw [List.pairwise_filterMap]
  refine increasing.imp ?_
  intro one other less first firstChanged second secondChanged
  obtain ⟨_, _, rfl⟩ := Option.map_eq_some_iff.1 firstChanged
  obtain ⟨_, _, rfl⟩ := Option.map_eq_some_iff.1 secondChanged
  exact less

/-- Change descriptions or drop them, by name. -/
def filterMap
    (descriptions : Descriptions)
    (change : String → ModelDescription → Option ModelDescription) : Descriptions where
  entries := descriptions.entries.filterMap fun entry =>
    (change entry.1 entry.2).map fun new => (entry.1, new)
  increasing := increasing_filterMap change descriptions.increasing

end Descriptions

end SemanticIndex
