import Mathlib.Algebra.BigOperators.Group.List.Basic
import Mathlib.Algebra.GroupWithZero.Nat
import SemanticIndex.Proofs.Ddl.Dangling

/-!
# How many foreign keys there are

Foreign keys are collected table by table, but they belong to relationships.  In a compiled
manifest whose models have distinct names, the keys of all tables together are those of all
relationships together: a relationship adds one for each defined table on a side that gets keys.
-/

namespace SemanticIndex

/-! ## Counting pairs -/

section Counting

variable {row column : Type}

theorem countP_eq_sum_map (holds : row → Bool) (rows : List row) :
    rows.countP holds = (rows.map fun row => if holds row then 1 else 0).sum := by
  induction rows with
  | nil => rfl
  | cons row rest induction =>
    rw [List.countP_cons, induction, List.map_cons, List.sum_cons, Nat.add_comm]

/-- The pairs of a relation are as many by rows as by columns. -/
theorem sum_map_countP_comm
    (related : row → column → Bool)
    (rows : List row)
    (columns : List column) :
    (rows.map fun row => columns.countP (related row)).sum =
      (columns.map fun column => rows.countP (related · column)).sum := by
  induction rows with
  | nil => simp
  | cons row rest induction =>
    simp only [List.map_cons, List.sum_cons, List.countP_cons, List.sum_map_add, induction,
      countP_eq_sum_map (related row), Nat.add_comm]

end Counting

/-! ## The keys of a table -/

section Keys

variable {models : List Model} {table : String} {relationships : List Relationship}
  {keys : List ForeignKey}

/-- A table has one key for each relationship that gives it one. -/
theorem length_of_foreignKeys (resolved : foreignKeys models table relationships = .ok keys) :
    keys.length = relationships.countP fun relationship =>
      (relationship.keySide? table).isSome := by
  obtain ⟨added, contributes, rfl⟩ := foreignKeys_eq_ok_iff.mp resolved
  clear resolved
  induction contributes with
  | nil => rfl
  | @cons relationship _ _ _ first rest induction =>
    rw [List.countP_cons, ← induction]
    cases first with
    | nothing irrelevant =>
      have unkeyed : relationship.keySide? table = none :=
        Option.eq_none_iff_forall_ne_some.mpr fun side sided =>
          irrelevant side (Relationship.keySide?_eq_some_iff.mp sided)
      rw [List.reduceOption_cons_of_none, unkeyed]
      rfl
    | key concerns gives =>
      rw [List.reduceOption_cons_of_some, Relationship.keySide?_eq_some_iff.mpr concerns]
      rfl

/-- A key refers to a model that is defined, and to the primary key that the model declares. -/
theorem exists_model_of_mem_foreignKeys
    (resolved : foreignKeys models table relationships = .ok keys)
    {key : ForeignKey}
    (inside : key ∈ keys) :
    ∃ model ∈ models, model.name = key.references ∧
      model.primaryKey = some key.primaryKey ∧ key.primaryKey ≠ "" := by
  obtain ⟨added, contributes, rfl⟩ := foreignKeys_eq_ok_iff.mp resolved
  rw [List.reduceOption_mem_iff] at inside
  clear resolved
  induction contributes with
  | nil => cases inside
  | cons first rest induction =>
    rcases List.mem_cons.mp inside with here | later
    · subst here
      cases first with
      | key concerns gives =>
        obtain ⟨_, ⟨before, after, split, named, _⟩, declared, nonempty⟩ := gives
        exact ⟨_, by simp [split], named, declared, nonempty⟩
    · exact induction later

end Keys

/-! ## The keys of a manifest -/

namespace Manifest

/-- The number of foreign keys that a relationship adds to the tables of a manifest. -/
def keyCount (manifest : Manifest) (relationship : Relationship) : Nat :=
  match relationship.joinType with
  | .manyToOne => if manifest.Defines relationship.first then 1 else 0
  | .oneToMany => if manifest.Defines relationship.second then 1 else 0
  | .oneToOne =>
    if relationship.first = relationship.second then
      if manifest.Defines relationship.first then 1 else 0
    else if manifest.Defines relationship.first ∧ manifest.Defines relationship.second then 2
    else 0
  | .other _ => 0

/-- The documents of a manifest's models, with the foreign keys that their blocks have. -/
structure KeyedBlocks
    (manifest : Manifest)
    (documents : List Document)
    (keys : List (List ForeignKey)) : Prop where
  count : keys.length = manifest.models.length
  blocks : ∀ (position : Nat) (model : Model), manifest.models[position]? = some model →
    ∃ document own, documents[position]? = some document ∧ keys[position]? = some own ∧
      manifest.foreignKeys model.name = .ok own ∧ model.IsBlock own document.content

variable {manifest : Manifest} {documents : List Document}

theorem keyedBlocks_of_compile
    (compiled : manifest.compile = .ok documents) :
    ∃ keys, manifest.tableKeys = .ok keys ∧ manifest.KeyedBlocks documents keys := by
  obtain ⟨keys, collected, _⟩ := exists_tableKeys_of_compile compiled
  refine ⟨keys, collected, length_of_tableKeys collected, ?_⟩
  intro position model found
  obtain ⟨own, stands, resolved⟩ := getElem?_of_tableKeys collected found
  obtain ⟨document, others, emitted, same, block⟩ :=
    (emits_of_compile compiled).models position model found
  obtain rfl := Except.ok.inj (resolved.symm.trans same)
  exact ⟨document, own, emitted, stands, resolved, block⟩

section Distinct

variable (distinct : (manifest.models.map Model.name).Nodup)

include distinct

theorem countP_name (name : String) :
    ((manifest.models.map Model.name).countP fun table => name = table) =
      if manifest.Defines name then 1 else 0 := by
  calc (manifest.models.map Model.name).countP (fun table => name = table)
      = (manifest.models.map Model.name).count name := by
        apply List.countP_congr
        intro table _
        rw [decide_eq_true_iff, beq_iff_eq, eq_comm]
    _ = if manifest.Defines name then 1 else 0 := distinct.count

theorem countP_either
    {first second : String}
    (different : first ≠ second) :
    ((manifest.models.map Model.name).countP fun table => first = table ∨ second = table) =
      (if manifest.Defines first then 1 else 0) + if manifest.Defines second then 1 else 0 := by
  rw [← countP_name distinct first, ← countP_name distinct second, countP_eq_sum_map,
    countP_eq_sum_map, countP_eq_sum_map, ← List.sum_map_add]
  congr 2
  funext table
  by_cases named : first = table
  · have other : second ≠ table := fun equal => different (named.trans equal.symm)
    simp [named, other]
  · simp [named]

/-- The number of defined tables that a relationship gives a key to. -/
theorem countP_keySide?
    {relationship : Relationship}
    (paired : relationship.joinType = .oneToOne →
      (manifest.Defines relationship.first ↔ manifest.Defines relationship.second)) :
    ((manifest.models.map Model.name).countP fun table =>
      (relationship.keySide? table).isSome) = manifest.keyCount relationship := by
  have keyed (holds : String → Bool)
      (same : ∀ table, (relationship.keySide? table).isSome ↔ holds table) :
      ((manifest.models.map Model.name).countP fun table =>
        (relationship.keySide? table).isSome) =
          (manifest.models.map Model.name).countP holds :=
    List.countP_congr fun table _ => same table
  unfold keyCount
  simp only [Relationship.isSome_keySide?_iff] at keyed
  cases type : relationship.joinType with
  | manyToOne =>
    rw [keyed (relationship.first = ·) fun table => by simp [type]]
    exact countP_name distinct _
  | oneToMany =>
    rw [keyed (relationship.second = ·) fun table => by simp [type]]
    exact countP_name distinct _
  | oneToOne =>
    rw [keyed (fun table => relationship.first = table ∨ relationship.second = table)
      fun table => by simp [type]]
    show _ = if relationship.first = relationship.second then _ else _
    split
    · rename_i same
      simp only [same, or_self]
      exact countP_name distinct _
    · rename_i different
      rw [countP_either distinct different]
      by_cases defined : manifest.Defines relationship.first
      · simp [defined, (paired type).mp defined]
      · simp [defined, mt (paired type).mpr defined]
  | other tag =>
    rw [keyed (fun _ => false) fun table => by simp [type]]
    exact congrFun List.countP_false _

/--
In a compiled manifest with distinct model names, the tables have as many foreign keys as the
relationships add.  A one-to-one relationship has both its models defined or none, and every key
refers to a defined model and to the primary key that it declares.
-/
theorem foreignKeys_of_distinct_models
    (compiled : manifest.compile = .ok documents) :
    ∃ keys, manifest.KeyedBlocks documents keys ∧
      (keys.map List.length).sum = (manifest.relationships.map manifest.keyCount).sum ∧
      (∀ relationship ∈ manifest.relationships, relationship.joinType = .oneToOne →
        (manifest.Defines relationship.first ↔ manifest.Defines relationship.second)) ∧
      ∀ own ∈ keys, ∀ key ∈ own, ∃ model ∈ manifest.models, model.name = key.references ∧
        model.primaryKey = some key.primaryKey ∧ key.primaryKey ≠ "" := by
  obtain ⟨keys, collected, blocks⟩ := keyedBlocks_of_compile compiled
  have resolved := mapM_eq_ok_iff_forall₂.mp collected
  have paired (relationship : Relationship) (listed : relationship ∈ manifest.relationships)
      (type : relationship.joinType = .oneToOne) :
      manifest.Defines relationship.first ↔ manifest.Defines relationship.second := by
    have both := defines_of_compile compiled listed
    simp only [Notices, type] at both
    tauto
  refine ⟨keys, blocks, ?_, paired, ?_⟩
  · calc (keys.map List.length).sum
        = ((manifest.models.map Model.name).map fun table =>
            manifest.relationships.countP fun relationship =>
              (relationship.keySide? table).isSome).sum := by
          congr 1
          rw [← List.forall₂_eq_eq_eq, List.forall₂_map_left_iff, List.forall₂_map_right_iff]
          exact (resolved.imp fun _ _ => length_of_foreignKeys).flip
      _ = (manifest.relationships.map fun relationship =>
            (manifest.models.map Model.name).countP fun table =>
              (relationship.keySide? table).isSome).sum := sum_map_countP_comm _ _ _
      _ = (manifest.relationships.map manifest.keyCount).sum := by
          congr 1
          apply List.map_congr_left
          intro relationship listed
          exact countP_keySide? distinct (paired relationship listed)
  · intro own inside key emitted
    obtain ⟨position, within, rfl⟩ := List.getElem_of_mem inside
    have ofModel : position < manifest.models.length := blocks.count ▸ within
    obtain ⟨_, found, _, stands, resolved, _⟩ :=
      blocks.blocks position _ (List.getElem?_eq_getElem ofModel)
    rw [List.getElem?_eq_getElem within, Option.some.injEq] at stands
    exact exists_model_of_mem_foreignKeys resolved (stands ▸ emitted)

end Distinct

/-- A table with two keys, a pair of tables, a table paired with itself, and one without a model. -/
def tradeManifest : Manifest where
  models := [
    ⟨"orders", none, [], none, []⟩,
    ⟨"customers", none, [], some "id", []⟩,
    ⟨"profiles", none, [], some "pid", []⟩]
  relationships := [
    ⟨"", "orders", "customers", .manyToOne, "orders.customer = customers.id", []⟩,
    ⟨"", "profiles", "orders", .oneToMany, "profiles.pid = orders.profile", []⟩,
    ⟨"", "customers", "profiles", .oneToOne, "customers.profile = profiles.customer", []⟩,
    ⟨"", "profiles", "profiles", .oneToOne, "profiles.twin = profiles.pid", []⟩,
    ⟨"", "ghosts", "customers", .manyToOne, "ghosts.customer = customers.id", []⟩,
    ⟨"", "orders", "ghosts", .other "MANY_TO_MANY", "any", []⟩]
  metrics := []
  views := []
  extra := []

theorem foreignKeys_of_distinct_models_trade :
    (tradeManifest.models.map Model.name).Nodup ∧
      ∃ documents keys, tradeManifest.compile = .ok documents ∧
        tradeManifest.KeyedBlocks documents keys ∧ (keys.map List.length).sum = 5 ∧
        ∀ own ∈ keys, ∀ key ∈ own, ∃ model ∈ tradeManifest.models,
          model.name = key.references ∧ model.primaryKey = some key.primaryKey ∧
            key.primaryKey ≠ "" := by
  have distinct : (tradeManifest.models.map Model.name).Nodup := by decide
  have compiles : tradeManifest.compile.isOk = true := by decide +kernel
  cases compiled : tradeManifest.compile with
  | error error =>
    rw [compiled] at compiles
    exact nomatch compiles
  | ok documents =>
    obtain ⟨keys, blocks, counted, _, refer⟩ := foreignKeys_of_distinct_models distinct compiled
    exact ⟨distinct, documents, keys, rfl, blocks, counted.trans (by decide), refer⟩

end Manifest

end SemanticIndex
