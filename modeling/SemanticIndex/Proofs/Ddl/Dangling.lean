import SemanticIndex.Proofs.Ddl.TableKeys
import SemanticIndex.Proofs.ForeignKey.Dependence

/-!
# Undefined models

A relationship of a known type dangles when one of its models is not defined.  Foreign keys are
collected table by table, and a relationship is looked at only for the tables that it gives keys
to.  If one of these is defined, a dangling relationship is fatal.  Otherwise nothing looks at it:
the manifest compiles as if the relationship were not there.
-/

namespace SemanticIndex

namespace Relationship

/-- The tables that a relationship gives a key to. -/
theorem isSome_keySide?_iff
    {relationship : Relationship}
    {table : String} :
    (relationship.keySide? table).isSome ↔
      match relationship.joinType with
      | .manyToOne => relationship.first = table
      | .oneToMany => relationship.second = table
      | .oneToOne => relationship.first = table ∨ relationship.second = table
      | .other _ => False := by
  unfold keySide?
  cases relationship.joinType with
  | manyToOne => simp
  | oneToMany => simp
  | oneToOne =>
    by_cases first : relationship.first = table <;>
      by_cases second : relationship.second = table <;> simp [first, second]
  | other tag => simp

theorem model_of_keySide?
    {relationship : Relationship}
    {table : String}
    {side : Side}
    (sided : relationship.keySide? table = some side) :
    relationship.model side = table := by
  cases keySide?_eq_some_iff.mp sided with
  | manyToOne _ named => exact named
  | oneToMany _ named => exact named
  | oneToOne _ occurs =>
    obtain ⟨_, found, _⟩ := List.idxOf?_eq_some_iff.mp occurs
    cases side with
    | left => exact found
    | right => exact found

end Relationship

namespace Manifest

/-- A model of the manifest has the name. -/
def Defines (manifest : Manifest) (name : String) : Prop :=
  name ∈ manifest.models.map Model.name

instance (manifest : Manifest) (name : String) : Decidable (manifest.Defines name) :=
  inferInstanceAs (Decidable (name ∈ manifest.models.map Model.name))

/-- A table that gets a key from the relationship is defined. -/
def Notices (manifest : Manifest) (relationship : Relationship) : Prop :=
  match relationship.joinType with
  | .manyToOne => manifest.Defines relationship.first
  | .oneToMany => manifest.Defines relationship.second
  | .oneToOne => manifest.Defines relationship.first ∨ manifest.Defines relationship.second
  | .other _ => False

/-- A relationship of a known type names a model that is not defined. -/
structure Dangles (manifest : Manifest) (relationship : Relationship) : Prop where
  known : ∀ tag, relationship.joinType ≠ .other tag
  undefined : ¬manifest.Defines relationship.first ∨ ¬manifest.Defines relationship.second

variable {manifest : Manifest} {relationship : Relationship}

theorem notices_iff_exists_keySide? :
    manifest.Notices relationship ↔
      ∃ table, manifest.Defines table ∧ (relationship.keySide? table).isSome := by
  simp only [Relationship.isSome_keySide?_iff]
  unfold Notices
  cases relationship.joinType with
  | manyToOne => simp
  | oneToMany => simp
  | oneToOne => simp [and_or_left, exists_or]
  | other tag => simp

/-- A compiled manifest defines both models of every relationship that it notices. -/
theorem defines_of_compile
    {documents : List Document}
    (compiled : manifest.compile = .ok documents)
    (listed : relationship ∈ manifest.relationships)
    (noticed : manifest.Notices relationship) :
    manifest.Defines relationship.first ∧ manifest.Defines relationship.second := by
  obtain ⟨table, defined, keyed⟩ := notices_iff_exists_keySide?.mp noticed
  obtain ⟨side, sided⟩ := Option.isSome_iff_exists.mp keyed
  have own : manifest.Defines (relationship.model side) := by
    rwa [Relationship.model_of_keySide? sided]
  have opposite : manifest.Defines (relationship.model side.opposite) := by
    rcases Relationship.keyOnSide_spec manifest.models relationship side with
      ⟨key, _, gives⟩ | ⟨reason, _, fails⟩
    · obtain ⟨_, ⟨before, after, split, named, _⟩, _, _⟩ := gives
      exact List.mem_map.mpr ⟨_, by simp [split], named⟩
    · obtain ⟨model, declared, rfl⟩ := List.mem_map.mp defined
      obtain ⟨keys, resolved⟩ := (emits_of_compile compiled).resolves declared
      have concerns := Relationship.keySide?_eq_some_iff.mp sided
      obtain ⟨error, failed⟩ := exists_foreignKeys_eq_error_iff.mpr
        ⟨relationship, listed, reason, side, concerns, fails⟩
      exact nomatch resolved.symm.trans failed
  cases side with
  | left => exact ⟨own, opposite⟩
  | right => exact ⟨opposite, own⟩

/-- A manifest fails to compile in one way only: a foreign key cannot be resolved. -/
theorem exists_resolution_of_compile
    {error : Error}
    (failed : manifest.compile = .error error) :
    ∃ table label reason, error = .resolution table label reason := by
  obtain ⟨_, failing, _, _, _, unresolved⟩ := compile_eq_error_iff_first.mp failed
  obtain ⟨_, bad, _, reason, _, _, _, rfl⟩ := foreignKeys_eq_error_iff.mp unresolved
  exact ⟨failing.name, bad.label, reason, rfl⟩

/-- A relationship that no table notices can be left out. -/
theorem compile_of_not_notices
    {before after : List Relationship}
    (listed : manifest.relationships = before ++ relationship :: after)
    (unnoticed : ¬manifest.Notices relationship) :
    manifest.compile = { manifest with relationships := before ++ after }.compile := by
  have sameKeys : manifest.tableKeys =
      { manifest with relationships := before ++ after }.tableKeys := by
    apply mapM_congr
    intro table defined
    have irrelevant : relationship.keySide? table = none := by
      rw [← Option.not_isSome_iff_eq_none]
      intro keyed
      exact unnoticed (notices_iff_exists_keySide?.mpr ⟨table, defined, keyed⟩)
    rw [Manifest.foreignKeys, listed, foreignKeys_of_keySide?_eq_none irrelevant]
    rfl
  rw [compile_eq_map_tableKeys, compile_eq_map_tableKeys, sameKeys]
  rfl

/--
A dangling relationship is fatal exactly when the table that gets its key is defined.  If no such
table is defined, the manifest compiles to what it compiles to without the relationship.
-/
theorem compile_of_dangles
    {before after : List Relationship}
    (listed : manifest.relationships = before ++ relationship :: after)
    (dangles : manifest.Dangles relationship) :
    (manifest.Notices relationship →
      ∃ table label reason, manifest.compile = .error (.resolution table label reason)) ∧
    (¬manifest.Notices relationship →
      manifest.compile = { manifest with relationships := before ++ after }.compile) := by
  refine ⟨?_, compile_of_not_notices listed⟩
  intro noticed
  cases compiled : manifest.compile with
  | ok documents =>
    have inside : relationship ∈ manifest.relationships := by simp [listed]
    obtain ⟨first, second⟩ := defines_of_compile compiled inside noticed
    exact (dangles.undefined.elim (· first) (· second)).elim
  | error error =>
    obtain ⟨table, label, reason, rfl⟩ := exists_resolution_of_compile compiled
    exact ⟨table, label, reason, rfl⟩

/-- Customers are the only model. -/
def customersWith (relationships : List Relationship) : Manifest where
  models := [⟨"customers", none, [], some "id", []⟩]
  relationships := relationships
  metrics := []
  views := []
  extra := []

/-- The table that would get the key is not defined. -/
def ghostOrders : Relationship :=
  ⟨"ghost_orders", "ghosts", "customers", .manyToOne, "ghosts.customer_id = customers.id", []⟩

/-- The model referred to is not defined. -/
def ghostRegions : Relationship :=
  ⟨"ghost_regions", "customers", "ghosts", .manyToOne, "customers.ghost_id = ghosts.id", []⟩

theorem dangles_ghosts :
    (customersWith [ghostOrders]).Dangles ghostOrders ∧
      (customersWith [ghostOrders, ghostRegions]).Dangles ghostRegions :=
  ⟨⟨nofun, by decide⟩, ⟨nofun, by decide⟩⟩

theorem compile_of_dangles_ghosts :
    (customersWith [ghostOrders]).Dangles ghostOrders ∧
      ¬(customersWith [ghostOrders]).Notices ghostOrders ∧
      (customersWith [ghostOrders]).compile = (customersWith []).compile ∧
      (customersWith [ghostOrders, ghostRegions]).Dangles ghostRegions ∧
      (customersWith [ghostOrders, ghostRegions]).Notices ghostRegions ∧
      ∃ table label reason, (customersWith [ghostOrders, ghostRegions]).compile =
        .error (.resolution table label reason) := by
  obtain ⟨orders, regions⟩ := dangles_ghosts
  have unnoticed : ¬(customersWith [ghostOrders]).Notices ghostOrders := by
    show ¬(customersWith [ghostOrders]).Defines "ghosts"
    decide
  have noticed : (customersWith [ghostOrders, ghostRegions]).Notices ghostRegions := by
    show (customersWith [ghostOrders, ghostRegions]).Defines "customers"
    decide
  have alone : (customersWith [ghostOrders]).relationships = [] ++ ghostOrders :: [] := rfl
  have last : (customersWith [ghostOrders, ghostRegions]).relationships =
      [ghostOrders] ++ ghostRegions :: [] := rfl
  exact ⟨orders, unnoticed, (compile_of_dangles alone orders).2 unnoticed, regions, noticed,
    (compile_of_dangles last regions).1 noticed⟩

/-- Nothing tells that the orders belong to no model of the manifest. -/
theorem compile_ignores_undefined_table :
    ghostOrders ∈ (customersWith [ghostOrders]).relationships ∧
      (customersWith [ghostOrders]).Dangles ghostOrders ∧
      (customersWith [ghostOrders]).compile =
        .ok [⟨"0", "CREATE TABLE customers (\n  \n);"⟩] :=
  ⟨List.mem_singleton_self _, dangles_ghosts.1, rfl⟩

end Manifest

end SemanticIndex
