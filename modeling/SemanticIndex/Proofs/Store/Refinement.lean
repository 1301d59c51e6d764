import SemanticIndex.Proofs.Store.Contents
import SemanticIndex.Proofs.Store.TableViews

/-!
# Stores follow their contents

A store in memory and a collection of a database both do to their rows what the store of tables
does.  They differ only in the number that replacing reports, and a collection leaves the rows of
every other collection alone.
-/

namespace SemanticIndex

/-- A row decodes to a document exactly when it is the row of that document. -/
theorem Row.decode_eq_ok_iff
    {row : Row}
    {id : String}
    {document : EmbeddedDocument} :
    row.decode id = .ok document ↔ document.id = id ∧ row = .ofDocument document := by
  constructor
  · intro decodes
    rw [Row.decode] at decodes
    split at decodes
    · rename_i embedding decoded
      obtain rfl := Except.ok.inj decodes
      refine ⟨rfl, ?_⟩
      rw [Row.ofDocument, Blob.encode_of_decode? decoded]
    · exact nomatch decodes
  · rintro ⟨rfl, rfl⟩
    simp [Row.decode, Row.ofDocument]

/-! ## Stores in memory -/

/-- The row in which a database would keep an entry. -/
def Entry.row (entry : Entry) : Row :=
  ⟨entry.content, Blob.encode entry.embedding⟩

theorem Entry.decode_row (id : String) (entry : Entry) :
    entry.row.decode id = .ok (entry.document id) := by
  simp [Row.decode, Entry.row, Entry.document]

namespace Memory

/-- The rows of a store in memory. -/
def contents (memory : Memory) : Contents :=
  memory.documents.map Entry.row

/-- What is read back from the rows is what the store gives. -/
theorem read_contents (memory : Memory) (id : String) :
    memory.contents.read id = .ok (memory.get? id) := by
  simp only [Contents.read, contents, Table.find?_map, get?]
  cases memory.documents.find? id with
  | none => rfl
  | some entry => simp [Entry.decode_row, Except.map]

@[simp]
theorem size_contents (memory : Memory) : memory.contents.size = memory.documents.size :=
  Table.size_map _ _

theorem contains_contents (memory : Memory) (id : String) :
    memory.contents.contains id = memory.contains id :=
  Table.contains_map _ _ _

theorem contents_put (memory : Memory) (document : EmbeddedDocument) :
    (memory.put document).contents = memory.contents.put document :=
  Table.map_insert _ _ _ _

theorem contents_putAll (memory : Memory) (documents : List EmbeddedDocument) :
    (memory.putAll documents).contents = documents.foldl Contents.put memory.contents :=
  (List.foldl_hom contents fun memory document => (contents_put memory document).symm).symm

theorem contents_foldl_erase (memory : Memory) (ids : List String) :
    (ids.foldl erase memory).contents = ids.foldl Table.erase memory.contents :=
  (List.foldl_hom contents fun memory id =>
    (Table.map_erase Entry.row memory.documents id).symm).symm

theorem contents_putNew (memory : Memory) (documents : List EmbeddedDocument) :
    (memory.putNew documents).2.contents = documents.foldl Contents.putNew memory.contents ∧
      (memory.putNew documents).1 + memory.documents.size =
        (memory.putNew documents).2.documents.size := by
  induction documents generalizing memory with
  | nil => simp [putNew]
  | cons document rest induction =>
    rw [List.foldl_cons, Contents.putNew, contains_contents]
    cases taken : memory.contains document.id with
    | true =>
      simpa [putNew, taken] using induction memory
    | false =>
      have grown : (memory.put document).documents.size = memory.documents.size + 1 := by
        have free : memory.documents.contains document.id = false := taken
        simp [put, Table.size_insert, free]
      obtain ⟨final, counted⟩ := induction (memory.put document)
      rw [contents_put] at final
      simp only [putNew, taken]
      refine ⟨by simpa using final, ?_⟩
      simp only [Bool.false_eq_true, if_false]
      omega

theorem list_contents (memory : Memory) :
    memory.contents.list = .ok
      ((memory.documents.rows.mergeSort fun one other => integerOrder one.1 other.1).map
        fun row => row.2.document row.1) := by
  have decoded : ∀ rows : List (String × Entry),
      (rows.map (Prod.map id Entry.row)).mapM (fun row => row.2.decode row.1) =
        Except.ok (rows.map fun row => row.2.document row.1) := by
    intro rows
    induction rows with
    | nil => rfl
    | cons row rest induction => 
      simp [Entry.decode_row, induction]
      rfl
  have sorted :
      (memory.contents.rows.mergeSort fun one other => integerOrder one.1 other.1) =
        (memory.documents.rows.mergeSort fun one other => integerOrder one.1 other.1).map
          (Prod.map id Entry.row) :=
    (List.map_mergeSort (f := Prod.map id Entry.row) fun _ _ _ _ => rfl).symm
  rw [Contents.list, sorted, decoded]

/-- The ids that a listing of the rows gives are those of the store. -/
theorem contains_of_list_contents
    {memory : Memory}
    {listed : List EmbeddedDocument}
    (lists : memory.contents.list = .ok listed)
    (id : String) :
    (listed.map (·.id)).contains id = memory.contains id := by
  rw [list_contents] at lists
  obtain rfl := Except.ok.inj lists
  have permuted := List.mergeSort_perm memory.documents.rows
    fun one other => integerOrder one.1 other.1
  rw [List.map_map, Bool.eq_iff_iff, List.contains_iff_mem]
  exact (permuted.map Prod.fst).mem_iff.trans Table.contains_iff_mem_keys.symm

theorem contents_write
    (memory : Memory)
    (documents : List EmbeddedDocument)
    (policy : DuplicatePolicy) :
    memory.contents.write documents policy =
      Prod.map id contents (memory.write documents policy) := by
  cases policy with
  | overwrite => simp [Contents.write, write, contents_putAll]
  | skip =>
    rcases contents_putNew memory documents with ⟨final, counted⟩
    simp only [Contents.write, write, ← final, size_contents, ← counted]
    simp
  | fail =>
    have lists := list_contents memory
    have sameTaken := funext (contains_of_list_contents lists)
    simp only [Contents.write, write, lists, sameTaken]
    split
    · simp [contents_putAll]
    · rfl

/-- A store in memory follows its rows; replacing reports the number of distinct ids. -/
theorem store_follows :
    Store.Follows contents store
      (Contents.store fun documents => (Contents.ofDocuments documents).size) where
  count := by
    intro memory
    simp [store, Contents.store]
  delete ids := by
    intro memory
    simp [store, Contents.store, contents_foldl_erase]
  write documents policy := by
    intro memory
    exact contents_write memory documents policy
  replaceAll documents := by
    intro memory
    have replaced := contents_putAll empty documents
    simp only [Contents.store, Action.perform_ofFunction, store, Prod.map, replaced,
      ← size_contents]
    rfl

end Memory

/-! ## Collections of databases -/

namespace Database

/-- The rows of a collection. -/
def contents (name : String) (database : Database) : Contents :=
  database.rows.slice name

/-- What is read back from the rows is what the database gives. -/
theorem read_contents (database : Database) (name id : String) :
    (database.contents name).read id = database.get? name id := by
  rw [Contents.read, contents, Table.find?_slice]
  rfl

theorem size_contents (database : Database) (name : String) :
    (database.contents name).size = database.count name :=
  rfl

theorem list_contents (database : Database) (name : String) :
    (database.contents name).list = database.list name :=
  rfl

theorem contents_insertOrReplace
    (name : String)
    (database : Database)
    (document : EmbeddedDocument) :
    (insertOrReplace name database document).contents name =
      (database.contents name).put document :=
  Table.slice_insert _ _ _ _

theorem contents_insertOrReplace_of_ne
    {name other : String}
    (differ : other ≠ name)
    (database : Database)
    (document : EmbeddedDocument) :
    (insertOrReplace name database document).contents other = database.contents other :=
  Table.slice_insert_of_ne differ _ _ _

theorem contents_foldl_insertOrReplace
    (name : String)
    (database : Database)
    (documents : List EmbeddedDocument) :
    (documents.foldl (insertOrReplace name) database).contents name =
      documents.foldl Contents.put (database.contents name) :=
  (List.foldl_hom (contents name) fun database document =>
    (contents_insertOrReplace name database document).symm).symm

theorem contents_foldl_delete
    (name : String)
    (database : Database)
    (ids : List String) :
    (ids.foldl (delete name) database).contents name =
      ids.foldl Table.erase (database.contents name) :=
  (List.foldl_hom (contents name) fun database id =>
    (Table.slice_erase name database.rows id).symm).symm

/-- Every row that is counted is a new row of the collection. -/
theorem contents_insertNew
    (name : String)
    (database : Database)
    (documents : List EmbeddedDocument) :
    (insertNew name database documents).2.contents name =
        documents.foldl Contents.putNew (database.contents name) ∧
      (insertNew name database documents).1 + (database.contents name).size =
        ((insertNew name database documents).2.contents name).size := by
  induction documents generalizing database with
  | nil => simp [insertNew]
  | cons document rest induction =>
    have contained : (database.contents name).contains document.id =
        database.rows.contains (name, document.id) :=
      Table.contains_slice _ _ _
    rw [List.foldl_cons, Contents.putNew, contained]
    cases taken : database.rows.contains (name, document.id) with
    | true => simpa [insertNew, taken] using induction database
    | false =>
      have free : (database.contents name).contains document.id = false := contained.trans taken
      have grown : ((insertOrReplace name database document).contents name).size =
          (database.contents name).size + 1 := by
        simp [contents_insertOrReplace, Contents.put, Table.size_insert, free]
      obtain ⟨final, counted⟩ := induction (insertOrReplace name database document)
      rw [contents_insertOrReplace] at final
      simp only [insertNew, taken]
      refine ⟨by simpa using final, ?_⟩
      simp only [Bool.false_eq_true, if_false]
      omega

theorem contents_write
    (name : String)
    (database : Database)
    (documents : List EmbeddedDocument)
    (policy : DuplicatePolicy) :
    (database.contents name).write documents policy =
      Prod.map id (contents name) (write name database documents policy) := by
  cases policy with
  | overwrite => simp [Contents.write, write, contents_foldl_insertOrReplace]
  | skip =>
    obtain ⟨final, counted⟩ := contents_insertNew name database documents
    simp only [Contents.write, write, Prod.map, ← final]
    refine Prod.ext (congrArg Except.ok ?_) rfl
    omega
  | fail =>
    simp only [Contents.write, write, list_contents]
    cases database.list name with
    | error error => rfl
    | ok listed =>
      simp only
      split
      · simp [contents_foldl_insertOrReplace]
      · rfl

/-- A collection follows its rows; replacing reports the number of documents. -/
theorem store_follows (name : String) :
    Store.Follows (contents name) (store name) (Contents.store List.length) where
  count := by
    intro database
    rfl
  delete ids := by
    intro database
    simp [store, Contents.store, contents_foldl_delete]
  write documents policy := by
    intro database
    exact contents_write name database documents policy
  replaceAll documents := by
    intro database
    have dropped : (drop name database).contents name = .empty :=
      Table.slice_drop name database.rows
    simp [store, Contents.store, Contents.ofDocuments, contents_foldl_insertOrReplace, dropped]

/-! ## Other collections -/

section Others

variable {name other : String} (differ : other ≠ name)

include differ

theorem contents_foldl_insertOrReplace_of_ne
    (database : Database)
    (documents : List EmbeddedDocument) :
    (documents.foldl (insertOrReplace name) database).contents other =
      database.contents other := by
  induction documents generalizing database with
  | nil => rfl
  | cons document rest induction =>
    rw [List.foldl_cons, induction, contents_insertOrReplace_of_ne differ]

theorem contents_insertNew_of_ne
    (database : Database)
    (documents : List EmbeddedDocument) :
    (insertNew name database documents).2.contents other = database.contents other := by
  induction documents generalizing database with
  | nil => rfl
  | cons document rest induction =>
    rw [insertNew]
    split
    · exact induction database
    · rw [← contents_insertOrReplace_of_ne differ database document]
      exact induction (insertOrReplace name database document)

theorem contents_foldl_delete_of_ne
    (database : Database)
    (ids : List String) :
    (ids.foldl (delete name) database).contents other = database.contents other := by
  induction ids generalizing database with
  | nil => rfl
  | cons id rest induction =>
    rw [List.foldl_cons, induction]
    exact Table.slice_erase_of_ne differ database.rows id

theorem contents_write_of_ne
    (database : Database)
    (documents : List EmbeddedDocument)
    (policy : DuplicatePolicy) :
    (write name database documents policy).2.contents other = database.contents other := by
  cases policy with
  | overwrite => exact contents_foldl_insertOrReplace_of_ne differ database documents
  | skip => exact contents_insertNew_of_ne differ database documents
  | fail =>
    simp only [write]
    cases database.list name with
    | error error => rfl
    | ok listed =>
      simp only
      split
      · exact contents_foldl_insertOrReplace_of_ne differ database documents
      · rfl

/-- No operation on a collection changes another one. -/
theorem store_keeps : Store.Keeps (contents other) (store name) where
  count := by
    intro database
    rfl
  delete ids := by
    intro database
    exact contents_foldl_delete_of_ne differ database ids
  write documents policy := by
    intro database
    exact contents_write_of_ne differ database documents policy
  replaceAll documents := by
    intro database
    have kept : (drop name database).contents other = database.contents other :=
      Table.slice_drop_of_ne differ database.rows
    exact (contents_foldl_insertOrReplace_of_ne differ (drop name database) documents).trans kept

end Others

end Database

end SemanticIndex
