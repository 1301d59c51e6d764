import SemanticIndex.Proofs.Store.Batches
import SemanticIndex.Proofs.Store.Listing

/-!
# Readable collections

A collection is readable when every id reads back.  Then it can be listed, and the listing has
exactly the documents that read back.  Only bytes that were put into a collection from outside make
it unreadable: whatever is asked of a store, a readable collection stays readable.
-/

namespace SemanticIndex

theorem Row.ofDocument_eq_iff
    {one other : EmbeddedDocument} :
    one.id = other.id ∧ ofDocument one = ofDocument other ↔ one = other := by
  constructor
  · intro same
    have own : (ofDocument other).decode other.id = .ok other := decode_eq_ok_iff.mpr ⟨rfl, rfl⟩
    have decoded : (ofDocument other).decode other.id = .ok one :=
      decode_eq_ok_iff.mpr ⟨same.1, same.2.symm⟩
    exact Except.ok.inj (decoded.symm.trans own)
  · rintro rfl
    exact ⟨rfl, rfl⟩

namespace Contents

variable {contents : Contents}

/-- Every id reads back. -/
def Readable (contents : Contents) : Prop :=
  ∀ id, ∃ found, contents.read id = .ok found

/-- What is read is decided by the row of the id. -/
theorem read_congr
    {one other : Contents}
    {id : String}
    (same : one.find? id = other.find? id) :
    one.read id = other.read id := by
  rw [read, read, same]

theorem read_eq_ok_some_iff
    {document : EmbeddedDocument}
    {id : String} :
    contents.read id = .ok (some document) ↔
      document.id = id ∧ contents.find? id = some (.ofDocument document) := by
  rw [read_eq_ok_iff]
  simp [and_comm]

theorem read_eq_ok_none_iff {id : String} :
    contents.read id = .ok none ↔ contents.find? id = none := by
  rw [read_eq_ok_iff]
  simp

theorem readable_iff_forall_rows :
    contents.Readable ↔
      ∀ row ∈ contents.rows, ∃ document, row = (document.id, Row.ofDocument document) := by
  constructor
  · intro readable row inside
    rcases readable row.1 with ⟨found, reads⟩
    have stored := Table.mem_rows_iff_find?_eq_some.mp inside
    rw [read_eq_ok_iff, stored] at reads
    rcases Option.map_eq_some_iff.mp reads.1.symm with ⟨document, rfl, same⟩
    exact ⟨document, Prod.ext (reads.2 document rfl).symm same.symm⟩
  · intro decodable id
    cases stored : contents.find? id with
    | none => exact ⟨none, read_eq_ok_none_iff.mpr stored⟩
    | some row =>
      obtain ⟨document, same⟩ :=
        decodable (id, row) (Table.mem_rows_iff_find?_eq_some.mpr stored)
      obtain ⟨rfl, rfl⟩ := Prod.mk.inj same
      exact ⟨some document, read_eq_ok_some_iff.mpr ⟨rfl, stored⟩⟩

/-! ## Listings -/

/-- The rows in listing order. -/
def sorted (contents : Contents) : List (String × Row) :=
  contents.rows.mergeSort fun one other => integerOrder one.1 other.1

theorem list_eq_ok_iff
    {listed : List EmbeddedDocument} :
    contents.list = .ok listed ↔
      contents.sorted = listed.map fun document => (document.id, Row.ofDocument document) := by
  rw [list, mapM_eq_ok_iff_forall₂, ← List.forall₂_eq_eq_eq, List.forall₂_map_right_iff, sorted]
  have sameRow : (fun (row : String × Row) document => row.2.decode row.1 = .ok document) =
      fun row document => row = (document.id, Row.ofDocument document) := by
    funext row document
    rw [Row.decode_eq_ok_iff, Prod.ext_iff, eq_comm (a := document.id)]
  rw [sameRow]

/-- A collection can be listed exactly when it is readable. -/
theorem readable_iff_exists_list :
    contents.Readable ↔ ∃ listed, contents.list = .ok listed := by
  rw [readable_iff_forall_rows]
  constructor
  · intro decodable
    cases lists : contents.list with
    | ok listed => exact ⟨listed, rfl⟩
    | error error =>
      rw [list, mapM_eq_error_iff] at lists
      obtain ⟨before, failing, after, divided, -, failed⟩ := lists
      have sortedInside : failing ∈ contents.sorted := by
        rw [sorted, divided]
        exact List.mem_append_right _ List.mem_cons_self
      have inside : failing ∈ contents.rows := List.mem_mergeSort.mp sortedInside
      obtain ⟨document, rfl⟩ := decodable failing inside
      rw [Row.decode_eq_ok_iff.mpr ⟨rfl, rfl⟩] at failed
      cases failed
  · rintro ⟨listed, lists⟩ row inside
    have sortedInside : row ∈ contents.sorted := List.mem_mergeSort.mpr inside
    rw [list_eq_ok_iff.mp lists, List.mem_map] at sortedInside
    obtain ⟨document, -, rfl⟩ := sortedInside
    exact ⟨document, rfl⟩

section Listed

variable {listed : List EmbeddedDocument} (lists : contents.list = .ok listed)

include lists

theorem mem_list_iff {document : EmbeddedDocument} :
    document ∈ listed ↔ contents.read document.id = .ok (some document) := by
  have inSorted : (document.id, Row.ofDocument document) ∈ contents.sorted ↔ document ∈ listed := by
    rw [list_eq_ok_iff.mp lists, List.mem_map]
    simp [Row.ofDocument_eq_iff]
  have inRows : (document.id, Row.ofDocument document) ∈ contents.rows ↔
      (document.id, Row.ofDocument document) ∈ contents.sorted :=
    List.mem_mergeSort.symm
  rw [← inSorted, ← inRows, Table.mem_rows_iff_find?_eq_some, read_eq_ok_some_iff]
  simp

theorem map_id_list_perm : (listed.map (·.id)).Perm contents.keys := by
  have ids : contents.sorted.map Prod.fst = listed.map (·.id) := by
    rw [list_eq_ok_iff.mp lists, List.map_map]
    rfl
  rw [← ids]
  exact (List.mergeSort_perm _ _).map Prod.fst

end Listed

/-! ## Staying readable -/

namespace Readable

theorem empty : Readable .empty := by
  intro id
  exact ⟨none, rfl⟩

variable (readable : contents.Readable)

include readable

theorem put (document : EmbeddedDocument) : (contents.put document).Readable := by
  intro id
  by_cases same : id = document.id
  · exact ⟨some document, read_eq_ok_some_iff.mpr ⟨same.symm, by rw [find?_put, if_pos same]⟩⟩
  · rw [read_congr ((find?_put contents document id).trans (if_neg same))]
    exact readable id

theorem putNew (document : EmbeddedDocument) : (contents.putNew document).Readable := by
  rw [Contents.putNew]
  split
  · exact readable
  · exact readable.put document

theorem erase (unwanted : String) : Readable (Table.erase contents unwanted) := by
  intro id
  have erased := Table.find?_erase contents unwanted id
  by_cases same : id = unwanted
  · exact ⟨none, read_eq_ok_none_iff.mpr (erased.trans (if_pos same))⟩
  · rw [read_congr (erased.trans (if_neg same))]
    exact readable id

omit readable in
theorem foldl
    {item : Type}
    {step : Contents → item → Contents}
    (keeps : ∀ {contents : Contents}, contents.Readable → ∀ item, (step contents item).Readable)
    {contents : Contents}
    (readable : contents.Readable)
    (items : List item) :
    (items.foldl step contents).Readable := by
  induction items generalizing contents with
  | nil => exact readable
  | cons item rest induction => exact induction (keeps readable item)

theorem write
    (documents : List EmbeddedDocument)
    (policy : DuplicatePolicy) :
    (contents.write documents policy).2.Readable := by
  have overwritten := foldl put readable documents
  cases policy with
  | overwrite => exact overwritten
  | skip => exact foldl putNew readable documents
  | fail =>
    rw [Contents.write]
    cases contents.list with
    | error error => exact readable
    | ok listed =>
      simp only
      split
      · exact overwritten
      · exact readable

end Readable

end Contents

end SemanticIndex
