import Mathlib.Data.List.Nodup
import SemanticIndex.Proofs.Collecting
import SemanticIndex.Proofs.Store.IdOrder

/-!
# Listings

A collection is listed by the integers that its ids start with and by the ids themselves where the
integers agree.  This is a linear order of the ids, so a listing says what is stored and nothing of
how it came there.  Positional ids are listed in emission order as long as they are within the
range of the integers.
-/

namespace SemanticIndex

/-! ## Tables with the same rows -/

namespace Table

variable {key value : Type} [DecidableEq key]

theorem mem_rows_iff_find?_eq_some
    {table : Table key value}
    {row : key × value} :
    row ∈ table.rows ↔ table.find? row.1 = some row.2 := by
  rcases table with ⟨rows, distinct⟩
  induction rows with
  | nil => simp [find?]
  | cons first rest induction =>
    rw [List.map_cons, List.nodup_cons] at distinct
    have restSame := induction distinct.2
    by_cases same : first.1 = row.1
    · have absent : row ∉ rest := by
        intro inside
        exact distinct.1 (same ▸ List.mem_map_of_mem inside)
      simp [find?, same, absent, Prod.ext_iff, eq_comm]
    · have differs : row ≠ first := by
        rintro rfl
        exact same rfl
      simpa [find?, same, differs] using restSame

/-- Tables that agree on every key have the same rows in some order. -/
theorem rows_perm_of_find?_eq
    {one other : Table key value}
    (same : ∀ wanted, one.find? wanted = other.find? wanted) :
    one.rows.Perm other.rows := by
  have oneDistinct : one.rows.Nodup := List.Nodup.of_map Prod.fst one.distinct
  have otherDistinct : other.rows.Nodup := List.Nodup.of_map Prod.fst other.distinct
  rw [List.perm_ext_iff_of_nodup oneDistinct otherDistinct]
  intro row
  rw [mem_rows_iff_find?_eq_some, mem_rows_iff_find?_eq_some, same]

end Table

/-- The positions below so many documents, in the order of a listing, if integers reach that far. -/
theorem pairwise_integerOrder_positions
    {count : Nat}
    (within : count ≤ Int64.size / 2) :
    (positions count).Pairwise fun one other => integerOrder one other = true := by
  rw [positions, List.pairwise_map]
  refine List.pairwise_lt_range.imp_of_mem ?_
  intro one other _ otherInside before
  have half : Int64.size / 2 = 2 ^ 63 := by decide
  have otherWithin : other < 2 ^ 63 :=
    half ▸ Nat.lt_of_lt_of_le (List.mem_range.mp otherInside) within
  have oneReads := (readings_toString (before.trans otherWithin)).2
  have otherReads := (readings_toString otherWithin).2
  rw [integerOrder_iff]
  apply le_of_lt
  rw [rank_lt_iff, oneReads, otherReads]
  exact .inl (Int.ofNat_lt.mpr before)

/-! ## Listings of contents -/

namespace Contents

/-- A listing depends on the rows and not on the order in which they came. -/
theorem list_eq_of_find?_eq
    {one other : Contents}
    (same : ∀ id, one.find? id = other.find? id) :
    one.list = other.list := by
  have sorted (contents : Contents) :
      (contents.rows.mergeSort fun one other => integerOrder one.1 other.1).Pairwise
        fun one other => rank leadingInteger one.1 < rank leadingInteger other.1 :=
    pairwise_rank_lt_mergeSort integerOrder_iff contents.distinct
  have permuted : (one.rows.mergeSort fun one other => integerOrder one.1 other.1).Perm
      (other.rows.mergeSort fun one other => integerOrder one.1 other.1) :=
    (List.mergeSort_perm _ _).trans
      ((Table.rows_perm_of_find?_eq same).trans (List.mergeSort_perm _ _).symm)
  rw [list, list, eq_of_pairwise_rank_lt permuted (sorted one) (sorted other)]

/-- What holds documents with distinct ids lists them in the order of their ids. -/
theorem Holds.list_eq
    {contents : Contents}
    {documents : List EmbeddedDocument}
    (held : contents.Holds documents)
    (distinct : (documents.map (·.id)).Nodup) :
    contents.list =
      .ok (documents.mergeSort fun one other => integerOrder one.id other.id) := by
  have sameRows := (held.iff_find?_eq).mp (holds_ofDocuments distinct)
  have sortedRows :
      ((ofDocuments documents).rows.mergeSort fun one other => integerOrder one.1 other.1) =
        (documents.mergeSort fun one other => integerOrder one.id other.id).map
          fun document => (document.id, Row.ofDocument document) := by
    rw [rows_ofDocuments distinct]
    apply Eq.symm
    apply List.map_mergeSort
    intro one _ other _
    rfl
  rw [list_eq_of_find?_eq sameRows, list, sortedRows, mapM_eq_ok_iff_forall₂,
    List.forall₂_map_left_iff, List.forall₂_same]
  intro document _
  exact Row.decode_eq_ok_iff.mpr ⟨rfl, rfl⟩

/-- Positional documents are listed in emission order. -/
theorem Holds.list_eq_of_numbered
    {contents : Contents}
    {documents : List EmbeddedDocument}
    (held : contents.Holds documents)
    (numbered : Numbered documents)
    (within : documents.length ≤ Int64.size / 2) :
    contents.list = .ok documents := by
  have ordered : documents.Pairwise fun one other => integerOrder one.id other.id = true := by
    have positional := pairwise_integerOrder_positions within
    rw [← numbered, List.pairwise_map] at positional
    exact positional
  rw [held.list_eq numbered.distinct, List.mergeSort_of_pairwise ordered]

theorem Holds.size_eq
    {contents : Contents}
    {documents : List EmbeddedDocument}
    (held : contents.Holds documents)
    (distinct : (documents.map (·.id)).Nodup) :
    contents.size = documents.length := by
  have sameRows := held.iff_find?_eq.mp (holds_ofDocuments distinct)
  rw [Table.size_eq_of_find?_eq sameRows, size_ofDocuments distinct]

end Contents

/-! ## Listings of collections -/

/-- A collection lists exactly the given documents; only beyond 64-bit ids their order is open. -/
structure Database.Lists
    (database : Database)
    (name : String)
    (documents : List Document) : Prop where
  count : database.count name = documents.length
  listed : ∃ embedded, database.list name = .ok embedded ∧
    (embedded.map EmbeddedDocument.document).Perm documents ∧
    (documents.length ≤ Int64.size / 2 → embedded.map EmbeddedDocument.document = documents)

theorem Database.lists_of_holds
    {database : Database}
    {name : String}
    {documents : List Document}
    {embedded : List EmbeddedDocument}
    (held : (database.contents name).Holds embedded)
    (numbered : Numbered embedded)
    (same : embedded.map EmbeddedDocument.document = documents) :
    database.Lists name documents := by
  have sameLength : embedded.length = documents.length := by
    rw [← same, List.length_map]
  constructor
  · exact (held.size_eq numbered.distinct).trans sameLength
  · refine ⟨_, held.list_eq numbered.distinct, ?_, ?_⟩
    · exact same ▸ (List.mergeSort_perm _ _).map EmbeddedDocument.document
    · intro within
      have inOrder := held.list_eq_of_numbered numbered (sameLength ▸ within)
      rw [Except.ok.inj ((held.list_eq numbered.distinct).symm.trans inOrder), same]

end SemanticIndex
