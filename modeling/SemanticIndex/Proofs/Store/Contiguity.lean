import SemanticIndex.Proofs.Store.Refinement

/-!
# Positional ids

Clearing a store deletes the ids below the number of its documents.  It empties the store exactly
because the ids are those positions; a store is contiguous when they are.  A batch whose ids are
its positions leaves an empty store contiguous, and holding exactly the batch.
-/

namespace SemanticIndex

theorem toString_injective
    {one other : Nat}
    (same : toString one = toString other) :
    one = other := by
  have digits : Nat.toDigits 10 one = Nat.toDigits 10 other :=
    String.ofList_injective same
  rw [← Nat.ofDigitChars_ten_toDigits (n := one), digits, Nat.ofDigitChars_ten_toDigits]

/-- The ids of so many documents in emission order. -/
def positions (count : Nat) : List String :=
  (List.range count).map toString

theorem mem_positions
    {count : Nat}
    {id : String} :
    id ∈ positions count ↔ ∃ position < count, id = toString position := by
  simp [positions, eq_comm]

theorem nodup_positions (count : Nat) : (positions count).Nodup := by
  rw [positions, List.nodup_iff_pairwise_ne, List.pairwise_map]
  exact List.nodup_range.imp fun differ same => differ (toString_injective same)

theorem Document.ids_sequence (contents : List String) :
    (sequence contents).map (·.id) = positions (sequence contents).length := by
  apply List.ext_getElem
  · simp [positions]
  · intro position _ _
    simp [sequence, positions]

/-- The ids of a batch are the positions of its documents. -/
def Numbered (documents : List EmbeddedDocument) : Prop :=
  documents.map (·.id) = positions documents.length

theorem Numbered.distinct
    {documents : List EmbeddedDocument}
    (numbered : Numbered documents) :
    (documents.map (·.id)).Nodup := by
  rw [numbered]
  exact nodup_positions _

namespace Contents

/-- A collection is contiguous when its ids are the positions below the number of documents. -/
def Contiguous (contents : Contents) : Prop :=
  ∀ id, id ∈ contents.keys ↔ ∃ position < contents.size, id = toString position

/-- A collection holds exactly the given documents when each id reads back as in their list. -/
def Holds (contents : Contents) (documents : List EmbeddedDocument) : Prop :=
  ∀ id, contents.read id = .ok (documents.find? (·.id = id))

theorem contiguous_empty : Contiguous .empty := by
  intro id
  simp [Table.keys, Table.size, Table.empty]

theorem contiguous_of_keys_eq
    {contents : Contents}
    (positional : contents.keys = positions contents.size) :
    contents.Contiguous := by
  intro id
  rw [positional, mem_positions]

/-- Deleting the ids below the number of documents empties a contiguous collection. -/
theorem foldl_erase_positions
    {contents : Contents}
    (contiguous : contents.Contiguous) :
    (positions contents.size).foldl Table.erase contents = .empty := by
  ext1
  rw [Table.rows_foldl_erase]
  apply List.filter_eq_nil_iff.mpr
  intro row inside
  have taken : row.1 ∈ contents.keys := List.mem_map_of_mem inside
  simpa using mem_positions.mpr ((contiguous row.1).mp taken)

/-! ## Batches -/

section Fresh

variable {contents : Contents} {document : EmbeddedDocument} {rest : List EmbeddedDocument}
variable (distinct : (contents.keys ++ (document :: rest).map (·.id)).Nodup)

include distinct

theorem not_mem_keys_of_distinct : document.id ∉ contents.keys := by
  intro taken
  exact (List.nodup_append.mp distinct).2.2 _ taken document.id (by simp) rfl

theorem distinct_put : ((contents.put document).keys ++ rest.map (·.id)).Nodup := by
  rw [put, Table.keys_insert, if_neg (not_mem_keys_of_distinct distinct)]
  simpa using distinct

end Fresh

theorem rows_foldl_put
    {contents : Contents}
    {documents : List EmbeddedDocument}
    (distinct : (contents.keys ++ documents.map (·.id)).Nodup) :
    (documents.foldl put contents).rows =
      contents.rows ++ documents.map fun document => (document.id, Row.ofDocument document) := by
  induction documents generalizing contents with
  | nil => simp
  | cons document rest induction =>
    have grown : (contents.put document).rows =
        contents.rows ++ [(document.id, Row.ofDocument document)] :=
      Table.rows_insert_of_not_mem (not_mem_keys_of_distinct distinct) _
    rw [List.foldl_cons, induction (distinct_put distinct), grown]
    simp

section Batch

variable {documents : List EmbeddedDocument} (distinct : (documents.map (·.id)).Nodup)

include distinct

theorem rows_ofDocuments :
    (ofDocuments documents).rows =
      documents.map fun document => (document.id, Row.ofDocument document) := by
  exact @rows_foldl_put .empty documents distinct

theorem size_ofDocuments : (ofDocuments documents).size = documents.length := by
  rw [Table.size, rows_ofDocuments distinct, List.length_map]

theorem keys_ofDocuments : (ofDocuments documents).keys = documents.map (·.id) := by
  rw [Table.keys, rows_ofDocuments distinct, List.map_map]
  rfl

theorem find?_ofDocuments (id : String) :
    (ofDocuments documents).find? id = (documents.find? (·.id = id)).map Row.ofDocument := by
  rw [Table.find?, rows_ofDocuments distinct, List.find?_map, Option.map_map]
  rfl

end Batch

theorem contiguous_ofDocuments
    {documents : List EmbeddedDocument}
    (numbered : Numbered documents) :
    (ofDocuments documents).Contiguous := by
  apply contiguous_of_keys_eq
  rw [keys_ofDocuments numbered.distinct, size_ofDocuments numbered.distinct, numbered]

/-! ## Holding -/

theorem read_eq_ok_iff
    {contents : Contents}
    {id : String}
    {found : Option EmbeddedDocument} :
    contents.read id = .ok found ↔
      contents.find? id = found.map Row.ofDocument ∧
        ∀ document, found = some document → document.id = id := by
  rw [read]
  cases contents.find? id with
  | none => cases found <;> simp
  | some row =>
    change (row.decode id).map some = .ok found ↔ _
    cases found with
    | none => cases row.decode id <;> simp [Except.map]
    | some document =>
      have mapped :
          (row.decode id).map some = .ok (some document) ↔ row.decode id = .ok document := by
        cases row.decode id <;> simp [Except.map]
      rw [mapped, Row.decode_eq_ok_iff]
      simp [and_comm]

theorem holds_iff_find?
    {contents : Contents}
    {documents : List EmbeddedDocument} :
    contents.Holds documents ↔
      ∀ id, contents.find? id = (documents.find? (·.id = id)).map Row.ofDocument := by
  refine forall_congr' fun id => ?_
  have named : ∀ document, documents.find? (·.id = id) = some document → document.id = id := by
    intro document listed
    simpa using List.find?_some listed
  rw [read_eq_ok_iff, and_iff_left named]

/-- What else holds the same documents has the same rows, and nothing with other rows does. -/
theorem Holds.iff_find?_eq
    {contents other : Contents}
    {documents : List EmbeddedDocument}
    (held : contents.Holds documents) :
    other.Holds documents ↔ ∀ id, contents.find? id = other.find? id := by
  rw [holds_iff_find?] at held ⊢
  constructor
  · intro otherHeld id
    rw [held id, otherHeld id]
  · intro same id
    rw [← same id, held id]

theorem holds_ofDocuments
    {documents : List EmbeddedDocument}
    (distinct : (documents.map (·.id)).Nodup) :
    (ofDocuments documents).Holds documents :=
  holds_iff_find?.mpr (find?_ofDocuments distinct)

end Contents

end SemanticIndex
