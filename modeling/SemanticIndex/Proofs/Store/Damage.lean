import SemanticIndex.Proofs.Store.ListingOrder
import SemanticIndex.Proofs.Store.Vectors

/-!
# Damaged vectors

The stored bytes of a vector are looked at only when documents are read.  Counting, deleting,
overwriting, skipping, replacing, clearing and committing therefore give the same results whatever
bytes a file holds, and they leave the same texts.  Reading fails with the first damaged document
that it comes to, and so does a write under the failing policy, which lists the collection before
it changes anything.
-/

namespace SemanticIndex

/-- Decide whether a call reads vectors; a write under the failing policy lists them. -/
def StoreCall.readsVectors : StoreCall → Bool
  | .get _ => true
  | .write _ .fail => true
  | _ => false

/-- The stored bytes are no whole number of words. -/
def Row.Damaged (row : Row) : Prop :=
  ¬ 4 ∣ row.blob.length

instance : DecidablePred Row.Damaged :=
  fun row => inferInstanceAs (Decidable (¬ 4 ∣ row.blob.length))

/-! ## Texts without vectors -/

namespace Contents

/-- Contents have the same ids with the same texts, whatever their vectors are. -/
def SameTexts (one other : Contents) : Prop :=
  ∀ id, (one.find? id).map Row.content = (other.find? id).map Row.content

namespace SameTexts

variable {one other : Contents}

theorem refl (contents : Contents) : SameTexts contents contents :=
  fun _ => rfl

theorem contains_eq (same : SameTexts one other) (id : String) :
    one.contains id = other.contains id := by
  rw [Bool.eq_iff_iff, Table.contains_iff_mem_keys, Table.contains_iff_mem_keys,
    Table.mem_keys_iff_isSome_find?, Table.mem_keys_iff_isSome_find?,
    ← Option.isSome_map (f := Row.content), same id, Option.isSome_map]

theorem size_eq (same : SameTexts one other) : one.size = other.size := by
  rw [← Table.size_map Row.content one, ← Table.size_map Row.content other]
  apply Table.size_eq_of_find?_eq
  intro id
  rw [Table.find?_map, Table.find?_map, same id]

theorem put (same : SameTexts one other) (document : EmbeddedDocument) :
    SameTexts (one.put document) (other.put document) := by
  intro id
  rw [find?_put, find?_put]
  split
  · rfl
  · exact same id

theorem putNew (same : SameTexts one other) (document : EmbeddedDocument) :
    SameTexts (one.putNew document) (other.putNew document) := by
  rw [Contents.putNew, Contents.putNew, same.contains_eq]
  split
  · exact same
  · exact same.put document

theorem erase (same : SameTexts one other) (unwanted : String) :
    SameTexts (Table.erase one unwanted) (Table.erase other unwanted) := by
  intro id
  rw [Table.find?_erase, Table.find?_erase]
  split
  · rfl
  · exact same id

end SameTexts

section Calls

variable {replaced : List EmbeddedDocument → Nat}

theorem write_keeps_sameTexts
    (documents : List EmbeddedDocument)
    {policy : DuplicatePolicy}
    (blind : policy ≠ .fail) :
    Action.Matches SameTexts ((readable replaced).write documents policy)
      ((readable replaced).write documents policy) := by
  intro one other same
  cases policy with
  | overwrite =>
    exact ⟨rfl, List.foldl_rel same fun document _ _ _ related => related.put document⟩
  | skip =>
    have added : SameTexts (documents.foldl putNew one) (documents.foldl putNew other) :=
      List.foldl_rel same fun document _ _ _ related => related.putNew document
    refine ⟨?_, added⟩
    change Except.ok (_ - _) = Except.ok (_ - _)
    rw [added.size_eq, same.size_eq]
  | fail => exact absurd rfl blind

theorem delete_keeps_sameTexts (ids : List String) :
    Action.Matches SameTexts ((readable replaced).delete ids) ((readable replaced).delete ids) := by
  intro one other same
  exact ⟨rfl, List.foldl_rel same fun id _ _ _ related => related.erase id⟩

theorem count_keeps_sameTexts :
    Action.Matches SameTexts (readable replaced).count (readable replaced).count := by
  intro one other same
  exact ⟨congrArg Except.ok same.size_eq, same⟩

theorem replaceAll_keeps_sameTexts (documents : List EmbeddedDocument) :
    Action.Matches SameTexts ((readable replaced).replaceAll documents)
      ((readable replaced).replaceAll documents) := by
  intro one other _
  exact ⟨rfl, .refl _⟩

theorem clear_keeps_sameTexts :
    Action.Matches SameTexts (readable replaced).clear (readable replaced).clear := by
  apply count_keeps_sameTexts.bind
  intro count
  apply Action.Matches.ite
  · exact .pure 0
  · apply (delete_keeps_sameTexts _).bind
    intro _
    exact .pure count

/-- A call that reads no vectors gives the same result on the same texts and leaves the same. -/
theorem call_keeps_sameTexts
    {call : StoreCall}
    (blind : call.readsVectors = false) :
    Action.Matches SameTexts (call.on (readable replaced)) (call.on (readable replaced)) := by
  cases call with
  | count => exact count_keeps_sameTexts.bind fun count => .pure (StoreResult.number count)
  | delete ids => exact (delete_keeps_sameTexts ids).bind fun _ => .pure StoreResult.done
  | write documents policy =>
    have notFailing : policy ≠ .fail := by
      rintro rfl
      cases blind
    exact (write_keeps_sameTexts documents notFailing).bind
      fun count => .pure (StoreResult.number count)
  | replaceAll documents =>
    exact (replaceAll_keeps_sameTexts documents).bind fun count => .pure (StoreResult.number count)
  | clear => exact clear_keeps_sameTexts.bind fun count => .pure (StoreResult.number count)
  | commit documents mode =>
    cases mode with
    | clearThenWrite =>
      exact (write_keeps_sameTexts documents (by decide)).bind
        fun count => .pure (StoreResult.number count)
    | staged =>
      exact (replaceAll_keeps_sameTexts documents).bind
        fun count => .pure (StoreResult.number count)
  | get id => cases blind

end Calls

/-! ## The first damaged document -/

/-- A damaged document of the contents that is listed before all others. -/
structure FirstDamaged (contents : Contents) (id : String) (row : Row) : Prop where
  stored : contents.find? id = some row
  damaged : row.Damaged
  first : ∀ other otherRow, contents.find? other = some otherRow → otherRow.Damaged →
    other ≠ id → leadingInteger id < leadingInteger other ∨
      leadingInteger id = leadingInteger other ∧ utf8Bytes id < utf8Bytes other

variable {contents : Contents}

theorem mem_sorted_iff
    {id : String}
    {row : Row} :
    (id, row) ∈ contents.sorted ↔ contents.find? id = some row := by
  rw [sorted, List.mem_mergeSort]
  exact Table.mem_rows_iff_find?_eq_some

/-- The rows behind a row of the listing are those that its place puts behind it. -/
theorem rank_lt_of_sorted
    {before after : List (String × Row)}
    {row : String × Row}
    (divided : contents.sorted = before ++ row :: after) :
    (∀ earlier ∈ before, rank leadingInteger earlier.1 < rank leadingInteger row.1) ∧
      ∀ later ∈ after, rank leadingInteger row.1 < rank leadingInteger later.1 := by
  have ordered : contents.sorted.Pairwise fun one other =>
      rank leadingInteger one.1 < rank leadingInteger other.1 :=
    pairwise_rank_lt_mergeSort integerOrder_iff contents.distinct
  rw [divided, List.pairwise_append, List.pairwise_cons] at ordered
  obtain ⟨-, ⟨behind, -⟩, across⟩ := ordered
  exact ⟨fun earlier inside => across earlier inside row List.mem_cons_self, behind⟩

/-- A listing names the first damaged document, and it fails only with such a document. -/
theorem list_eq_error_iff
    {error : Error} :
    contents.list = .error error ↔
      ∃ id row, contents.FirstDamaged id row ∧
        error = .store (.damagedEmbedding id row.blob.length) := by
  rw [list, mapM_eq_error_iff]
  constructor
  · rintro ⟨before, ⟨id, row⟩, after, divided, succeed, failed⟩
    obtain ⟨damaged, rfl⟩ := Row.decode_eq_error_iff.mp failed
    refine ⟨id, row, ⟨?_, damaged, ?_⟩, rfl⟩
    · rw [← mem_sorted_iff, sorted, divided]
      exact List.mem_append_right _ List.mem_cons_self
    · intro other otherRow stored otherDamaged differ
      have inside := mem_sorted_iff.mpr stored
      rw [sorted, divided, List.mem_append, List.mem_cons] at inside
      rcases inside with earlier | same | later
      · exact absurd (Row.exists_decode_iff.mp (succeed _ earlier)) otherDamaged
      · exact absurd (congrArg Prod.fst same) differ
      · exact rank_lt_iff.mp ((rank_lt_of_sorted divided).2 _ later)
  · rintro ⟨id, row, found, rfl⟩
    obtain ⟨before, after, divided⟩ := List.append_of_mem (mem_sorted_iff.mpr found.stored)
    refine ⟨before, (id, row), after, divided, ?_, Row.decode_eq_error_iff.mpr ⟨found.damaged, rfl⟩⟩
    rintro ⟨other, otherRow⟩ earlier
    rw [Row.exists_decode_iff]
    -- A damaged row that is listed earlier would be the first one.
    by_contra damaged
    have ahead := (rank_lt_of_sorted divided).1 _ earlier
    have stored : contents.find? other = some otherRow := by
      rw [← mem_sorted_iff, divided]
      exact List.mem_append_left _ earlier
    have differ : other ≠ id := by
      rintro rfl
      exact lt_irrefl _ ahead
    exact lt_asymm ahead (rank_lt_iff.mpr (found.first other otherRow stored damaged differ))

end Contents

/-! ## Files -/

namespace Database

/-- Databases have the same ids in every collection with the same texts. -/
def SameTexts (one other : Database) : Prop :=
  ∀ name id, (one.rows.find? (name, id)).map Row.content =
    (other.rows.find? (name, id)).map Row.content

variable {one other : Database}

theorem sameTexts_iff :
    SameTexts one other ↔ ∀ name, (one.contents name).SameTexts (other.contents name) := by
  simp only [SameTexts, Contents.SameTexts, contents, Table.find?_slice]

/-- Overwriting the bytes of a vector leaves every text as it was. -/
theorem sameTexts_setBlob
    (database : Database)
    (name id : String)
    (blob : List UInt8) :
    SameTexts database (database.setBlob name id blob).2 := by
  intro otherName otherId
  rw [setBlob]
  cases stored : database.rows.find? (name, id) with
  | none => rfl
  | some row =>
    simp only
    rw [Table.find?_insert]
    split
    · rename_i same
      rw [same, stored]
      rfl
    · rfl

theorem call_keeps_sameTexts
    {call : StoreCall}
    (blind : call.readsVectors = false)
    (name : String) :
    Action.Matches SameTexts (call.on (readable name)) (call.on (readable name)) := by
  intro one other same
  have sameContents := sameTexts_iff.mp same
  have followed (database : Database) :=
    Prod.ext_iff.mp ((readable_follows name).on call database)
  obtain ⟨results, finals⟩ := Contents.call_keeps_sameTexts blind (sameContents name)
  rw [(followed one).1, (followed other).1] at results
  rw [(followed one).2, (followed other).2] at finals
  refine ⟨results, sameTexts_iff.mpr fun collection => ?_⟩
  by_cases own : collection = name
  · subst own
    exact finals
  · rw [(readable_keeps own).on call one, (readable_keeps own).on call other]
    exact sameContents collection

/-- The results of a history of calls, each on a collection. -/
def results : List (String × StoreCall) → Database → List (Except Error StoreResult)
  | [], _ => []
  | call :: rest, database =>
    let performed := (call.2.on (readable call.1)).perform database
    performed.1 :: results rest performed.2

theorem calls_keep_sameTexts
    {calls : List (String × StoreCall)}
    (blind : ∀ call ∈ calls, call.2.readsVectors = false)
    (same : SameTexts one other) :
    results calls one = results calls other ∧ SameTexts (after calls one) (after calls other) := by
  induction calls generalizing one other with
  | nil => exact ⟨rfl, same⟩
  | cons call rest induction =>
    rw [List.forall_mem_cons] at blind
    obtain ⟨result, final⟩ := call_keeps_sameTexts blind.1 call.1 same
    obtain ⟨later, last⟩ := induction blind.2 final
    exact ⟨congrArg₂ List.cons result later, last⟩

variable {database : Database} {name : String}

theorem list_eq_error_iff
    {error : Error} :
    database.list name = .error error ↔
      ∃ id row, (database.contents name).FirstDamaged id row ∧
        error = .store (.damagedEmbedding id row.blob.length) := by
  rw [← list_contents]
  exact Contents.list_eq_error_iff

theorem list_fails_iff :
    (∃ error, database.list name = .error error) ↔
      ∃ id row, database.rows.find? (name, id) = some row ∧ row.Damaged := by
  constructor
  · rintro ⟨error, lists⟩
    obtain ⟨id, row, found, -⟩ := list_eq_error_iff.mp lists
    exact ⟨id, row, (Table.find?_slice name database.rows id).symm.trans found.stored, found.damaged⟩
  · rintro ⟨id, row, stored, damaged⟩
    cases lists : database.list name with
    | error error => exact ⟨error, rfl⟩
    | ok listed =>
      rw [← list_contents] at lists
      obtain ⟨found, reads⟩ := Contents.readable_iff_exists_list.mpr ⟨listed, lists⟩ id
      rw [read_contents, get?, stored] at reads
      obtain ⟨document, decodes, -⟩ := map_eq_ok_iff.mp reads
      exact absurd (Row.exists_decode_iff.mp ⟨document, decodes⟩) damaged

theorem get?_eq_error_iff
    {id : String}
    {error : Error} :
    database.get? name id = .error error ↔
      ∃ row, database.rows.find? (name, id) = some row ∧ row.Damaged ∧
        error = .store (.damagedEmbedding id row.blob.length) := by
  rw [get?]
  cases database.rows.find? (name, id) with
  | none => simp
  | some row => simp [map_eq_error_iff, Row.decode_eq_error_iff, Row.Damaged]

theorem write_fail_of_list_eq_error
    {error : Error}
    (lists : database.list name = .error error)
    (documents : List EmbeddedDocument) :
    ((store name).write documents .fail).perform database = (.error error, database) := by
  change write name database documents .fail = _
  rw [write, lists]

theorem exists_list_after_replaceAll (documents : List EmbeddedDocument) :
    ∃ final listed,
      ((store name).replaceAll documents).perform database = (.ok documents.length, final) ∧
        final.list name = .ok listed := by
  have followed := (store_follows name).replaceAll documents database
  have final := congrArg Prod.snd followed
  have swapped : Contents.Readable (Contents.ofDocuments documents) :=
    Contents.Readable.foldl .put .empty documents
  obtain ⟨listed, lists⟩ := Contents.readable_iff_exists_list.mp swapped
  refine ⟨_, listed, rfl, ?_⟩
  rw [← list_contents, ← lists]
  exact congrArg Contents.list final.symm

/--
Stored vectors affect nothing but reading.  Two files with the same texts give the same results to
every history of calls that reads no vectors, and they have the same texts behind it.  A listing
fails exactly when the collection holds a damaged document, and it names the first one in listing
order with the number of its bytes; a document is fetched unless it is damaged itself.  A write
under the failing policy fails as the listing does and changes nothing in the file, and a collection
that has been replaced can be listed.
-/
theorem vectors_affect_only_reading :
    (∀ one other : Database, SameTexts one other →
        ∀ calls : List (String × StoreCall), (∀ call ∈ calls, call.2.readsVectors = false) →
          results calls one = results calls other ∧
            SameTexts (after calls one) (after calls other)) ∧
      ∀ (database : Database) (name : String),
        ((∃ error, database.list name = .error error) ↔
            ∃ id row, database.rows.find? (name, id) = some row ∧ row.Damaged) ∧
          (∀ error, database.list name = .error error ↔
            ∃ id row, (database.contents name).FirstDamaged id row ∧
              error = .store (.damagedEmbedding id row.blob.length)) ∧
          (∀ id error, database.get? name id = .error error ↔
            ∃ row, database.rows.find? (name, id) = some row ∧ row.Damaged ∧
              error = .store (.damagedEmbedding id row.blob.length)) ∧
          (∀ error, database.list name = .error error →
            ∀ documents,
              ((store name).write documents .fail).perform database = (.error error, database)) ∧
          ∀ documents, ∃ final listed,
            ((store name).replaceAll documents).perform database = (.ok documents.length, final) ∧
              final.list name = .ok listed := by
  constructor
  · intro one other same calls blind
    exact calls_keep_sameTexts blind same
  · intro database name
    refine ⟨list_fails_iff, ?_, ?_, ?_, exists_list_after_replaceAll⟩
    · intro error
      exact list_eq_error_iff
    · intro id error
      exact get?_eq_error_iff
    · intro error lists documents
      exact write_fail_of_list_eq_error lists documents

/-- Cutting a vector off is noticed by whoever reads it, not by whoever overwrites it. -/
theorem cut_vector_affects_only_reading :
    let sound := ["0", "1"].foldl (fun database id =>
      insertOrReplace "texts" database ⟨id, "text", [1, 2]⟩) empty
    let cut := (sound.setBlob "texts" "1" [1, 0, 0, 0, 2]).2
    let calls := [
      ("texts", StoreCall.count),
      ("texts", .write [⟨"1", "other", [3]⟩, ⟨"2", "other", [4]⟩] .skip),
      ("texts", .delete ["0"])]
    results calls sound = results calls cut ∧
      SameTexts (after calls sound) (after calls cut) ∧
      cut.get? "texts" "1" = .error (.store (.damagedEmbedding "1" 5)) ∧
      cut.list "texts" = .error (.store (.damagedEmbedding "1" 5)) ∧
      ((store "texts").write [⟨"2", "other", [4]⟩] .fail).perform cut =
        (.error (.store (.damagedEmbedding "1" 5)), cut) := by
  intro sound cut calls
  obtain ⟨texts, reading⟩ := vectors_affect_only_reading
  obtain ⟨-, listing, fetching, failing, -⟩ := reading cut "texts"
  have damaged : Row.Damaged ⟨"text", [1, 0, 0, 0, 2]⟩ := by decide
  have stored : cut.rows.find? ("texts", "1") = some ⟨"text", [1, 0, 0, 0, 2]⟩ := by decide
  have only : ∀ row ∈ (cut.contents "texts").rows, row.2.Damaged → row.1 = "1" := by decide
  have lists := (listing _).mpr ⟨"1", ⟨"text", [1, 0, 0, 0, 2]⟩, ⟨by decide, damaged, ?_⟩, rfl⟩
  · obtain ⟨same, finals⟩ := texts sound cut (sameTexts_setBlob sound _ _ _) calls (by decide)
    exact ⟨same, finals, (fetching _ _).mpr ⟨_, stored, damaged, rfl⟩, lists, failing _ lists _⟩
  · intro other row inside otherDamaged differ
    exact absurd (only (other, row) (Table.mem_rows_iff_find?_eq_some.mpr inside) otherDamaged)
      differ

end Database

end SemanticIndex
