import Mathlib.Data.List.Dedup
import SemanticIndex.Proofs.Store.Calls
import SemanticIndex.Proofs.Store.Listing

/-!
# Stores in memory and collections of databases

A store in memory and a collection of a database agree when every id gives the same document in
both.  Every call keeps them in agreement and gives the same result in both, the ids named by an
error included.  The one exception is what replacing reports: a store in memory has counted the
distinct ids of the batch, and a collection the documents.
-/

namespace SemanticIndex

namespace Contents

/-- Contents are alike when every id has the same row, in whatever order the rows came. -/
def Alike (one other : Contents) : Prop :=
  ∀ id, one.find? id = other.find? id

namespace Alike

variable {one other : Contents}

theorem contains_eq (alike : Alike one other) (id : String) :
    one.contains id = other.contains id := by
  rw [Bool.eq_iff_iff, Table.contains_iff_mem_keys, Table.contains_iff_mem_keys,
    Table.mem_keys_iff_isSome_find?, Table.mem_keys_iff_isSome_find?, alike id]

theorem read_eq (alike : Alike one other) (id : String) : one.read id = other.read id := by
  rw [read, read, alike id]

theorem put (alike : Alike one other) (document : EmbeddedDocument) :
    Alike (one.put document) (other.put document) := by
  intro id
  rw [Contents.put, Contents.put, Table.find?_insert, Table.find?_insert, alike id]

theorem putNew (alike : Alike one other) (document : EmbeddedDocument) :
    Alike (one.putNew document) (other.putNew document) := by
  rw [Contents.putNew, Contents.putNew, alike.contains_eq]
  split
  · exact alike
  · exact alike.put document

theorem erase (alike : Alike one other) (id : String) :
    Alike (one.erase id) (other.erase id) := by
  intro wanted
  rw [Table.find?_erase, Table.find?_erase, alike wanted]

theorem foldl
    {item : Type}
    {step : Contents → item → Contents}
    (stepAlike : ∀ {one other : Contents}, Alike one other →
      ∀ item, Alike (step one item) (step other item))
    (alike : Alike one other)
    (items : List item) :
    Alike (items.foldl step one) (items.foldl step other) := by
  induction items generalizing one other with
  | nil => exact alike
  | cons item rest induction => exact induction (stepAlike alike item)

theorem write
    (alike : Alike one other)
    (documents : List EmbeddedDocument)
    (policy : DuplicatePolicy) :
    (one.write documents policy).1 = (other.write documents policy).1 ∧
      Alike (one.write documents policy).2 (other.write documents policy).2 := by
  have overwritten := alike.foldl put documents
  cases policy with
  | overwrite => exact ⟨rfl, overwritten⟩
  | skip =>
    have added := alike.foldl putNew documents
    refine ⟨?_, added⟩
    simp only [Contents.write, Table.size_eq_of_find?_eq added, Table.size_eq_of_find?_eq alike]
  | fail =>
    rw [Contents.write, Contents.write, list_eq_of_find?_eq alike]
    cases other.list with
    | error error => exact ⟨rfl, alike⟩
    | ok listed =>
      simp only
      split
      · exact ⟨rfl, overwritten⟩
      · exact ⟨rfl, alike⟩

end Alike

/-! ## Calls on contents that are alike -/

section Calls

variable {replaced otherReplaced : List EmbeddedDocument → Nat}

theorem count_matches :
    Action.Matches Alike (readable replaced).count (readable otherReplaced).count := by
  intro one other alike
  exact ⟨congrArg Except.ok (Table.size_eq_of_find?_eq alike), alike⟩

theorem delete_matches (ids : List String) :
    Action.Matches Alike ((readable replaced).delete ids)
      ((readable otherReplaced).delete ids) := by
  intro one other alike
  exact ⟨rfl, alike.foldl Alike.erase ids⟩

theorem write_matches
    (documents : List EmbeddedDocument)
    (policy : DuplicatePolicy) :
    Action.Matches Alike ((readable replaced).write documents policy)
      ((readable otherReplaced).write documents policy) := by
  intro one other alike
  exact alike.write documents policy

theorem clear_matches :
    Action.Matches Alike (readable replaced).clear (readable otherReplaced).clear := by
  apply count_matches.bind
  intro count
  apply Action.Matches.ite
  · exact .pure 0
  · apply (delete_matches _).bind
    intro _
    exact .pure count

theorem get_matches (id : String) :
    Action.Matches Alike ((readable replaced).get id) ((readable otherReplaced).get id) := by
  intro one other alike
  exact ⟨alike.read_eq id, alike⟩

/-- A call that replaces nothing as a whole gives the same result on contents that are alike. -/
theorem call_matches
    {call : StoreCall}
    (partly : call.replacement? = none) :
    Action.Matches Alike (call.on (readable replaced)) (call.on (readable otherReplaced)) := by
  cases call with
  | count => exact count_matches.bind fun count => .pure (StoreResult.number count)
  | delete ids => exact (delete_matches ids).bind fun _ => .pure StoreResult.done
  | write documents policy =>
    exact (write_matches documents policy).bind fun count => .pure (StoreResult.number count)
  | replaceAll documents => exact nomatch partly
  | clear => exact clear_matches.bind fun count => .pure (StoreResult.number count)
  | commit documents mode =>
    cases mode with
    | clearThenWrite =>
      exact (write_matches documents .overwrite).bind
        fun count => .pure (StoreResult.number count)
    | staged => exact nomatch partly
  | get id => exact (get_matches id).bind fun found => .pure (StoreResult.document found)

/-- A call that replaces the collection leaves the batch, whatever was there before. -/
theorem perform_call_of_replacement
    {call : StoreCall}
    {documents : List EmbeddedDocument}
    (replaces : call.replacement? = some documents)
    (contents : Contents) :
    (call.on (readable replaced)).perform contents =
      (.ok (.number (replaced documents)), ofDocuments documents) := by
  cases call with
  | replaceAll batch =>
    obtain rfl := Option.some.inj replaces
    rfl
  | commit batch mode =>
    cases mode with
    | clearThenWrite => exact nomatch replaces
    | staged =>
      obtain rfl := Option.some.inj replaces
      rfl
  | _ => exact nomatch replaces

theorem call_keeps_alike
    {one other : Contents}
    (alike : Alike one other)
    (call : StoreCall) :
    Alike ((call.on (readable replaced)).perform one).2
      ((call.on (readable otherReplaced)).perform other).2 := by
  cases replaces : call.replacement? with
  | none => exact (call_matches replaces alike).2
  | some documents =>
    rw [perform_call_of_replacement replaces, perform_call_of_replacement replaces]
    intro id
    rfl

theorem after_keeps_alike
    {one other : Contents}
    (alike : Alike one other)
    (calls : List StoreCall) :
    Alike (StoreCall.after (readable replaced) calls one)
      (StoreCall.after (readable otherReplaced) calls other) := by
  induction calls generalizing one other with
  | nil => exact alike
  | cons call rest induction => exact induction (call_keeps_alike alike call)

end Calls

/-! ## Distinct ids -/

theorem mem_keys_foldl_put
    {contents : Contents}
    {documents : List EmbeddedDocument}
    {id : String} :
    id ∈ (documents.foldl put contents).keys ↔
      id ∈ contents.keys ∨ id ∈ documents.map (·.id) := by
  induction documents generalizing contents with
  | nil => simp
  | cons document rest induction =>
    have grown : id ∈ (contents.put document).keys ↔ id ∈ contents.keys ∨ id = document.id := by
      rw [put, Table.keys_insert]
      split <;> grind
    rw [List.foldl_cons, induction, grown, List.map_cons, List.mem_cons, or_assoc]

/-- A batch leaves one row for each of its distinct ids. -/
theorem size_ofDocuments_eq_dedup (documents : List EmbeddedDocument) :
    (ofDocuments documents).size = (documents.map (·.id)).dedup.length := by
  have permuted : (ofDocuments documents).keys.Perm (documents.map (·.id)).dedup := by
    rw [List.perm_ext_iff_of_nodup (Table.nodup_keys _) (List.nodup_dedup _)]
    intro id
    rw [ofDocuments, mem_keys_foldl_put, List.mem_dedup]
    simp [Table.keys, Table.empty]
  rw [Table.size_eq_length_keys, permuted.length_eq]

end Contents

theorem length_dedup_eq_iff_nodup (ids : List String) :
    ids.dedup.length = ids.length ↔ ids.Nodup := by
  constructor
  · intro same
    exact List.dedup_eq_self.mp ((List.dedup_sublist ids).eq_of_length same)
  · intro distinct
    rw [List.dedup_eq_self.mpr distinct]

/-! ## Agreement -/

/-- A store in memory and a collection give the same document for every id. -/
def Agree (name : String) (memory : Memory) (database : Database) : Prop :=
  ∀ id, database.get? name id = .ok (memory.get? id)

theorem agree_iff_alike
    {name : String}
    {memory : Memory}
    {database : Database} :
    Agree name memory database ↔ Contents.Alike memory.contents (database.contents name) := by
  constructor
  · intro agree id
    have memoryRead := Memory.read_contents memory id
    have databaseRead := (Database.read_contents database name id).trans (agree id)
    rw [Contents.read_eq_ok_iff] at memoryRead databaseRead
    exact memoryRead.1.trans databaseRead.1.symm
  · intro alike id
    rw [← Database.read_contents, ← alike.read_eq id, Memory.read_contents]

/--
What a call returns in memory and in a collection: the same, unless it replaces the collection;
then the store in memory reports the distinct ids of the batch and the collection the documents.
-/
def StoreCall.Reports
    (call : StoreCall)
    (inMemory inDatabase : Except Error StoreResult) : Prop :=
  match call.replacement? with
  | none => inMemory = inDatabase
  | some documents =>
    inMemory = .ok (.number (documents.map (·.id)).dedup.length) ∧
      inDatabase = .ok (.number documents.length) ∧
      (inMemory = inDatabase ↔ (documents.map (·.id)).Nodup)

theorem StoreCall.reports_of_alike
    {one other : Contents}
    (alike : Contents.Alike one other)
    (call : StoreCall) :
    call.Reports
      ((call.on (Contents.readable fun documents =>
        (Contents.ofDocuments documents).size)).perform one).1
      ((call.on (Contents.readable List.length)).perform other).1 := by
  rw [Reports]
  cases replaces : call.replacement? with
  | none => exact (Contents.call_matches replaces alike).1
  | some documents =>
    rw [Contents.perform_call_of_replacement replaces,
      Contents.perform_call_of_replacement replaces, Contents.size_ofDocuments_eq_dedup]
    refine ⟨rfl, rfl, ?_⟩
    rw [← length_dedup_eq_iff_nodup, List.length_map]
    simp

/--
Whatever calls came before, a call keeps a store in memory and a collection in agreement, and both
report the same but for the number of a replacement.
-/
theorem call_keeps_agreement
    {name : String}
    {memory : Memory}
    {database : Database}
    (agree : Agree name memory database)
    (earlier : List StoreCall)
    (call : StoreCall) :
    let inMemory := (call.on Memory.readable).perform
      (StoreCall.after Memory.readable earlier memory)
    let inDatabase := (call.on (Database.readable name)).perform
      (StoreCall.after (Database.readable name) earlier database)
    Agree name inMemory.2 inDatabase.2 ∧ call.Reports inMemory.1 inDatabase.1 := by
  intro inMemory inDatabase
  have memoryFollows := Memory.readable_follows.on call
    (StoreCall.after Memory.readable earlier memory)
  have databaseFollows := (Database.readable_follows name).on call
    (StoreCall.after (Database.readable name) earlier database)
  have alike : Contents.Alike (StoreCall.after Memory.readable earlier memory).contents
      ((StoreCall.after (Database.readable name) earlier database).contents name) := by
    rw [← Memory.readable_follows.after, ← (Database.readable_follows name).after]
    exact Contents.after_keeps_alike (agree_iff_alike.mp agree) earlier
  constructor
  · rw [agree_iff_alike]
    change Contents.Alike (Prod.map id Memory.contents inMemory).2
      (Prod.map id (Database.contents name) inDatabase).2
    rw [← memoryFollows, ← databaseFollows]
    exact Contents.call_keeps_alike alike call
  · have reports := call.reports_of_alike alike
    rw [memoryFollows, databaseFollows] at reports
    exact reports

/-- A batch that repeats an id is counted differently and leaves the same documents. -/
theorem call_keeps_agreement_over_repeated_ids :
    let batch : List EmbeddedDocument :=
      [⟨"0", "first", [1]⟩, ⟨"0", "second", [2]⟩, ⟨"1", "third", []⟩]
    let earlier := [StoreCall.write [⟨"0", "old", []⟩] .overwrite, .write batch .skip]
    let inMemory := ((StoreCall.replaceAll batch).on Memory.readable).perform
      (StoreCall.after Memory.readable earlier .empty)
    let inDatabase := ((StoreCall.replaceAll batch).on (Database.readable "documents")).perform
      (StoreCall.after (Database.readable "documents") earlier .empty)
    Agree "documents" .empty .empty ∧ Agree "documents" inMemory.2 inDatabase.2 ∧
      inMemory.1 = .ok (.number 2) ∧ inDatabase.1 = .ok (.number 3) := by
  intro batch earlier inMemory inDatabase
  have agree : Agree "documents" .empty .empty := fun _ => rfl
  obtain ⟨kept, distinct, all, -⟩ := call_keeps_agreement agree earlier (.replaceAll batch)
  exact ⟨agree, kept, distinct, all⟩

end SemanticIndex
