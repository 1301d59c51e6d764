import SemanticIndex.Proofs.Store.Agreement
import SemanticIndex.Proofs.Store.Policies

/-!
# Listings are determined by what is stored

A listing contains every stored document once, sorted strictly by the order of the ids, and there is
only one such list.  So whatever calls have led to a store, it lists what it stores and nothing of
its history.  Decimal ids are listed by their numbers, by stores in memory and by collections alike;
in particular documents in sequence come out in emission order, in whatever order they were
written.
-/

namespace SemanticIndex

/-! ## Listings -/

/-- A list of the stored documents, each once, by the numbers read in the ids and then by bytes. -/
structure IsListing
    {number : Type}
    [LinearOrder number]
    (reading : String → number)
    (stored : String → Option EmbeddedDocument)
    (listed : List EmbeddedDocument) : Prop where
  once : ∀ document, listed.count document = if stored document.id = some document then 1 else 0
  ordered : listed.Pairwise fun one other =>
    reading one.id < reading other.id ∨
      reading one.id = reading other.id ∧ utf8Bytes one.id < utf8Bytes other.id

namespace IsListing

variable {number : Type} [LinearOrder number] {reading : String → number}
variable {stored : String → Option EmbeddedDocument} {listed : List EmbeddedDocument}

theorem iff_sorted :
    IsListing reading stored listed ↔
      (∀ document, document ∈ listed ↔ stored document.id = some document) ∧
        listed.Pairwise fun one other => rank reading one.id < rank reading other.id := by
  constructor
  · rintro ⟨once, ordered⟩
    constructor
    · intro document
      rw [← List.count_pos_iff, once]
      split <;> simp_all
    · simpa only [rank_lt_iff] using ordered
  · rintro ⟨members, sorted⟩
    have distinct : listed.Nodup := by
      refine List.nodup_iff_pairwise_ne.mpr (sorted.imp ?_)
      rintro one _ before rfl
      exact lt_irrefl _ before
    constructor
    · intro document
      rw [distinct.count]
      simp only [members]
    · simpa only [rank_lt_iff] using sorted

/-- What is stored is listed in one way only. -/
theorem unique
    {other : List EmbeddedDocument}
    (listing : IsListing reading stored listed)
    (otherListing : IsListing reading stored other) :
    listed = other := by
  have sameDocuments : listed.Perm other := by
    rw [List.perm_iff_count]
    intro document
    rw [listing.once, otherListing.once]
  exact eq_of_pairwise_rank_lt sameDocuments (iff_sorted.mp listing).2
    (iff_sorted.mp otherListing).2

end IsListing

/-- A store in memory lists what it stores. -/
theorem Memory.isListing_list (memory : Memory) :
    IsListing positionOf memory.get? memory.list := by
  rw [IsListing.iff_sorted]
  constructor
  · intro document
    simp only [list, List.mem_map, List.mem_mergeSort, Table.mem_rows_iff_find?_eq_some, get?,
      Option.map_eq_some_iff]
    constructor
    · rintro ⟨⟨id, entry⟩, found, rfl⟩
      exact ⟨entry, found, rfl⟩
    · rintro ⟨entry, found, same⟩
      exact ⟨(document.id, entry), found, same⟩
  · rw [list, List.pairwise_map]
    exact pairwise_rank_lt_mergeSort positionOrder_iff memory.documents.distinct

theorem Contents.isListing_of_list
    {contents : Contents}
    {stored : String → Option EmbeddedDocument}
    {listed : List EmbeddedDocument}
    (reads : ∀ id, contents.read id = .ok (stored id))
    (lists : contents.list = .ok listed) :
    IsListing leadingInteger stored listed := by
  rw [IsListing.iff_sorted]
  constructor
  · intro document
    rw [mem_list_iff lists, reads, Except.ok.injEq]
  · have sorted : contents.sorted.Pairwise fun one other =>
        rank leadingInteger one.1 < rank leadingInteger other.1 :=
      pairwise_rank_lt_mergeSort integerOrder_iff contents.distinct
    rw [list_eq_ok_iff.mp lists, List.pairwise_map] at sorted
    exact sorted

/-- A collection whose documents can all be read lists them. -/
theorem Database.exists_list
    {database : Database}
    {name : String}
    {stored : String → Option EmbeddedDocument}
    (reads : ∀ id, database.get? name id = .ok (stored id)) :
    ∃ listed, database.list name = .ok listed ∧ IsListing leadingInteger stored listed := by
  simp only [← read_contents] at reads
  have readable : (database.contents name).Readable := fun id => ⟨stored id, reads id⟩
  rcases Contents.readable_iff_exists_list.mp readable with ⟨listed, lists⟩
  exact ⟨listed, lists, Contents.isListing_of_list reads lists⟩

theorem Memory.list_eq_of_isListing
    {memory : Memory}
    {stored : String → Option EmbeddedDocument}
    {listed : List EmbeddedDocument}
    (holds : ∀ id, memory.get? id = stored id)
    (listing : IsListing positionOf stored listed) :
    memory.list = listed := by
  have own := memory.isListing_list
  rw [funext holds] at own
  exact own.unique listing

theorem Database.list_eq_of_isListing
    {database : Database}
    {name : String}
    {stored : String → Option EmbeddedDocument}
    {listed : List EmbeddedDocument}
    (reads : ∀ id, database.get? name id = .ok (stored id))
    (listing : IsListing leadingInteger stored listed) :
    database.list name = .ok listed := by
  rcases exists_list reads with ⟨own, lists, ownListing⟩
  rw [lists, ownListing.unique listing]

/-! ## Decimal ids -/

/-- Every stored id is the decimal text of a number in the range of the integers. -/
def DecimalIds (stored : String → Option EmbeddedDocument) : Prop :=
  ∀ id, stored id ≠ none → ∃ number < 2 ^ 63, id = toString number

/-- Documents are listed by the numbers that their ids are the decimal texts of. -/
def ListedByNumber (listed : List EmbeddedDocument) : Prop :=
  ∃ numbers : List Nat, numbers.Pairwise (· < ·) ∧ listed.map (·.id) = numbers.map toString

namespace DecimalIds

variable {stored : String → Option EmbeddedDocument} {listed : List EmbeddedDocument}
variable (decimal : DecimalIds stored)

include decimal

/-- Decimal ids are read as the same number by both kinds of stores. -/
theorem readings
    {document : EmbeddedDocument}
    (found : stored document.id = some document) :
    toString (positionOf document.id) = document.id ∧
      leadingInteger document.id = positionOf document.id := by
  have taken : stored document.id ≠ none := by
    rw [found]
    exact Option.some_ne_none document
  rcases decimal document.id taken with ⟨number, within, spelled⟩
  obtain ⟨position, integer⟩ := readings_toString within
  rw [spelled, position, integer]
  exact ⟨rfl, rfl⟩

/-- Both orders come to the same on decimal ids. -/
theorem isListing_iff :
    IsListing positionOf stored listed ↔ IsListing leadingInteger stored listed := by
  rw [IsListing.iff_sorted, IsListing.iff_sorted]
  refine and_congr_right fun members => List.Pairwise.iff_of_mem ?_
  intro one other oneInside otherInside
  rw [rank_lt_iff, rank_lt_iff, (decimal.readings ((members one).mp oneInside)).2,
    (decimal.readings ((members other).mp otherInside)).2, Int.ofNat_lt, Int.natCast_inj]

theorem listedByNumber (listing : IsListing positionOf stored listed) : ListedByNumber listed := by
  have members := (IsListing.iff_sorted.mp listing).1
  have spelled : ∀ document ∈ listed, toString (positionOf document.id) = document.id := by
    intro document inside
    exact (decimal.readings ((members document).mp inside)).1
  refine ⟨listed.map fun document => positionOf document.id, ?_, ?_⟩
  · rw [List.pairwise_map]
    refine listing.ordered.imp_of_mem ?_
    intro one other oneInside otherInside before
    rcases before with smaller | ⟨same, bytes⟩
    · exact smaller
    · have sameId : one.id = other.id := by
        rw [← spelled one oneInside, same, spelled other otherInside]
      exact absurd bytes (sameId ▸ List.lt_irrefl _)
  · rw [List.map_map, List.map_inj_left]
    intro document inside
    exact (spelled document inside).symm

end DecimalIds

/-! ## Histories -/

/-- What is made of a result does not matter to the state. -/
theorem Action.snd_perform_bind_pure
    {state value result : Type}
    (action : Action state value)
    (make : value → result)
    (initial : state) :
    ((action >>= fun value => pure (make value)).perform initial).2 =
      (action.perform initial).2 := by
  rw [perform_bind]
  rcases action.perform initial with ⟨outcome, final⟩
  cases outcome <;> rfl

namespace Contents

variable {replaced : List EmbeddedDocument → Nat}

theorem backed_store : (store replaced).BackedBy id where
  counts _ := rfl
  deletes _ _ := ⟨_, rfl, rfl⟩
  writes _ _ _ := ⟨_, rfl, rfl⟩
  replaces _ _ := ⟨_, _, rfl, rfl⟩

/-- No call makes a collection unreadable. -/
theorem Readable.call
    {contents : Contents}
    (readable : contents.Readable)
    (call : StoreCall) :
    Readable ((call.on (Contents.readable replaced)).perform contents).2 := by
  have swapped (documents : List EmbeddedDocument) : Readable (ofDocuments documents) :=
    foldl put .empty documents
  cases call with
  | count => exact readable
  | get id =>
    rw [StoreCall.on, Action.snd_perform_bind_pure]
    exact readable
  | delete ids => exact foldl erase readable ids
  | write documents policy =>
    rw [StoreCall.on, Action.snd_perform_bind_pure]
    exact readable.write documents policy
  | replaceAll documents => exact swapped documents
  | clear =>
    rcases (@backed_store replaced).exists_clear contents with
      ⟨final, clears, cleared⟩
    have reached : ((Contents.readable replaced).clear.perform contents).2 = contents.cleared :=
      (congrArg Prod.snd clears).trans cleared
    rw [StoreCall.on, Action.snd_perform_bind_pure, reached]
    exact foldl erase readable (positions contents.size)
  | commit documents mode =>
    rw [StoreCall.on, Action.snd_perform_bind_pure]
    cases mode with
    | clearThenWrite => exact readable.write documents .overwrite
    | staged => exact swapped documents

end Contents

namespace Database

/-- The state of a database after a history of calls, each on a collection. -/
def after (calls : List (String × StoreCall)) (initial : Database) : Database :=
  calls.foldl (fun database call => ((call.2.on (readable call.1)).perform database).2) initial

theorem readable_contents_call
    {database : Database}
    {name : String}
    (readableBefore : (database.contents name).Readable)
    (collection : String)
    (call : StoreCall) :
    ((((call.on (readable collection)).perform database).2).contents name).Readable := by
  by_cases same : name = collection
  · subst same
    have followed := congrArg Prod.snd ((readable_follows name).on call database)
    change _ = (((call.on (readable name)).perform database).2).contents name at followed
    rw [← followed]
    exact readableBefore.call call
  · rw [(readable_keeps same).on call database]
    exact readableBefore

/-- What a database stores can be read whatever calls came before. -/
theorem exists_get?_after
    (calls : List (String × StoreCall))
    (name : String) :
    ∃ stored : String → Option EmbeddedDocument,
      ∀ id, (after calls .empty).get? name id = .ok (stored id) := by
  have readableAfter : ∀ {database : Database}, (database.contents name).Readable →
      ((after calls database).contents name).Readable := by
    induction calls with
    | nil => exact id
    | cons call rest induction =>
      intro database readableBefore
      exact induction (readable_contents_call readableBefore call.1 call.2)
  have nothing : (empty.contents name).Readable := Contents.Readable.empty
  rcases Classical.skolem.mp (readableAfter nothing) with ⟨stored, reads⟩
  exact ⟨stored, fun id => (read_contents _ name id).symm.trans (reads id)⟩

end Database

/-! ## Documents in sequence -/

namespace Contents

/-- Where no id repeats or is taken, every document is new. -/
theorem foldl_putNew_of_distinct
    {contents : Contents}
    {documents : List EmbeddedDocument}
    (distinct : (contents.keys ++ documents.map (·.id)).Nodup) :
    documents.foldl putNew contents = documents.foldl put contents := by
  induction documents generalizing contents with
  | nil => rfl
  | cons document rest induction =>
    have added : contents.putNew document = contents.put document := by
      rw [putNew, if_neg]
      rw [Table.contains_iff_mem_keys]
      exact not_mem_keys_of_distinct distinct
    rw [List.foldl_cons, List.foldl_cons, added, induction (distinct_put distinct)]

/-- Where no id repeats or is taken, a batch is written in full under every policy. -/
theorem write_of_distinct
    {contents : Contents}
    (readable : contents.Readable)
    {documents : List EmbeddedDocument}
    (distinct : (contents.keys ++ documents.map (·.id)).Nodup)
    (policy : DuplicatePolicy) :
    (contents.write documents policy).2 = documents.foldl put contents := by
  cases policy with
  | overwrite => rfl
  | skip => exact foldl_putNew_of_distinct distinct
  | fail =>
    have free : repeatedIds (· ∈ contents.keys) (documents.map (·.id)) = [] := by
      rw [repeatedIds_eq_nil_iff]
      obtain ⟨-, own, apart⟩ := List.nodup_append.mp distinct
      exact ⟨own, fun id inside taken => apart id taken id inside rfl⟩
    rw [write_fail_of_readable readable, if_pos free]

/-- Batches without repeated or taken ids, written one after the other, leave all documents. -/
theorem after_writes_of_distinct
    {replaced : List EmbeddedDocument → Nat}
    {contents : Contents}
    (readable : contents.Readable)
    {batches : List (List EmbeddedDocument × DuplicatePolicy)}
    (distinct : (contents.keys ++ (batches.flatMap Prod.fst).map (·.id)).Nodup) :
    StoreCall.after (Contents.readable replaced)
        (batches.map fun batch => StoreCall.write batch.1 batch.2) contents =
      (batches.flatMap Prod.fst).foldl put contents := by
  induction batches generalizing contents with
  | nil => rfl
  | cons batch rest induction =>
    -- The ids of the first batch are taken for the batches behind it.
    rw [List.flatMap_cons, List.map_append, ← List.append_assoc] at distinct
    have own : (contents.keys ++ batch.1.map (·.id)).Nodup := (List.nodup_append.mp distinct).1
    have written : (((StoreCall.write batch.1 batch.2).on (Contents.readable replaced)).perform
        contents).2 = batch.1.foldl put contents := by
      rw [StoreCall.on, Action.snd_perform_bind_pure]
      exact write_of_distinct readable own batch.2
    have grown : (batch.1.foldl put contents).keys = contents.keys ++ batch.1.map (·.id) := by
      rw [Table.keys, rows_foldl_put own, List.map_append, List.map_map]
      rfl
    rw [← grown] at distinct
    rw [List.flatMap_cons, List.foldl_append, ← induction (Readable.foldl .put readable _) distinct,
      ← written]
    rfl

end Contents

namespace Numbered

variable {documents written : List EmbeddedDocument}
variable (numbered : Numbered documents) (permuted : written.Perm documents)

include numbered permuted

theorem distinct_of_perm : (written.map (·.id)).Nodup :=
  (permuted.map _).nodup_iff.mpr numbered.distinct

theorem find?_eq_some_iff
    {document : EmbeddedDocument} :
    written.find? (·.id = document.id) = some document ↔ document ∈ documents := by
  rw [← permuted.mem_iff]
  exact ⟨List.mem_of_find?_eq_some, find?_id_of_mem (numbered.distinct_of_perm permuted)⟩

section Within

variable (within : documents.length ≤ 2 ^ 63)

include within

theorem decimalIds : DecimalIds fun id => written.find? (·.id = id) := by
  intro id taken
  have inside : id ∈ positions documents.length := by
    rw [← numbered, ← (permuted.map _).mem_iff]
    simpa using taken
  rcases mem_positions.mp inside with ⟨position, below, spelled⟩
  exact ⟨position, Nat.lt_of_lt_of_le below within, spelled⟩

/-- Emission order is the order of the listing. -/
theorem isListing : IsListing positionOf (fun id => written.find? (·.id = id)) documents := by
  rw [IsListing.iff_sorted]
  refine ⟨fun document => (numbered.find?_eq_some_iff permuted).symm, ?_⟩
  have ordered : (positions documents.length).Pairwise fun one other =>
      rank positionOf one < rank positionOf other := by
    rw [positions, List.pairwise_map]
    refine List.pairwise_lt_range.imp_of_mem ?_
    intro one other oneInside otherInside before
    have reads {position : Nat} (inside : position ∈ List.range documents.length) :=
      (readings_toString (Nat.lt_of_lt_of_le (List.mem_range.mp inside) within)).1
    rw [rank_lt_iff, reads oneInside, reads otherInside]
    exact .inl before
  rw [← numbered, List.pairwise_map] at ordered
  exact ordered

end Within

end Numbered

namespace Numbered

variable {documents : List EmbeddedDocument}
variable {batches : List (List EmbeddedDocument × DuplicatePolicy)}
variable (numbered : Numbered documents) (permuted : (batches.flatMap Prod.fst).Perm documents)

include numbered permuted

/-- Batches that are written to a store without documents are read back. -/
theorem read_after_writes
    {state : Type}
    {store : ReadableStore state}
    {view : state → Contents}
    {replaced : List EmbeddedDocument → Nat}
    (follows : ReadableStore.Follows view store (Contents.readable replaced))
    {initial : state}
    (without : (view initial).size = 0)
    (id : String) :
    (view (StoreCall.after store
        (batches.map fun batch => StoreCall.write batch.1 batch.2) initial)).read id =
      .ok ((batches.flatMap Prod.fst).find? (·.id = id)) := by
  have distinct := numbered.distinct_of_perm permuted
  rw [← follows.after, Table.eq_empty_of_size_eq_zero without,
    Contents.after_writes_of_distinct .empty distinct]
  exact Contents.holds_ofDocuments distinct id

/-- However numbered documents were written, they are listed in emission order. -/
theorem list_after_writes (within : documents.length ≤ 2 ^ 63) :
    let writes := batches.map fun batch => StoreCall.write batch.1 batch.2
    (StoreCall.after Memory.readable writes .empty).list = documents ∧
      ∀ (database : Database) (name : String), database.count name = 0 →
        (StoreCall.after (Database.readable name) writes database).list name = .ok documents := by
  intro writes
  have listing := numbered.isListing permuted within
  constructor
  · apply Memory.list_eq_of_isListing _ listing
    intro id
    have without : Memory.empty.contents.size = 0 := rfl
    have reads := numbered.read_after_writes permuted Memory.readable_follows without id
    rw [Memory.read_contents] at reads
    exact Except.ok.inj reads
  · intro database name without
    have decimal := numbered.decimalIds permuted within
    apply Database.list_eq_of_isListing _ (decimal.isListing_iff.mp listing)
    intro id
    have reads := numbered.read_after_writes permuted (Database.readable_follows name) without id
    rw [Database.read_contents] at reads
    exact reads

end Numbered

/-! ## What histories list -/

/--
After every history of calls a store in memory and each collection list every stored document once,
strictly in their orders, and what is stored decides the listing: it is the same after every other
history that leaves the same documents.  Decimal ids are listed by number, in memory as in a
collection.  So documents in sequence, no more than the integers number, come out of a store that
was empty in emission order, in whatever order, batches and policies they were written.
-/
theorem listing_after_calls :
    (∀ calls otherCalls : List StoreCall,
      let memory := StoreCall.after Memory.readable calls .empty
      let other := StoreCall.after Memory.readable otherCalls .empty
      IsListing positionOf memory.get? memory.list ∧
        (DecimalIds memory.get? → ListedByNumber memory.list) ∧
        ((∀ id, other.get? id = memory.get? id) → other.list = memory.list)) ∧
      (∀ (calls : List (String × StoreCall)) (name : String),
        ∃ stored listed,
          (∀ id, (Database.after calls .empty).get? name id = .ok (stored id)) ∧
            (Database.after calls .empty).list name = .ok listed ∧
            IsListing leadingInteger stored listed ∧
            (∀ otherCalls otherName,
              (∀ id, (Database.after otherCalls .empty).get? otherName id = .ok (stored id)) →
                (Database.after otherCalls .empty).list otherName = .ok listed) ∧
            (DecimalIds stored → ListedByNumber listed ∧
              ∀ memory : Memory, (∀ id, memory.get? id = stored id) → memory.list = listed)) ∧
      ∀ (texts : List String) (documents : List EmbeddedDocument)
        (batches : List (List EmbeddedDocument × DuplicatePolicy)),
        texts.length ≤ 2 ^ 63 →
          documents.map (·.document) = Document.sequence texts →
            (batches.flatMap Prod.fst).Perm documents →
              let writes := batches.map fun batch => StoreCall.write batch.1 batch.2
              (StoreCall.after Memory.readable writes .empty).list = documents ∧
                ∀ (database : Database) (name : String), database.count name = 0 →
                  (StoreCall.after (Database.readable name) writes database).list name =
                    .ok documents := by
  refine ⟨?_, ?_, ?_⟩
  · intro calls otherCalls memory other
    have listing := memory.isListing_list
    exact ⟨listing, fun decimal => decimal.listedByNumber listing,
      fun same => Memory.list_eq_of_isListing same listing⟩
  · intro calls name
    rcases Database.exists_get?_after calls name with ⟨stored, reads⟩
    rcases Database.exists_list reads with ⟨listed, lists, listing⟩
    refine ⟨stored, listed, reads, lists, listing, ?_, ?_⟩
    · intro otherCalls otherName otherReads
      exact Database.list_eq_of_isListing otherReads listing
    · intro decimal
      have byPosition := decimal.isListing_iff.mpr listing
      exact ⟨decimal.listedByNumber byPosition,
        fun memory holds => Memory.list_eq_of_isListing holds byPosition⟩
  · intro texts documents batches within inSequence permuted
    have sameLength : documents.length = (Document.sequence texts).length := by
      rw [← inSequence, List.length_map]
    have numbered : Numbered documents := by
      rw [Numbered, sameLength, ← Document.ids_sequence, ← inSequence, List.map_map]
      rfl
    apply numbered.list_after_writes permuted
    rw [sameLength, Document.sequence, List.length_mapIdx]
    exact within

/-- Eleven documents that are written from the last to the first are listed with `10` behind `9`. -/
theorem listing_after_calls_in_reverse :
    let documents : List EmbeddedDocument :=
      (List.range 11).map fun position => ⟨toString position, "text", [1]⟩
    let writes := [StoreCall.write documents.reverse .fail]
    let memory := StoreCall.after Memory.readable writes .empty
    IsListing positionOf memory.get? memory.list ∧
      memory.list = documents ∧
      (StoreCall.after (Database.readable "texts") writes .empty).list "texts" = .ok documents ∧
      documents.getLast? = some ⟨"10", "text", [1]⟩ := by
  intro documents writes memory
  obtain ⟨inMemory, -, inSequence⟩ := listing_after_calls
  have permuted :
      ([(documents.reverse, DuplicatePolicy.fail)].flatMap Prod.fst).Perm documents := by
    rw [List.flatMap_singleton]
    exact List.reverse_perm documents
  have listed := inSequence (List.replicate 11 "text") documents [(documents.reverse, .fail)]
    (by decide) rfl permuted
  exact ⟨(inMemory writes []).1, listed.1, listed.2 .empty "texts" rfl, rfl⟩

end SemanticIndex
