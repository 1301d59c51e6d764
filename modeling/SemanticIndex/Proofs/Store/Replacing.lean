import SemanticIndex.Proofs.Store.Batches
import SemanticIndex.Proofs.Store.Clearing

/-!
# Replacing without a swap

A store with basic operations only replaces its documents by clearing and overwriting.  What
clearing leaves stays beside the batch, so this comes to the same as a swap exactly when the old
collection is contiguous.  The steps may be refused one by one: before the first change nothing has
happened, and a refused write leaves what clearing leaves.
-/

namespace SemanticIndex

namespace Contents

variable {contents : Contents}

/-- The rows that clearing and then overwriting leave. -/
def refilled (contents : Contents) (batch : List EmbeddedDocument) : Contents :=
  batch.foldl put contents.cleared

/-- Of a repeated id a new collection has the last document. -/
theorem find?_ofDocuments_eq_lastWith?
    (batch : List EmbeddedDocument)
    (id : String) :
    (ofDocuments batch).find? id = (lastWith? id batch).map Row.ofDocument := by
  have nothing : Table.find? (.empty : Contents) id = none := rfl
  rw [ofDocuments, find?_foldl_put, nothing, Option.or_none]

/-- What was not cleared is found wherever the batch has nothing. -/
theorem find?_refilled
    (contents : Contents)
    (batch : List EmbeddedDocument)
    (id : String) :
    (contents.refilled batch).find? id =
      ((ofDocuments batch).find? id).or (contents.cleared.find? id) := by
  rw [refilled, find?_foldl_put, find?_ofDocuments_eq_lastWith?]

theorem cleared_eq_empty_iff : contents.cleared = .empty ↔ contents.Contiguous := by
  rw [← size_cleared_eq_zero_iff]
  constructor
  · intro emptied
    rw [emptied]
    rfl
  · exact Table.eq_empty_of_size_eq_zero

/-- Only over contiguous collections is every batch found alone. -/
theorem find?_refilled_eq_iff_contiguous :
    (∀ batch id, (contents.refilled batch).find? id = (ofDocuments batch).find? id) ↔
      contents.Contiguous := by
  rw [← cleared_eq_empty_iff]
  constructor
  · intro same
    -- The empty batch shows what clearing has left.
    have survivors (id : String) : contents.cleared.find? id = Table.find? .empty id := same [] id
    exact Table.eq_empty_of_size_eq_zero (Table.size_eq_of_find?_eq survivors)
  · intro emptied batch id
    have nothing : Table.find? (.empty : Contents) id = none := rfl
    rw [find?_refilled, emptied, nothing, Option.or_none]

end Contents

/-! ## Clearing and writing against swapping -/

namespace Store.BackedBy

variable {state : Type} {store : Store state} {view : state → Contents}

section Steps

variable (backed : store.BackedBy view) (refusal : Refusal) (initial : state)

include backed

theorem perform_clearAndWrite_of_refused
    {error : Error}
    (refused : refusal.clearing? (view initial).size = some error)
    (batch : List EmbeddedDocument) :
    ((store.refusing refusal).clearAndWrite batch).perform initial = (.error error, initial) :=
  Action.perform_bind_of_error (backed.perform_clear_of_refused refusal initial refused) _

/-- A refused write leaves what clearing leaves. -/
theorem exists_clearAndWrite_of_write_refused
    (free : refusal.clearing? (view initial).size = none)
    {error : Error}
    (refused : refusal .write = some error)
    (batch : List EmbeddedDocument) :
    ∃ left, ((store.refusing refusal).clearAndWrite batch).perform initial = (.error error, left) ∧
      (store.refusing refusal).clear.perform initial = (.ok (view initial).size, left) ∧
        view left = (view initial).cleared := by
  rcases backed.exists_clear_of_not_refused refusal initial free with ⟨left, clears, cleared⟩
  refine ⟨left, ?_, clears, cleared⟩
  rw [BasicStore.clearAndWrite, Action.perform_bind_of_ok clears, BasicStore.refusing,
    Action.perform_unlessRefused, refused]

theorem exists_clearAndWrite_of_not_refused
    (free : refusal.clearing? (view initial).size = none)
    (writes : refusal .write = none)
    (batch : List EmbeddedDocument) :
    ∃ final,
      ((store.refusing refusal).clearAndWrite batch).perform initial =
          (.ok batch.length, final) ∧
        view final = (view initial).refilled batch := by
  rcases backed.exists_clear_of_not_refused refusal initial free with ⟨middle, clears, cleared⟩
  rcases backed.writes batch .overwrite middle with ⟨final, overwrites, written⟩
  refine ⟨final, ?_, ?_⟩
  · rw [BasicStore.clearAndWrite, Action.perform_bind_of_ok clears, BasicStore.refusing,
      Action.perform_unlessRefused, writes]
    exact overwrites
  · rw [written, cleared]
    rfl

end Steps

/--
Replacing by clearing and writing, which may each be refused, compared with the store's own swap.
Where nothing is refused the batch ends beside the old documents that are neither cleared nor in
it, and both ways agree for every batch exactly when the old ids are the positions below their
count.  A refusal is handed on: one of the clearing leaves everything as it was, and one of the
write leaves what clearing leaves, which is nothing in the contiguous case.
-/
theorem replaceAll_by_clearing
    (backed : store.BackedBy view)
    (refusal : Refusal)
    (initial : state) :
    let before := view initial
    let stepwise := (store.refusing refusal).toStore
    match refusal.clearing? before.size, refusal .write with
    | some error, _ => ∀ batch,
        (stepwise.replaceAll batch).perform initial = (.error error, initial)
    | none, some error => ∀ batch, ∃ left,
        (stepwise.replaceAll batch).perform initial = (.error error, left) ∧
          stepwise.clear.perform initial = (.ok before.size, left) ∧
          before.Clears (view left) ∧
          (before.Contiguous → view left = .empty)
    | none, none =>
      (∀ batch, ∃ final counted swapped,
        (stepwise.replaceAll batch).perform initial = (.ok batch.length, final) ∧
          (store.replaceAll batch).perform initial = (.ok counted, swapped) ∧
          ∀ id, (view swapped).find? id = (lastWith? id batch).map Row.ofDocument ∧
            (view final).find? id =
              ((view swapped).find? id).or
                (if id ∈ positions before.size then none else before.find? id)) ∧
        ((∀ batch id,
            (view ((stepwise.replaceAll batch).perform initial).2).find? id =
              (view ((store.replaceAll batch).perform initial).2).find? id) ↔
          before.Contiguous) := by
  intro before stepwise
  cases refused : refusal.clearing? before.size with
  | some error => exact backed.perform_clearAndWrite_of_refused refusal initial refused
  | none =>
    cases writes : refusal .write with
    | some error =>
      intro batch
      rcases backed.exists_clearAndWrite_of_write_refused refusal initial refused writes batch with
        ⟨left, fails, clears, cleared⟩
      refine ⟨left, fails, clears, ?_, ?_⟩
      · rw [cleared]
        exact before.clears_cleared
      · intro contiguous
        rw [cleared, Contents.cleared_eq_empty_iff]
        exact contiguous
    | none =>
      have replaces := backed.exists_clearAndWrite_of_not_refused refusal initial refused writes
      constructor
      · intro batch
        rcases replaces batch with ⟨final, performed, refilled⟩
        rcases backed.replaces batch initial with ⟨counted, swapped, swaps, held⟩
        refine ⟨final, counted, swapped, performed, swaps, fun id => ⟨?_, ?_⟩⟩
        · rw [held, Contents.find?_ofDocuments_eq_lastWith?]
        · rw [refilled, held, Contents.find?_refilled, Contents.find?_cleared]
      · rw [← Contents.find?_refilled_eq_iff_contiguous]
        refine forall_congr' fun batch => forall_congr' fun id => ?_
        rcases replaces batch with ⟨final, performed, refilled⟩
        rcases backed.replaces batch initial with ⟨counted, swapped, swaps, held⟩
        have reached : (stepwise.replaceAll batch).perform initial = (.ok batch.length, final) :=
          performed
        rw [reached, swaps, refilled, held]

/-- Ids that only look like positions stay beside the batch, or alone if writing is refused. -/
theorem replaceAll_by_clearing_among_lookalikes :
    let documents : List EmbeddedDocument :=
      [⟨"00", "padded", []⟩, ⟨"0", "first", [1]⟩, ⟨"+1", "signed", []⟩, ⟨"7", "far", [2]⟩]
    let batch : List EmbeddedDocument := [⟨"7", "one", []⟩, ⟨"1", "two", []⟩, ⟨"7", "three", [3]⟩]
    let memory := Memory.empty.putAll documents
    let refuses : Refusal := fun
      | .write => some (.store (.refused "write"))
      | _ => none
    (∃ final, (Memory.store.toBasicStore.toStore.replaceAll batch).perform memory = (.ok 3, final) ∧
        final.contents.find? "7" = some (.ofDocument ⟨"7", "three", [3]⟩) ∧
        final.contents.find? "+1" = memory.contents.find? "+1" ∧
        final.contents.find? "0" = none) ∧
      ∃ left, ((Memory.store.refusing refuses).toStore.replaceAll batch).perform memory =
          (.error (.store (.refused "write")), left) ∧
        left.contents.find? "7" = memory.contents.find? "7" ∧
        left.contents.size = 3 := by
  intro documents batch memory refuses
  have backed : Memory.store.BackedBy Memory.contents := @Backend.backed_of_swaps .memory trivial
  obtain ⟨final, counted, swapped, replaces, -, found⟩ :=
    (replaceAll_by_clearing backed (fun _ => none) memory).1 batch
  obtain ⟨left, fails, -, clears, -⟩ := replaceAll_by_clearing backed refuses memory batch
  refine ⟨⟨final, replaces, ?_, ?_, ?_⟩, left, fails, ?_, ?_⟩
  · rw [(found "7").2, (found "7").1]
    rfl
  · rw [(found "+1").2, (found "+1").1]
    rfl
  · rw [(found "0").2, (found "0").1]
    rfl
  · exact clears.kept "7" (by decide)
  · exact clears.survivors

end Store.BackedBy

end SemanticIndex
