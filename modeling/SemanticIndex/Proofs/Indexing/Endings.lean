import SemanticIndex.Embedding.Hashing
import SemanticIndex.Proofs.Indexing.Run

/-!
# How runs end

Over stores with replacing operations of their own the course of a run decides what it returns
and what is left in the two collections.  The embedder never waits, so the records have to wait for
the statements.  A staged run replaces a collection as a whole or not at all, but not both of them
together: when only the records are not embedded, the statements have already been replaced.  A
clearing run leaves nothing from before it once the text is valid.
-/

namespace SemanticIndex

variable {embedding : Type}

/-! ## An embedder that fails late -/

/-- An embedder that gives one batch empty vectors and refuses every later one. -/
def onceOnly : Embedder Nat :=
  fun batch => .ofFunction fun calls =>
    if calls = 0 then
      (.ok (batch.map fun document => ⟨document.id, document.content, []⟩), 1)
    else
      (.error (.embedding (.refused "rate limited")), calls + 1)

namespace StorePair

variable {pair : StorePair}

/-! ## Staged runs -/

/--
Whatever the collections contain, a staged run whose embedder never waits takes exactly one course
and ends the way of that course, with its batches numbered in emission order.
-/
theorem staged_run_ends
    (swaps : pair.Swaps)
    (embedder : Embedder embedding)
    (text : String)
    (initial : embedding)
    (state : pair.State) :
    ∃ course result final after,
      (∀ other otherFinal, Takes embedder text initial other otherFinal ↔
          other = course ∧ otherFinal = final) ∧
        ((pair.indexer embedder .staged).run text).perform (initial, state) =
          (result, (final, after)) ∧
        course.AllNumbered ∧
        course.Ends text .staged (pair.contents state) result (pair.contents after) := by
  rcases Takes.exists_course embedder text initial with ⟨course, final, takes⟩
  rcases exists_run_of_swaps .staged swaps takes state nofun with ⟨result, after, ran, ends⟩
  exact ⟨course, result, final, after, takes.iff_eq, ran, takes.numbered, ends⟩

/-- A database whose statements have ids in and out of the range of their number. -/
theorem staged_run_ends_over_scattered_ids :
    let pair : StorePair := .shared "statements" "records" (by decide)
    let embedder : Embedder Unit := HashEmbedder.embed ⟨4⟩
    let scattered : pair.State :=
      [⟨"0", "stale", []⟩, ⟨"7", "stale", []⟩].foldl (Database.insertOrReplace "statements")
        Database.empty
    ∃ course result final after,
      (∀ other otherFinal, Takes embedder viewText () other otherFinal ↔
          other = course ∧ otherFinal = final) ∧
        ((pair.indexer embedder .staged).run viewText).perform ((), scattered) =
          (result, (final, after)) ∧
        course.AllNumbered ∧
        course.Ends viewText .staged (pair.contents scattered) result
          (pair.contents after) := by
  intro pair embedder scattered
  have swaps : pair.Swaps := ⟨trivial, trivial⟩
  exact staged_run_ends swaps embedder viewText () scattered

/-! ## What a failed staged run keeps -/

/--
A failed staged run keeps the records, as the embedder never waits and the records are the last to
be committed.  It keeps the statements too exactly if they are the ones that were embedded before
the records failed, or if the run failed before that.
-/
theorem failed_staged_run_keeps_iff
    {embedder : Embedder embedding}
    {text : String}
    {initial final : embedding}
    {state after : pair.State}
    {error : Error}
    (swaps : pair.Swaps)
    (failed : ((pair.indexer embedder .staged).run text).perform (initial, state) =
      (.error error, (final, after))) :
    (pair.contents after).2 = (pair.contents state).2 ∧
      ((∀ id, (pair.contents after).1.find? id = (pair.contents state).1.find? id) ↔
        ∀ statements, Takes embedder text initial (.withoutRecords statements error) final →
          (pair.contents state).1.Holds statements) := by
  rcases Takes.exists_course embedder text initial with ⟨course, courseFinal, takes⟩
  rcases exists_run_of_swaps .staged swaps takes state nofun with ⟨result, courseAfter, ran, ends⟩
  rcases Prod.mk.inj (failed.symm.trans ran) with ⟨rfl, sameWorld⟩
  rcases Prod.mk.inj sameWorld with ⟨rfl, rfl⟩
  rcases ends.of_error with ⟨early, kept⟩ | ⟨statements, rfl, stored, viewsKept⟩
  · rw [kept]
    refine ⟨rfl, ?_, fun _ _ => rfl⟩
    intro _ statements otherTakes
    exact absurd (takes.unique otherTakes).1 (early statements)
  · refine ⟨viewsKept, ?_⟩
    rw [← stored.iff_find?_eq]
    constructor
    · intro held others otherTakes
      obtain ⟨rfl, _⟩ := Course.withoutRecords.inj (takes.unique otherTakes).1
      exact held
    · intro held
      exact held statements takes

/-- The statement of the view is embedded and stored, and its record is refused. -/
theorem run_onceOnly (ddl views : Memory) :
    (((StorePair.apart .memory .memory).indexer onceOnly .staged).run viewText).perform
        (0, (ddl, views)) =
      (.error (.embedding (.refused "rate limited")),
        (2, (Memory.empty.put ⟨viewStatement.id, viewStatement.content, []⟩, views))) := by
  rw [Indexer.perform_run_of_valid validate_viewText]
  rfl

/-- A stale statement is gone once the record of the view is refused. -/
theorem failed_staged_run_keeps_iff_of_refused_records :
    let pair : StorePair := .apart .memory .memory
    let stale : pair.State := (Memory.empty.put ⟨"7", "stale", []⟩, Memory.empty)
    ∃ after,
      ((pair.indexer onceOnly .staged).run viewText).perform (0, stale) =
          (.error (.embedding (.refused "rate limited")), (2, after)) ∧
        (pair.contents after).2 = (pair.contents stale).2 ∧
        ((∀ id, (pair.contents after).1.find? id = (pair.contents stale).1.find? id) ↔
          ∀ statements,
            Takes onceOnly viewText 0
                (.withoutRecords statements (.embedding (.refused "rate limited"))) 2 →
              (pair.contents stale).1.Holds statements) := by
  intro pair stale
  have swaps : pair.Swaps := ⟨trivial, trivial⟩
  exact ⟨_, run_onceOnly _ _, failed_staged_run_keeps_iff swaps (run_onceOnly _ _)⟩

/-- The statements are replaced although the run fails. -/
theorem failed_staged_run_replaces_statements :
    let pair : StorePair := .apart .memory .memory
    let stale : pair.State :=
      (Memory.empty.put ⟨"0", "stale", []⟩, Memory.empty.put ⟨"0", "stale", []⟩)
    ∃ error final after,
      ((pair.indexer onceOnly .staged).run viewText).perform (0, stale) =
          (.error error, (final, after)) ∧
        (pair.contents after).1.find? "0" ≠ (pair.contents stale).1.find? "0" := by
  intro pair stale
  exact ⟨_, _, _, run_onceOnly _ _, by decide⟩

/-! ## Clearing runs -/

/--
Over contiguous collections a clearing run whose embedder never waits takes exactly one course and
ends the way of that course, with its batches numbered in emission order.
-/
theorem clearing_run_ends
    (swaps : pair.Swaps)
    (embedder : Embedder embedding)
    (text : String)
    (initial : embedding)
    (state : pair.State)
    (ddlContiguous : (pair.contents state).1.Contiguous)
    (viewsContiguous : (pair.contents state).2.Contiguous) :
    ∃ course result final after,
      (∀ other otherFinal, Takes embedder text initial other otherFinal ↔
          other = course ∧ otherFinal = final) ∧
        ((pair.indexer embedder .clearThenWrite).run text).perform (initial, state) =
          (result, (final, after)) ∧
        course.AllNumbered ∧
        course.Ends text .clearThenWrite (pair.contents state) result (pair.contents after) := by
  rcases Takes.exists_course embedder text initial with ⟨course, final, takes⟩
  have contiguous (_ : SyncMode.clearThenWrite = .clearThenWrite) :
      (pair.contents state).1.Contiguous ∧ (pair.contents state).2.Contiguous :=
    ⟨ddlContiguous, viewsContiguous⟩
  rcases exists_run_of_swaps .clearThenWrite swaps takes state contiguous with
    ⟨result, after, ran, ends⟩
  exact ⟨course, result, final, after, takes.iff_eq, ran, takes.numbered, ends⟩

end StorePair

end SemanticIndex
