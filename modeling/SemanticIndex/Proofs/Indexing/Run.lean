import SemanticIndex.Proofs.Indexing.Course
import SemanticIndex.Proofs.Indexing.StorePair

/-!
# Runs over tables

A run is followed through its stages on the contents of its stores.  When both stores bring a
replacing operation of their own, the course of the run and the contents after its preparation
decide what it leaves.
-/

namespace SemanticIndex

variable {embedding : Type}

namespace Indexer

variable {stores : Type} {indexer : Indexer embedding stores}
variable {text : String} {manifest : Manifest}

/-- What a run does with the manifest in its text once the collections are prepared. -/
def branches
    (indexer : Indexer embedding stores)
    (text : String)
    (manifest : Manifest) : Action (embedding × stores) Report := do
  let ddlDocuments ← indexer.branch indexer.ddl manifest.compile
  let viewDocuments ← indexer.branch indexer.views (.ok (viewDocuments manifest.views))
  return ⟨ddlDocuments, viewDocuments, Sha256.hexadecimal (Sha256.ofText text), indexer.mode⟩

theorem perform_run_of_invalid
    {error : Error}
    (unread : Manifest.validate text = .error error)
    (world : embedding × stores) :
    (indexer.run text).perform world = (.error error, world) := by
  rw [run, unread]
  rfl

theorem perform_run_of_valid
    (valid : Manifest.validate text = .ok manifest)
    (world : embedding × stores) :
    (indexer.run text).perform world =
      (indexer.prepare >>= fun _ => indexer.branches text manifest).perform world := by
  rw [run, valid]
  exact Action.perform_bind_of_ok rfl _

theorem perform_branch_of_failed
    (indexer : Indexer embedding stores)
    {initial final : embedding}
    {batch : List Document}
    {error : Error}
    (failed : Answers indexer.embedder initial batch (.error error) final)
    (store : Store stores)
    (state : stores) :
    (indexer.branch store (.ok batch)).perform (initial, state) =
      (.error error, (final, state)) := by
  have embedded : (embedBatch indexer.embedder batch).onFirst.perform (initial, state) =
      (.error error, (final, state)) := by
    rw [Action.perform_onFirst, failed.perform_embedBatch]
  rw [branch]
  exact (Action.perform_bind_of_ok rfl _).trans (Action.perform_bind_of_error embedded _)

theorem perform_branch_of_embedded
    (indexer : Indexer embedding stores)
    {initial final : embedding}
    {batch : List Document}
    {documents : List EmbeddedDocument}
    (answers : Answers indexer.embedder initial batch (.ok documents) final)
    (store : Store stores)
    (state : stores) :
    (indexer.branch store (.ok batch)).perform (initial, state) =
      (store.commit documents indexer.mode).onSecond.perform (final, state) := by
  have embedded : (embedBatch indexer.embedder batch).onFirst.perform (initial, state) =
      (.ok documents, (final, state)) := by
    rw [Action.perform_onFirst, answers.perform_embedBatch]
  rw [branch]
  exact (Action.perform_bind_of_ok rfl _).trans (Action.perform_bind_of_ok embedded _)

end Indexer

/-! ## Preparation over tables -/

namespace StorePair

variable {pair : StorePair} {embedder : Embedder embedding} {mode : SyncMode}
variable {initial : embedding} {contents : Contents × Contents}

/-- In the clearing mode both collections are cleared, the statements first. -/
theorem perform_prepare
    (pair : StorePair)
    (initial : embedding)
    (contents : Contents × Contents) :
    (pair.modelTargets .clearThenWrite).prepare.perform (initial, contents) =
      match pair.ddlBackend.model.clear.perform contents.1 with
      | (.error error, ddl) => (.error error, (initial, (ddl, contents.2)))
      | (.ok _, ddl) =>
        match pair.viewBackend.model.clear.perform contents.2 with
        | (.error error, views) => (.error error, (initial, (ddl, views)))
        | (.ok _, views) => (.ok (), (initial, (ddl, views))) := by
  have ddlClear : (pair.ddlBackend.model.onFirst.clear : Action (Contents × Contents) Nat) =
      pair.ddlBackend.model.clear.onFirst :=
    Store.clear_onFirst _
  have viewClear : (pair.viewBackend.model.onSecond.clear : Action (Contents × Contents) Nat) =
      pair.viewBackend.model.clear.onSecond :=
    Store.clear_onSecond _
  change Action.perform
    (pair.ddlBackend.model.onFirst.clear.onSecond >>= fun _ =>
      pair.viewBackend.model.onSecond.clear.onSecond >>= fun _ => pure ()) _ = _
  rw [ddlClear, viewClear, Action.perform_bind]
  simp only [Action.perform_onSecond, Action.perform_onFirst]
  rcases pair.ddlBackend.model.clear.perform contents.1 with ⟨ddlOutcome, ddl⟩
  cases ddlOutcome with
  | error error => rfl
  | ok ddlCount =>
    simp only [Action.perform_bind, Action.perform_onSecond]
    rcases pair.viewBackend.model.clear.perform contents.2 with ⟨viewOutcome, views⟩
    cases viewOutcome <;> rfl

/--
Preparing contiguous collections leaves both contiguous.  Unless a clearing fails, both are empty
in the mode that clears them.
-/
theorem prepare_of_contiguous
    (pair : StorePair)
    (mode : SyncMode)
    (initial : embedding)
    (ddlContiguous : contents.1.Contiguous)
    (viewsContiguous : contents.2.Contiguous) :
    ∃ result after,
      (pair.modelTargets mode).prepare.perform (initial, contents) =
          (result, (initial, after)) ∧
        after.1.Contiguous ∧ after.2.Contiguous ∧
          (result = .ok () → mode = .clearThenWrite → after = (.empty, .empty)) := by
  cases mode with
  | staged => exact ⟨.ok (), contents, rfl, ddlContiguous, viewsContiguous, nofun⟩
  | clearThenWrite =>
    rw [perform_prepare]
    rcases Backend.clear_of_contiguous pair.ddlBackend ddlContiguous with
      ⟨ddlCount, ddlClears⟩ | ⟨error, ddlFails⟩
    · rcases Backend.clear_of_contiguous pair.viewBackend viewsContiguous with
        ⟨viewCount, viewsClear⟩ | ⟨error, viewsFail⟩
      · rw [ddlClears, viewsClear]
        exact ⟨.ok (), (.empty, .empty), rfl, Contents.contiguous_empty,
          Contents.contiguous_empty, fun _ _ => rfl⟩
      · rw [ddlClears, viewsFail]
        exact ⟨.error error, (.empty, contents.2), rfl, Contents.contiguous_empty,
          viewsContiguous, nofun⟩
    · rw [ddlFails]
      exact ⟨.error error, contents, rfl, ddlContiguous, viewsContiguous, nofun⟩

/-- What a run works on once it has prepared collections that it is able to clear. -/
def prepared (mode : SyncMode) (before : Contents × Contents) : Contents × Contents :=
  match mode with
  | .staged => before
  | .clearThenWrite => (.empty, .empty)

/-- Stores with replacing operations of their own are prepared without failure. -/
theorem prepare_of_swaps
    (swaps : pair.Swaps)
    (mode : SyncMode)
    (initial : embedding)
    (contiguous : mode = .clearThenWrite → contents.1.Contiguous ∧ contents.2.Contiguous) :
    (pair.modelTargets mode).prepare.perform (initial, contents) =
      (.ok (), (initial, prepared mode contents)) := by
  cases mode with
  | staged => rfl
  | clearThenWrite =>
    rcases contiguous rfl with ⟨ddlContiguous, viewsContiguous⟩
    rw [perform_prepare, Backend.clear_of_swaps swaps.1 ddlContiguous,
      Backend.clear_of_swaps swaps.2 viewsContiguous]
    rfl

/-! ## Branches over tables -/

section Branch

variable {batch : List Document} {documents : List EmbeddedDocument} {final : embedding}

theorem perform_ddlBranch
    (pair : StorePair)
    (mode : SyncMode)
    (answers : Answers embedder initial batch (.ok documents) final)
    (contents : Contents × Contents) :
    ((pair.model embedder mode).branch pair.ddlBackend.model.onFirst (.ok batch)).perform
        (initial, contents) =
      (((pair.ddlBackend.model.commit documents mode).perform contents.1).1,
        (final, (((pair.ddlBackend.model.commit documents mode).perform contents.1).2,
          contents.2))) := by
  have branched := (pair.model embedder mode).perform_branch_of_embedded
    answers pair.ddlBackend.model.onFirst contents
  rw [branched, Store.commit_onFirst]
  rfl

theorem perform_viewBranch
    (pair : StorePair)
    (mode : SyncMode)
    (answers : Answers embedder initial batch (.ok documents) final)
    (contents : Contents × Contents) :
    ((pair.model embedder mode).branch pair.viewBackend.model.onSecond (.ok batch)).perform
        (initial, contents) =
      (((pair.viewBackend.model.commit documents mode).perform contents.2).1,
        (final, (contents.1,
          ((pair.viewBackend.model.commit documents mode).perform contents.2).2))) := by
  have branched := (pair.model embedder mode).perform_branch_of_embedded
    answers pair.viewBackend.model.onSecond contents
  rw [branched, Store.commit_onSecond]
  rfl

end Branch

end StorePair

/-! ## Outcomes -/

/-- The report of a run that has embedded both batches. -/
def reportOf
    (text : String)
    (mode : SyncMode)
    (statements records : List EmbeddedDocument) : Report :=
  ⟨statements.length, records.length, Sha256.hexadecimal (Sha256.ofText text), mode⟩

/--
How a run ends, by its course: with its report or the error of the step that failed, and with each
collection as it was, as it was prepared, or holding exactly the new batch.
-/
def Course.Ends
    (text : String)
    (mode : SyncMode)
    (before : Contents × Contents)
    (result : Except Error Report)
    (after : Contents × Contents) :
    Course → Prop
  | .invalid error => result = .error error ∧ after = before
  | .withoutStatements error => result = .error error ∧ after = StorePair.prepared mode before
  | .withoutRecords statements error =>
    result = .error error ∧ after.1.Holds statements ∧
      after.2 = (StorePair.prepared mode before).2
  | .complete statements records =>
    result = .ok (reportOf text mode statements records) ∧
      after.1.Holds statements ∧ after.2.Holds records

/-- What a run returns, by its course: its report or the error of the step that failed. -/
def Course.result (text : String) (mode : SyncMode) : Course → Except Error Report
  | .invalid error => .error error
  | .withoutStatements error => .error error
  | .withoutRecords _ error => .error error
  | .complete statements records => .ok (reportOf text mode statements records)

/--
What a run leaves, by its course, in collections that it has prepared: what was there before, what
was prepared, or contents in which a new batch is stored.
-/
def Course.Leaves
    (stored : List EmbeddedDocument → Contents → Prop)
    (before prepared after : Contents × Contents) :
    Course → Prop
  | .invalid _ => after = before
  | .withoutStatements _ => after = prepared
  | .withoutRecords statements _ => stored statements after.1 ∧ after.2 = prepared.2
  | .complete statements records => stored statements after.1 ∧ stored records after.2

theorem Course.Leaves.ends
    {course : Course}
    {mode : SyncMode}
    {before after : Contents × Contents}
    (leaves : course.Leaves (fun documents contents => contents.Holds documents) before
      (StorePair.prepared mode before) after)
    (text : String) :
    course.Ends text mode before (course.result text mode) after := by
  cases course with
  | invalid error => exact ⟨rfl, leaves⟩
  | withoutStatements error => exact ⟨rfl, leaves⟩
  | withoutRecords statements error => exact ⟨rfl, leaves⟩
  | complete statements records => exact ⟨rfl, leaves⟩

/-- Committing a batch with positional ids to some contents succeeds and stores the batch. -/
def Backend.Commits
    (backend : Backend)
    (mode : SyncMode)
    (stored : List EmbeddedDocument → Contents → Prop)
    (contents : Contents) : Prop :=
  ∀ documents, Numbered documents →
    ∃ final, (backend.model.commit documents mode).perform contents =
        (.ok documents.length, final) ∧
      stored documents final

/-- A failed staged run has changed nothing, or has replaced the statements and nothing else. -/
theorem Course.Ends.of_error
    {course : Course}
    {text : String}
    {before after : Contents × Contents}
    {error : Error}
    (ends : course.Ends text .staged before (.error error) after) :
    ((∀ statements, course ≠ .withoutRecords statements error) ∧ after = before) ∨
      ∃ statements, course = .withoutRecords statements error ∧
        after.1.Holds statements ∧ after.2 = before.2 := by
  cases course with
  | invalid cause => exact .inl ⟨nofun, ends.2⟩
  | withoutStatements cause => exact .inl ⟨nofun, ends.2⟩
  | withoutRecords statements cause =>
    obtain rfl := Except.error.inj ends.1
    exact .inr ⟨statements, rfl, ends.2⟩
  | complete statements records => exact nomatch ends.1

namespace StorePair

variable {pair : StorePair} {embedder : Embedder embedding} {mode : SyncMode} {text : String}
variable {initial final : embedding} {course : Course}

/--
Once collections are prepared and take every batch with positional ids, a run returns what its
course says and leaves each collection the way of that course.
-/
theorem perform_model_run_of_commits
    {stored : List EmbeddedDocument → Contents → Prop}
    {before prepared : Contents × Contents}
    (prepares : (pair.model embedder mode).prepare.perform (initial, before) =
      (.ok (), (initial, prepared)))
    (ddlCommits : pair.ddlBackend.Commits mode stored prepared.1)
    (viewsCommit : pair.viewBackend.Commits mode stored prepared.2)
    (takes : Takes embedder text initial course final) :
    ∃ after,
      ((pair.model embedder mode).run text).perform (initial, before) =
          (course.result text mode, (final, after)) ∧
        course.Leaves stored before prepared after := by
  have numbered := takes.numbered
  cases takes with
  | invalid unread => exact ⟨_, Indexer.perform_run_of_invalid unread _, rfl⟩
  | uncompiled valid failed =>
    rw [Indexer.perform_run_of_valid valid, Action.perform_bind_of_ok prepares, Indexer.branches,
      failed]
    exact ⟨_, rfl, rfl⟩
  | unembedded valid compiled failed =>
    have branched := (pair.model embedder mode).perform_branch_of_failed
      failed pair.ddlBackend.model.onFirst prepared
    rw [Indexer.perform_run_of_valid valid, Action.perform_bind_of_ok prepares, Indexer.branches,
      compiled]
    exact ⟨_, Action.perform_bind_of_error branched _, rfl⟩
  | @withoutRecords manifest batch statements error middle _ valid compiled embedded failed =>
    rcases ddlCommits statements numbered with ⟨ddl, ddlCommitted, ddlStored⟩
    have ddlBranched := pair.perform_ddlBranch mode embedded prepared
    rw [ddlCommitted] at ddlBranched
    have viewsBranched := (pair.model embedder mode).perform_branch_of_failed
      failed pair.viewBackend.model.onSecond (ddl, prepared.2)
    rw [Indexer.perform_run_of_valid valid, Action.perform_bind_of_ok prepares, Indexer.branches,
      compiled]
    exact ⟨_, (Action.perform_bind_of_ok ddlBranched _).trans
      (Action.perform_bind_of_error viewsBranched _), ddlStored, rfl⟩
  | @complete manifest batch statements records middle _ valid compiled embedded recordsEmbedded =>
    rcases ddlCommits statements numbered.1 with ⟨ddl, ddlCommitted, ddlStored⟩
    rcases viewsCommit records numbered.2 with ⟨views, viewsCommitted, viewsStored⟩
    have ddlBranched := pair.perform_ddlBranch mode embedded prepared
    rw [ddlCommitted] at ddlBranched
    have viewsBranched := pair.perform_viewBranch mode recordsEmbedded (ddl, prepared.2)
    rw [viewsCommitted] at viewsBranched
    rw [Indexer.perform_run_of_valid valid, Action.perform_bind_of_ok prepares, Indexer.branches,
      compiled]
    exact ⟨_, (Action.perform_bind_of_ok ddlBranched _).trans
      (Action.perform_bind_of_ok viewsBranched _), ddlStored, viewsStored⟩

theorem commits_of_swaps
    {backend : Backend}
    {contents : Contents}
    (swaps : backend.Swaps)
    (cleared : mode = .clearThenWrite → contents = .empty) :
    backend.Commits mode (fun documents contents => contents.Holds documents) contents := by
  intro documents numbered
  exact ⟨_, Backend.commit_of_swaps swaps numbered.distinct cleared,
    Contents.holds_ofDocuments numbered.distinct⟩

/-- Over tables with replacing operations of their own, a run ends the way of its course. -/
theorem perform_model_run
    {before : Contents × Contents}
    (swaps : pair.Swaps)
    (takes : Takes embedder text initial course final)
    (contiguous : mode = .clearThenWrite → before.1.Contiguous ∧ before.2.Contiguous) :
    ∃ result after,
      ((pair.model embedder mode).run text).perform (initial, before) =
          (result, (final, after)) ∧
        course.Ends text mode before result after := by
  have prepares := prepare_of_swaps swaps mode initial contiguous
  have ddlCleared (clears : mode = .clearThenWrite) : (prepared mode before).1 = .empty := by
    rw [clears]
    rfl
  have viewsCleared (clears : mode = .clearThenWrite) : (prepared mode before).2 = .empty := by
    rw [clears]
    rfl
  have ran := perform_model_run_of_commits prepares (commits_of_swaps swaps.1 ddlCleared)
    (commits_of_swaps swaps.2 viewsCleared) takes
  rcases ran with ⟨after, performs, leaves⟩
  exact ⟨_, after, performs, leaves.ends text⟩

/-- What a run over tables does, the run over the stores themselves does to their contents. -/
theorem exists_run_of_model
    {result : Except Error Report}
    {state : pair.State}
    {after : Contents × Contents}
    (ran : ((pair.model embedder mode).run text).perform (initial, pair.contents state) =
      (result, (final, after))) :
    ∃ afterState,
      ((pair.indexer embedder mode).run text).perform (initial, state) =
          (result, (final, afterState)) ∧
        pair.contents afterState = after := by
  have follows := (pair.run_follows embedder mode text (initial, state)).symm.trans ran
  rcases run : ((pair.indexer embedder mode).run text).perform (initial, state) with
    ⟨actual, actualFinal, afterState⟩
  rw [run] at follows
  rcases Prod.mk.inj follows with ⟨sameResult, sameWorld⟩
  rcases Prod.mk.inj sameWorld with ⟨sameFinal, sameContents⟩
  obtain rfl : actual = result := sameResult
  obtain rfl : actualFinal = final := sameFinal
  exact ⟨afterState, rfl, sameContents⟩

/-- Over stores with replacing operations of their own, a run ends the way of its course. -/
theorem exists_run_of_swaps
    (mode : SyncMode)
    (swaps : pair.Swaps)
    (takes : Takes embedder text initial course final)
    (state : pair.State)
    (contiguous : mode = .clearThenWrite →
      (pair.contents state).1.Contiguous ∧ (pair.contents state).2.Contiguous) :
    ∃ result after,
      ((pair.indexer embedder mode).run text).perform (initial, state) =
          (result, (final, after)) ∧
        course.Ends text mode (pair.contents state) result (pair.contents after) := by
  rcases perform_model_run swaps takes contiguous with ⟨result, after, modelRan, ends⟩
  rcases exists_run_of_model modelRan with ⟨afterState, ran, rfl⟩
  exact ⟨result, afterState, ran, ends⟩

end StorePair

end SemanticIndex
