import SemanticIndex.Embedding.Hashing
import SemanticIndex.Proofs.Indexing.Run

/-!
# Repeated runs

Every run leaves both collections contiguous, however it ends, so the next run that clears them
finds nothing but positional ids.  By induction no number of earlier runs can leave a document
behind: a successful run is always described by its own two batches.  The embedder of these runs
never waits.
-/

namespace SemanticIndex

variable {embedding : Type} {embedder : Embedder embedding} {mode : SyncMode}
variable {text : String} {initial final : embedding}

/-- The embedder and the stores after runs over texts, one after the other. -/
def Indexer.after
    {stores : Type}
    (indexer : Indexer embedding stores)
    (texts : List String)
    (world : embedding × stores) : embedding × stores :=
  texts.foldl (fun world text => ((indexer.run text).perform world).2) world

/--
A run leaves both collections contiguous, and after a success they hold exactly the two batches
that the embedder answered with, numbered in emission order.
-/
structure Settled
    (embedder : Embedder embedding)
    (mode : SyncMode)
    (text : String)
    (initial : embedding)
    (result : Except Error Report)
    (final : embedding)
    (after : Contents × Contents) : Prop where
  ddlContiguous : after.1.Contiguous
  viewsContiguous : after.2.Contiguous
  stored : ∀ report, result = .ok report →
    ∃ statements records,
      Takes embedder text initial (.complete statements records) final ∧
        report = reportOf text mode statements records ∧
        Numbered statements ∧ after.1.Holds statements ∧
        Numbered records ∧ after.2.Holds records

namespace Settled

theorem of_error
    {error : Error}
    {after : Contents × Contents}
    (ddlContiguous : after.1.Contiguous)
    (viewsContiguous : after.2.Contiguous) :
    Settled embedder mode text initial (.error error) final after :=
  ⟨ddlContiguous, viewsContiguous, nofun⟩

theorem of_complete
    {statements records : List EmbeddedDocument}
    (takes : Takes embedder text initial (.complete statements records) final) :
    Settled embedder mode text initial (.ok (reportOf text mode statements records)) final
      (.ofDocuments statements, .ofDocuments records) := by
  rcases takes.numbered with ⟨statementsNumbered, recordsNumbered⟩
  constructor
  · exact Contents.contiguous_ofDocuments statementsNumbered
  · exact Contents.contiguous_ofDocuments recordsNumbered
  · intro report succeeded
    exact ⟨statements, records, takes, (Except.ok.inj succeeded).symm, statementsNumbered,
      Contents.holds_ofDocuments statementsNumbered.distinct, recordsNumbered,
      Contents.holds_ofDocuments recordsNumbered.distinct⟩

end Settled

/-! ## Branches that may fail -/

/--
A branch over a contiguous table stores the batch it has embedded, or it fails and leaves the
table contiguous.
-/
inductive BranchEnds
    (embedder : Embedder embedding)
    (batch : List Document)
    (initial : embedding) :
    Except Error Nat → embedding → Contents → Prop where
  | stored
      {documents : List EmbeddedDocument}
      {final : embedding}
      (embedded : Answers embedder initial batch (.ok documents) final) :
      BranchEnds embedder batch initial (.ok documents.length) final (.ofDocuments documents)
  | stopped
      {error : Error}
      {final : embedding}
      {contents : Contents}
      (contiguous : contents.Contiguous) :
      BranchEnds embedder batch initial (.error error) final contents

/-- Committing what was embedded to a contiguous table ends the branch. -/
theorem Backend.commit_ends
    (backend : Backend)
    {batch : List Document}
    {documents : List EmbeddedDocument}
    {contents : Contents}
    (batchNumbered : batch.map (·.id) = positions batch.length)
    (answers : Answers embedder initial batch (.ok documents) final)
    (contiguous : contents.Contiguous)
    (cleared : mode = .clearThenWrite → contents = .empty) :
    BranchEnds embedder batch initial
      ((backend.model.commit documents mode).perform contents).1 final
      ((backend.model.commit documents mode).perform contents).2 := by
  have numbered := answers.numbered batchNumbered
  rcases backend.commit_of_contiguous numbered contiguous cleared with
    committed | ⟨error, after, refused, kept⟩
  · rw [committed]
    exact .stored answers
  · rw [refused]
    exact .stopped kept

namespace StorePair

section Branch

variable {batch : List Document} (batchNumbered : batch.map (·.id) = positions batch.length)
variable {contents : Contents × Contents}

include batchNumbered

theorem perform_ddlBranch_of_contiguous
    (pair : StorePair)
    (embedder : Embedder embedding)
    (mode : SyncMode)
    (initial : embedding)
    (contiguous : contents.1.Contiguous)
    (cleared : mode = .clearThenWrite → contents.1 = .empty) :
    ∃ result final ddl,
      ((pair.model embedder mode).branch pair.ddlBackend.model.onFirst (.ok batch)).perform
          (initial, contents) = (result, (final, (ddl, contents.2))) ∧
        BranchEnds embedder batch initial result final ddl := by
  rcases Answers.of_embedBatch embedder initial batch with ⟨answer, final, answers⟩
  cases answer with
  | error error =>
    have branched := (pair.model embedder mode).perform_branch_of_failed
      answers pair.ddlBackend.model.onFirst contents
    exact ⟨_, _, _, branched, .stopped contiguous⟩
  | ok documents =>
    have branched := pair.perform_ddlBranch mode answers contents
    have ends := pair.ddlBackend.commit_ends batchNumbered answers contiguous cleared
    exact ⟨_, _, _, branched, ends⟩

theorem perform_viewBranch_of_contiguous
    (pair : StorePair)
    (embedder : Embedder embedding)
    (mode : SyncMode)
    (initial : embedding)
    (contiguous : contents.2.Contiguous)
    (cleared : mode = .clearThenWrite → contents.2 = .empty) :
    ∃ result final views,
      ((pair.model embedder mode).branch pair.viewBackend.model.onSecond (.ok batch)).perform
          (initial, contents) = (result, (final, (contents.1, views))) ∧
        BranchEnds embedder batch initial result final views := by
  rcases Answers.of_embedBatch embedder initial batch with ⟨answer, final, answers⟩
  cases answer with
  | error error =>
    have branched := (pair.model embedder mode).perform_branch_of_failed
      answers pair.viewBackend.model.onSecond contents
    exact ⟨_, _, _, branched, .stopped contiguous⟩
  | ok documents =>
    have branched := pair.perform_viewBranch mode answers contents
    have ends := pair.viewBackend.commit_ends batchNumbered answers contiguous cleared
    exact ⟨_, _, _, branched, ends⟩

end Branch

/-! ## One run -/

/-- The branches settle over prepared contiguous tables, whatever the stores refuse. -/
theorem perform_branches_settled
    (pair : StorePair)
    (embedder : Embedder embedding)
    (initial : embedding)
    {manifest : Manifest}
    {prepared : Contents × Contents}
    (valid : Manifest.validate text = .ok manifest)
    (ddlContiguous : prepared.1.Contiguous)
    (viewsContiguous : prepared.2.Contiguous)
    (cleared : mode = .clearThenWrite → prepared = (.empty, .empty)) :
    ∃ result final after,
      ((pair.model embedder mode).branches text manifest).perform (initial, prepared) =
          (result, (final, after)) ∧
        Settled embedder mode text initial result final after := by
  rw [Indexer.branches]
  cases compiled : manifest.compile with
  | error error =>
    exact ⟨.error error, initial, prepared, rfl, .of_error ddlContiguous viewsContiguous⟩
  | ok batch =>
    have batchNumbered := Manifest.ids_of_compile compiled
    obtain ⟨result, middle, ddl, branched, ddlEnds⟩ :=
      perform_ddlBranch_of_contiguous batchNumbered pair embedder mode initial ddlContiguous
        fun clears => congrArg Prod.fst (cleared clears)
    cases ddlEnds with
    | stopped kept =>
      exact ⟨_, _, _, Action.perform_bind_of_error branched _, .of_error kept viewsContiguous⟩
    | @stored statements _ embedded =>
      have stored := Contents.contiguous_ofDocuments (embedded.numbered batchNumbered)
      obtain ⟨result, final, views, viewsBranched, viewsEnds⟩ :=
        @perform_viewBranch_of_contiguous _ _ (Document.ids_sequence _)
          (.ofDocuments statements, prepared.2) pair embedder mode middle viewsContiguous
          fun clears => congrArg Prod.snd (cleared clears)
      cases viewsEnds with
      | stopped kept =>
        exact ⟨_, _, _, (Action.perform_bind_of_ok branched _).trans
          (Action.perform_bind_of_error viewsBranched _), .of_error stored kept⟩
      | @stored records _ recordsEmbedded =>
        have takes : Takes embedder text initial (.complete statements records) final :=
          .complete valid compiled embedded recordsEmbedded
        exact ⟨_, _, _, (Action.perform_bind_of_ok branched _).trans
          (Action.perform_bind_of_ok viewsBranched _), .of_complete takes⟩

/-- A run over contiguous tables settles, wherever it ends. -/
theorem perform_model_run_settled
    (pair : StorePair)
    (embedder : Embedder embedding)
    (mode : SyncMode)
    (text : String)
    (initial : embedding)
    {before : Contents × Contents}
    (ddlContiguous : before.1.Contiguous)
    (viewsContiguous : before.2.Contiguous) :
    ∃ result final after,
      ((pair.model embedder mode).run text).perform (initial, before) =
          (result, (final, after)) ∧
        Settled embedder mode text initial result final after := by
  cases valid : Manifest.validate text with
  | error error =>
    exact ⟨_, _, _, Indexer.perform_run_of_invalid valid _,
      .of_error ddlContiguous viewsContiguous⟩
  | ok manifest =>
    rcases prepare_of_contiguous pair mode initial ddlContiguous viewsContiguous with
      ⟨result, prepared, prepares, ddlPrepared, viewsPrepared, cleared⟩
    rw [Indexer.perform_run_of_valid valid]
    cases result with
    | error error =>
      exact ⟨_, _, _, Action.perform_bind_of_error prepares _,
        .of_error ddlPrepared viewsPrepared⟩
    | ok _ =>
      have settled := perform_branches_settled pair embedder initial valid ddlPrepared
        viewsPrepared (cleared rfl)
      rcases settled with ⟨result, final, after, branched, settled⟩
      exact ⟨result, final, after, (Action.perform_bind_of_ok prepares _).trans branched, settled⟩

variable {pair : StorePair}

/-- A run over contiguous stores settles. -/
theorem run_settled
    (embedder : Embedder embedding)
    (mode : SyncMode)
    (text : String)
    (initial : embedding)
    {state : pair.State}
    (ddlContiguous : (pair.contents state).1.Contiguous)
    (viewsContiguous : (pair.contents state).2.Contiguous) :
    ∃ result final after,
      ((pair.indexer embedder mode).run text).perform (initial, state) =
          (result, (final, after)) ∧
        Settled embedder mode text initial result final (pair.contents after) := by
  have modelSettled := perform_model_run_settled pair embedder mode text initial
    ddlContiguous viewsContiguous
  rcases modelSettled with ⟨result, final, after, modelRan, settled⟩
  rcases exists_run_of_model modelRan with ⟨afterState, ran, rfl⟩
  exact ⟨result, final, afterState, ran, settled⟩

/-! ## Any number of runs -/

/-- Runs over contiguous stores leave them contiguous, however many there are. -/
theorem contiguous_after
    (embedder : Embedder embedding)
    (mode : SyncMode)
    (texts : List String)
    (initial : embedding)
    {state : pair.State}
    (ddlContiguous : (pair.contents state).1.Contiguous)
    (viewsContiguous : (pair.contents state).2.Contiguous) :
    (pair.contents ((pair.indexer embedder mode).after texts (initial, state)).2).1.Contiguous ∧
      (pair.contents
        ((pair.indexer embedder mode).after texts (initial, state)).2).2.Contiguous := by
  induction texts generalizing initial state with
  | nil => exact ⟨ddlContiguous, viewsContiguous⟩
  | cons text rest induction =>
    rcases run_settled embedder mode text initial ddlContiguous viewsContiguous with
      ⟨result, final, after, ran, settled⟩
    rw [Indexer.after, List.foldl_cons, ran]
    exact induction final settled.ddlContiguous settled.viewsContiguous

/--
Every run of a sequence over contiguous stores settles, whatever the runs before it did and
however the embedder answered them.
-/
theorem run_settled_after_earlier_runs
    (pair : StorePair)
    (embedder : Embedder embedding)
    (mode : SyncMode)
    (initial : embedding)
    (state : pair.State)
    (ddlContiguous : (pair.contents state).1.Contiguous)
    (viewsContiguous : (pair.contents state).2.Contiguous)
    (earlier : List String)
    (text : String) :
    ∃ result final after,
      ((pair.indexer embedder mode).run text).perform
          ((pair.indexer embedder mode).after earlier (initial, state)) =
          (result, (final, after)) ∧
        Settled embedder mode text ((pair.indexer embedder mode).after earlier (initial, state)).1
          result final (pair.contents after) := by
  rcases contiguous_after embedder mode earlier initial ddlContiguous viewsContiguous with
    ⟨ddlKept, viewsKept⟩
  exact run_settled embedder mode text _ ddlKept viewsKept

/-- Two stale documents are kept in memory, beside a relay that refuses to write. -/
theorem run_settled_after_stale_documents :
    let pair : StorePair := .apart .memory (.relay fun operation => operation == .write)
    let embedder : Embedder Unit := HashEmbedder.embed ⟨4⟩
    let stale : pair.State :=
      (Memory.empty.putAll [⟨"0", "stale", []⟩, ⟨"1", "stale", []⟩], Memory.empty)
    let earlier :=
      (pair.indexer embedder .clearThenWrite).after ["not a manifest", viewText] ((), stale)
    ∃ result final after,
      ((pair.indexer embedder .clearThenWrite).run viewText).perform earlier =
          (result, (final, after)) ∧
        Settled embedder .clearThenWrite viewText earlier.1 result final (pair.contents after) := by
  intro pair embedder stale earlier
  have ddlContiguous : (pair.contents stale).1.Contiguous :=
    Contents.contiguous_of_keys_eq (by decide)
  have viewsContiguous : (pair.contents stale).2.Contiguous := Contents.contiguous_empty
  exact run_settled_after_earlier_runs pair embedder .clearThenWrite () stale ddlContiguous
    viewsContiguous ["not a manifest", viewText] viewText

end StorePair

end SemanticIndex
