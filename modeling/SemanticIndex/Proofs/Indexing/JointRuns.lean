import SemanticIndex.Proofs.Indexing.Turns

/-!
# Joint runs

A run whose branches may wait does to the stores what it does to tables.  It ends with the first
turn that fails, or after the last turn.  When the embedder never waits both branches are done
after their first turns, and the later turns change nothing: the run is that of an indexer that
has the records wait for the statements.
-/

namespace SemanticIndex

variable {embedding ticket : Type}

namespace JointIndexer

/-- Joint indexers that differ only in their collections do the same if the collections do. -/
theorem run_follows
    {first second : Type}
    {view : first → second}
    {indexer : JointIndexer embedding ticket first}
    {model : JointIndexer embedding ticket second}
    (sameService : indexer.service = model.service)
    (follows : Targets.Follows view indexer.toTargets model.toTargets)
    (text : String)
    (later : List Turn) :
    Action.Follows (Prod.map id view) (indexer.run text later) (model.run text later) := by
  have ofFollows (turn : Turn) : Store.Follows view (indexer.of turn) (model.of turn) := by
    cases turn with
    | ddl => exact follows.ddl
    | views => exact follows.views
  have advances (turn : Turn) (branch : Branch ticket) :
      Action.Follows (Prod.map id view)
        (branch.advance indexer.service (indexer.of turn) indexer.mode)
        (branch.advance model.service (model.of turn) model.mode) := by
    rw [Branch.advance, Branch.advance, follows.mode, sameService]
    apply ((Action.Follows.refl (branch.poll model.service)).onFirst view).bind
    intro progress
    cases progress with
    | stay next => exact .pure next
    | commit documents =>
      apply (((ofFollows turn).commit documents model.mode).onSecond id).bind
      intro count
      exact .pure _
  have takes (branches : Branches ticket) (turn : Turn) :
      Action.Follows (Prod.map id view) (indexer.take branches turn)
        (model.take branches turn) := by
    apply (advances turn (branches.of turn)).bind
    intro next
    exact .pure _
  have reports (branches : Branches ticket) :
      indexer.report? text branches = model.report? text branches := by
    unfold report?
    rw [follows.mode]
  apply (Action.Follows.ofExcept (Manifest.validate text)).bind
  intro manifest
  apply follows.prepare.bind
  intro _
  apply (Action.Follows.foldlM takes (Turn.schedule later) _).bind
  intro branches
  rw [reports]
  exact .pure _

variable {stores : Type}

theorem perform_run_of_invalid
    {text : String}
    {error : Error}
    (indexer : JointIndexer embedding ticket stores)
    (unread : Manifest.validate text = .error error)
    (later : List Turn)
    (world : embedding × stores) :
    (indexer.run text later).perform world = (.error error, world) := by
  rw [run, unread]
  rfl

theorem perform_run_of_valid
    {text : String}
    {manifest : Manifest}
    {world prepared : embedding × stores}
    (indexer : JointIndexer embedding ticket stores)
    (valid : Manifest.validate text = .ok manifest)
    (prepares : indexer.prepare.perform world = (.ok (), prepared))
    (later : List Turn) :
    (indexer.run text later).perform world =
      ((Turn.schedule later).foldlM indexer.take (.start manifest) >>= fun branches =>
        pure (indexer.report? text branches)).perform prepared := by
  rw [run, valid]
  exact (Action.perform_bind_of_ok rfl _).trans (Action.perform_bind_of_ok prepares _)

end JointIndexer

/-! ## Runs over pairs of stores -/

namespace StorePair

variable {pair : StorePair} {mode : SyncMode} {text : String}
variable {service : Service embedding ticket} {initial final : embedding}

/-- What a joint run over tables does, the run over the stores does to their contents. -/
theorem exists_joint_run_of_model
    {later : List Turn}
    {result : Except Error (Option Report)}
    {state : pair.State}
    {after : Contents × Contents}
    (ran : ((pair.jointModel service mode).run text later).perform
      (initial, pair.contents state) = (result, (final, after))) :
    ∃ afterState,
      ((pair.jointIndexer service mode).run text later).perform (initial, state) =
          (result, (final, afterState)) ∧
        pair.contents afterState = after := by
  have sameService :
      (pair.jointIndexer service mode).service = (pair.jointModel service mode).service :=
    rfl
  have follows := JointIndexer.run_follows sameService (pair.targets_follows mode) text later
  have same := (follows (initial, state)).symm.trans ran
  rcases run : ((pair.jointIndexer service mode).run text later).perform (initial, state) with
    ⟨actual, actualFinal, afterState⟩
  rw [run] at same
  rcases Prod.mk.inj same with ⟨sameResult, sameWorld⟩
  rcases Prod.mk.inj sameWorld with ⟨sameFinal, sameContents⟩
  obtain rfl : actual = result := sameResult
  obtain rfl : actualFinal = final := sameFinal
  exact ⟨afterState, rfl, sameContents⟩

/-- A run over a text that is no manifest does nothing. -/
theorem joint_run_of_invalid
    {error : Error}
    (unread : Manifest.validate text = .error error)
    (service : Service embedding ticket)
    (mode : SyncMode)
    (later : List Turn)
    (initial : embedding)
    (state : pair.State) :
    ((pair.jointIndexer service mode).run text later).perform (initial, state) =
      (.error error, (initial, state)) :=
  JointIndexer.perform_run_of_invalid _ unread later _

/--
A run over a manifest, with any later turns, ends with the first turn that fails or after the last
one.  Either way each collection is as it was prepared or holds exactly the new batch.
-/
theorem joint_run_of_valid
    {manifest : Manifest}
    (swaps : pair.Swaps)
    (valid : Manifest.validate text = .ok manifest)
    (service : Service embedding ticket)
    (later : List Turn)
    (initial : embedding)
    (state : pair.State)
    (contiguous : mode = .clearThenWrite →
      (pair.contents state).1.Contiguous ∧ (pair.contents state).2.Contiguous) :
    (∃ reached turn error final after,
        (Branches.start manifest).Stops service initial (Turn.schedule later) reached turn error
            final ∧
          ((pair.jointIndexer service mode).run text later).perform (initial, state) =
            (.error error, (final, after)) ∧
          reached.Stand manifest (prepared mode (pair.contents state)) (pair.contents after)) ∨
      ∃ reached final after,
        (Branches.start manifest).Reaches service initial (Turn.schedule later) reached final ∧
          ((pair.jointIndexer service mode).run text later).perform (initial, state) =
            (.ok ((pair.jointIndexer service mode).report? text reached), (final, after)) ∧
          reached.Stand manifest (prepared mode (pair.contents state)) (pair.contents after) := by
  have cleared (clears : mode = .clearThenWrite) :
      prepared mode (pair.contents state) = (.empty, .empty) := by
    rw [clears]
    rfl
  have prepares : (pair.jointModel service mode).prepare.perform
      (initial, pair.contents state) =
        (.ok (), (initial, prepared mode (pair.contents state))) :=
    prepare_of_swaps swaps mode initial contiguous
  have runs := (pair.jointModel service mode).perform_run_of_valid valid prepares later
  have stand : (Branches.start manifest : Branches ticket).Stand manifest
      (prepared mode (pair.contents state)) (prepared mode (pair.contents state)) :=
    Branches.stand_start manifest _
  rcases perform_turns swaps cleared stand (Turn.schedule later) service initial with
    ⟨reached, turn, error, final, after, stops, folded, reachedStand⟩ |
      ⟨reached, final, after, reaches, folded, reachedStand⟩
  · have ran := runs.trans (Action.perform_bind_of_error folded _)
    obtain ⟨afterState, stateRan, rfl⟩ := exists_joint_run_of_model ran
    exact .inl ⟨reached, turn, error, final, afterState, stops, stateRan, reachedStand⟩
  · have ran := runs.trans (Action.perform_bind_of_ok folded _)
    obtain ⟨afterState, stateRan, rfl⟩ := exists_joint_run_of_model ran
    exact .inr ⟨reached, final, afterState, reaches, stateRan, reachedStand⟩

end StorePair

/-! ## Embedders that never wait -/

namespace Indexer

variable {stores : Type} {text : String}

/-- The first poll of a branch fails where the guarded call of the embedder does. -/
theorem fails_of_answers
    {embedder : Embedder embedding}
    {initial final : embedding}
    {batch : List Document}
    {error : Error}
    (answers : Answers embedder initial batch (.error error) final) :
    (Branch.idle (.ok batch)).Fails embedder.service initial error final := by
  cases answers with
  | mismatched nonempty returned otherIds =>
    exact .mismatched (.sends nonempty) (Action.perform_bind_of_ok returned _) otherIds
  | failed nonempty returned =>
    exact .refused (.sends nonempty) (Action.perform_bind_of_error returned _)

/-- The first poll of a branch is ready where the guarded call of the embedder gives documents. -/
theorem perform_poll_of_answers
    {embedder : Embedder embedding}
    {initial final : embedding}
    {batch : List Document}
    {documents : List EmbeddedDocument}
    (answers : Answers embedder initial batch (.ok documents) final) :
    ((Branch.idle (.ok batch)).poll embedder.service).perform initial =
      (.ok (.commit documents), final) := by
  cases answers with
  | unasked => rfl
  | accepted nonempty returned sameIds =>
    have asks : (Branch.idle (.ok batch) : Branch Empty).Asks batch (.send batch) :=
      .sends nonempty
    have responded : (embedder.service (.send batch)).perform initial =
        (.ok (.ready documents), final) :=
      Action.perform_bind_of_ok returned _
    rw [asks.perform_poll, Action.perform_bind_of_ok responded, Branch.receive, acceptAnswer,
      if_pos sameIds]
    rfl

/-- The first turn of a branch does all that the branch does. -/
theorem perform_advance_idle
    (indexer : Indexer embedding stores)
    (store : Store stores)
    (batch : Except Error (List Document))
    (world : embedding × stores) :
    (∃ error after,
        (indexer.branch store batch).perform world = (.error error, after) ∧
          ((Branch.idle batch).advance indexer.embedder.service store indexer.mode).perform world =
            (.error error, after)) ∨
      ∃ documents count after,
        (indexer.branch store batch).perform world = (.ok count, after) ∧
          ((Branch.idle batch).advance indexer.embedder.service store indexer.mode).perform world =
            (.ok (.committed documents count), after) := by
  rcases world with ⟨initial, state⟩
  cases batch with
  | error error =>
    have fails :
        (Branch.idle (.error error)).Fails indexer.embedder.service initial error initial :=
      .uncompiled error
    exact .inl ⟨error, (initial, state), rfl, fails.perform_advance store indexer.mode state⟩
  | ok batch =>
    rcases Answers.of_embedBatch indexer.embedder initial batch with ⟨answer, final, answers⟩
    cases answer with
    | error error =>
      exact .inl ⟨error, (final, state), indexer.perform_branch_of_failed answers store state,
        (fails_of_answers answers).perform_advance store indexer.mode state⟩
    | ok documents =>
      have polled : ((Branch.idle (.ok batch)).poll indexer.embedder.service).onFirst.perform
          (initial, state) = (.ok (.commit documents), (final, state)) := by
        rw [Action.perform_onFirst, perform_poll_of_answers answers]
      rw [indexer.perform_branch_of_embedded answers store state, Branch.advance,
        Action.perform_bind_of_ok polled]
      rcases committed : (store.commit documents indexer.mode).onSecond.perform (final, state) with
        ⟨outcome, after⟩
      cases outcome with
      | error error =>
        exact .inl ⟨error, after, rfl, Action.perform_bind_of_error committed _⟩
      | ok count =>
        exact .inr ⟨documents, count, after, rfl, Action.perform_bind_of_ok committed _⟩

/-- Branches that are done stay as they are in every further turn. -/
theorem perform_turns_of_committed
    (indexer : Indexer embedding stores)
    (turns : List Turn)
    (statements records : List EmbeddedDocument)
    (statementCount recordCount : Nat)
    (world : embedding × stores) :
    (turns.foldlM indexer.joint.take
        ⟨.committed statements statementCount, .committed records recordCount⟩).perform world =
      (.ok ⟨.committed statements statementCount, .committed records recordCount⟩, world) := by
  induction turns with
  | nil => rfl
  | cons turn rest induction =>
    rw [List.foldlM_cons]
    cases turn with
    | ddl => exact (Action.perform_bind_of_ok rfl _).trans induction
    | views => exact (Action.perform_bind_of_ok rfl _).trans induction

/-- Taking turns, the branches over a manifest do what they do one after the other. -/
theorem perform_joint_branches
    (indexer : Indexer embedding stores)
    (text : String)
    (manifest : Manifest)
    (later : List Turn)
    (world : embedding × stores) :
    ((Turn.schedule later).foldlM indexer.joint.take (.start manifest) >>= fun branches =>
        pure (indexer.joint.report? text branches)).perform world =
      Prod.map (Except.map some) id ((indexer.branches text manifest).perform world) := by
  rw [branches, Turn.schedule, List.foldlM_cons]
  rcases indexer.perform_advance_idle indexer.ddl manifest.compile world with
    ⟨error, after, branched, advanced⟩ | ⟨statements, statementCount, middle, branched, advanced⟩
  · have took : (indexer.joint.take (.start manifest) .ddl).perform world = (.error error, after) :=
      Action.perform_bind_of_error advanced _
    rw [Action.perform_bind_of_error branched]
    exact Action.perform_bind_of_error (Action.perform_bind_of_error took _) _
  · have took : (indexer.joint.take (.start manifest) .ddl).perform world =
        (.ok ⟨.committed statements statementCount,
          .idle (.ok (viewDocuments manifest.views))⟩, middle) :=
      Action.perform_bind_of_ok advanced _
    rw [Action.perform_bind_of_ok branched, bind_assoc, Action.perform_bind_of_ok took,
      List.foldlM_cons, bind_assoc]
    have polled := indexer.perform_advance_idle indexer.views
      (.ok (viewDocuments manifest.views)) middle
    rcases polled with
      ⟨error, after, branched, advanced⟩ | ⟨records, recordCount, after, branched, advanced⟩
    · have took : (indexer.joint.take ⟨.committed statements statementCount,
          .idle (.ok (viewDocuments manifest.views))⟩ .views).perform middle =
            (.error error, after) :=
        Action.perform_bind_of_error advanced _
      rw [Action.perform_bind_of_error branched]
      exact Action.perform_bind_of_error took _
    · have took : (indexer.joint.take ⟨.committed statements statementCount,
          .idle (.ok (viewDocuments manifest.views))⟩ .views).perform middle =
            (.ok ⟨.committed statements statementCount, .committed records recordCount⟩, after) :=
        Action.perform_bind_of_ok advanced _
      have folded := indexer.perform_turns_of_committed later statements records statementCount
        recordCount after
      rw [Action.perform_bind_of_ok branched, Action.perform_bind_of_ok took]
      exact Action.perform_bind_of_ok folded _

/--
When the embedder never waits, every order of later turns gives the run in which the records wait
for the statements.
-/
theorem perform_joint_run
    (indexer : Indexer embedding stores)
    (text : String)
    (later : List Turn)
    (world : embedding × stores) :
    (indexer.joint.run text later).perform world =
      Prod.map (Except.map some) id ((indexer.run text).perform world) := by
  cases valid : Manifest.validate text with
  | error error =>
    rw [indexer.joint.perform_run_of_invalid valid, perform_run_of_invalid valid]
    rfl
  | ok manifest =>
    rw [perform_run_of_valid valid]
    rcases prepares : indexer.prepare.perform world with ⟨outcome, prepared⟩
    cases outcome with
    | error error =>
      rw [Action.perform_bind_of_error prepares, JointIndexer.run, valid]
      exact (Action.perform_bind_of_ok rfl _).trans (Action.perform_bind_of_error prepares _)
    | ok _ =>
      rw [Action.perform_bind_of_ok prepares,
        indexer.joint.perform_run_of_valid valid prepares later]
      exact indexer.perform_joint_branches text manifest later prepared

end Indexer

end SemanticIndex
