import SemanticIndex.Proofs.Indexing.JointRuns

/-!
# Interrupted runs

A clearing run whose branches may wait destroys both collections before either branch starts, so
a turn that fails leaves each of them empty or with exactly its new batch.  The statements are
there when the records fail unless they were still waiting, and the records are there when the
statements fail only if the statements had to wait.
-/

namespace SemanticIndex

variable {embedding ticket : Type}

/-! ## A service that follows a script -/

/-- What a service does when it is called. -/
inductive Reaction where
  /-- Give a ticket for the batch. -/
  | delay
  /-- Give the batch empty vectors. -/
  | serve
  | refuse

/-- A service that reacts to its calls as it is told, and gives out batches as their own tickets. -/
def scripted : Service (List Reaction) (List Document) :=
  fun call => .ofFunction fun script =>
    let batch :=
      match call with
      | .send batch => batch
      | .poll batch => batch
    match script with
    | .delay :: rest => (.ok (.waiting batch), rest)
    | .serve :: rest =>
      (.ok (.ready (batch.map fun document => ⟨document.id, document.content, []⟩)), rest)
    | .refuse :: rest => (.error (.embedding (.refused "rate limited")), rest)
    | [] => (.error (.embedding (.refused "rate limited")), [])

/-! ## What an interrupted run leaves -/

/--
What a clearing run over a manifest leaves when a turn fails, by how far the branches are and whose
turn it is.
-/
inductive Branches.Leave (manifest : Manifest) :
    Branches ticket → Turn → Contents × Contents → Prop where
  /-- The statements fail, and the records are not committed. -/
  | statements
      {ddl views : Branch ticket}
      (uncommitted : ∀ records count, views ≠ .committed records count) :
      Leave manifest ⟨ddl, views⟩ .ddl (.empty, .empty)
  /-- The statements had to wait and fail after the records were committed. -/
  | statementsAfterRecords
      {batch : List Document}
      {stub : ticket}
      {records : List EmbeddedDocument}
      {rows : Contents}
      (sameIds : records.map (·.id) = (viewDocuments manifest.views).map (·.id))
      (held : rows.Holds records) :
      Leave manifest ⟨.waiting batch stub, .committed records records.length⟩ .ddl (.empty, rows)
  /-- The records fail after the statements were committed. -/
  | records
      {batch : List Document}
      {statements : List EmbeddedDocument}
      {views : Branch ticket}
      {rows : Contents}
      (compiled : manifest.compile = .ok batch)
      (sameIds : statements.map (·.id) = batch.map (·.id))
      (held : rows.Holds statements) :
      Leave manifest ⟨.committed statements statements.length, views⟩ .views (rows, .empty)
  /-- The records fail while the statements wait. -/
  | recordsBeforeStatements
      {batch : List Document}
      {stub : ticket}
      {views : Branch ticket} :
      Leave manifest ⟨.waiting batch stub, views⟩ .views (.empty, .empty)

theorem Branches.Stops.leave
    {service : Service embedding ticket}
    {manifest : Manifest}
    {later : List Turn}
    {initial final : embedding}
    {reached : Branches ticket}
    {turn : Turn}
    {error : Error}
    {after : Contents × Contents}
    (stops : (start manifest).Stops service initial (Turn.schedule later) reached turn error final)
    (stand : reached.Stand manifest (.empty, .empty) after) :
    reached.Leave manifest turn after := by
  obtain ⟨middle, fails⟩ := stops.fails
  have begun := stops.of_schedule
  rcases reached with ⟨ddl, views⟩
  rcases after with ⟨ddlRows, viewRows⟩
  have ddlStands : ddl.Stands manifest.compile .empty ddlRows := stand .ddl
  have viewsStand : views.Stands (.ok (viewDocuments manifest.views)) .empty viewRows :=
    stand .views
  cases turn with
  | ddl =>
    obtain rfl : ddlRows = .empty := fails.of_stands ddlStands
    cases viewsStand with
    | idle => exact .statements nofun
    | waiting compiled => exact .statements nofun
    | committed compiled sameIds held =>
      obtain rfl := Except.ok.inj compiled
      cases ddlStands with
      | idle => simp [start, Branch.Started] at begun
      | waiting _ => exact .statementsAfterRecords sameIds held
      | committed _ _ _ => exact absurd fails Branch.not_fails_of_committed
  | views =>
    obtain rfl : viewRows = .empty := fails.of_stands viewsStand
    cases ddlStands with
    | idle => simp [Branch.Started] at begun
    | waiting _ => exact .recordsBeforeStatements
    | committed compiled sameIds held => exact .records compiled sameIds held

namespace StorePair

variable {pair : StorePair}

/--
A failed clearing run over contiguous collections has changed nothing if its text is no manifest.
Otherwise exactly one turn has failed, with the error of the run, and each collection is empty or
holds exactly its new batch.
-/
theorem failed_clearing_run_ends
    {service : Service embedding ticket}
    {text : String}
    {later : List Turn}
    {initial final : embedding}
    {state after : pair.State}
    {error : Error}
    (swaps : pair.Swaps)
    (ddlContiguous : (pair.contents state).1.Contiguous)
    (viewsContiguous : (pair.contents state).2.Contiguous)
    (failed : ((pair.jointIndexer service .clearThenWrite).run text later).perform
      (initial, state) = (.error error, (final, after))) :
    (Manifest.validate text = .error error ∧ final = initial ∧ after = state) ∨
      ∃ manifest reached turn,
        Manifest.validate text = .ok manifest ∧
          (∀ other otherTurn otherError otherFinal,
            (Branches.start manifest).Stops service initial (Turn.schedule later) other otherTurn
                otherError otherFinal ↔
              other = reached ∧ otherTurn = turn ∧ otherError = error ∧ otherFinal = final) ∧
          reached.Leave manifest turn (pair.contents after) := by
  cases valid : Manifest.validate text with
  | error cause =>
    have ran := joint_run_of_invalid valid service .clearThenWrite later initial state
    rcases Prod.mk.inj (failed.symm.trans ran) with ⟨sameError, sameWorld⟩
    obtain rfl := Except.error.inj sameError
    obtain ⟨rfl, rfl⟩ := Prod.mk.inj sameWorld
    exact .inl ⟨rfl, rfl, rfl⟩
  | ok manifest =>
    have contiguous (_ : SyncMode.clearThenWrite = .clearThenWrite) :
        (pair.contents state).1.Contiguous ∧ (pair.contents state).2.Contiguous :=
      ⟨ddlContiguous, viewsContiguous⟩
    rcases joint_run_of_valid swaps valid service later initial state contiguous with
      ⟨reached, turn, cause, reachedFinal, reachedAfter, stops, ran, stand⟩ |
        ⟨reached, reachedFinal, reachedAfter, reaches, ran, stand⟩
    · rcases Prod.mk.inj (failed.symm.trans ran) with ⟨sameError, sameWorld⟩
      obtain rfl := Except.error.inj sameError
      obtain ⟨rfl, rfl⟩ := Prod.mk.inj sameWorld
      refine .inr ⟨manifest, reached, turn, rfl, ?_, stops.leave stand⟩
      intro other otherTurn otherError otherFinal
      constructor
      · intro otherStops
        exact otherStops.unique stops
      · rintro ⟨rfl, rfl, rfl, rfl⟩
        exact stops
    · exact nomatch failed.symm.trans ran

/-! ## Records that overtake the statements -/

/-- Two stale statements in memory beside an empty collection of a database. -/
def staleStatements : (StorePair.apart .memory (.database "records")).State :=
  (Memory.empty.putAll [⟨"0", "stale", []⟩, ⟨"1", "stale", []⟩], Database.empty)

theorem contiguous_staleStatements :
    let pair : StorePair := .apart .memory (.database "records")
    (pair.contents staleStatements).1.Contiguous ∧
      (pair.contents staleStatements).2.Contiguous :=
  ⟨Contents.contiguous_of_keys_eq (by decide), Contents.contiguous_empty⟩

/-- The record of the small manifest with an empty vector. -/
def viewRecords : List EmbeddedDocument :=
  (viewDocuments viewManifest.views).map fun document => ⟨document.id, document.content, []⟩

/-- The record overtakes the statement and is stored; then the statement is refused. -/
theorem run_overtaken :
    (((StorePair.apart .memory (.database "records")).jointIndexer scripted .clearThenWrite).run
        viewText [.ddl]).perform ([.delay, .serve, .refuse], staleStatements) =
      (.error (.embedding (.refused "rate limited")), ([], (Memory.empty,
        viewRecords.foldl (Database.insertOrReplace "records") .empty))) := by
  rw [JointIndexer.run, validate_viewText]
  rfl

/-- The record is refused while the statement waits. -/
theorem run_refused_beside_waiting :
    (((StorePair.apart .memory (.database "records")).jointIndexer scripted .clearThenWrite).run
        viewText []).perform ([.delay, .refuse], staleStatements) =
      (.error (.embedding (.refused "rate limited")), ([], (Memory.empty, Database.empty))) := by
  rw [JointIndexer.run, validate_viewText]
  rfl

theorem asks_of_start_viewManifest :
    ((Branches.start viewManifest).of .ddl : Branch ticket).Asks [viewStatement]
      (.send [viewStatement]) := by
  change (Branch.idle viewManifest.compile).Asks _ _
  rw [compile_viewManifest]
  exact .sends nofun

/-- The stale statements are gone and the record is stored once the statement is refused. -/
theorem failed_clearing_run_ends_after_overtaking :
    let pair : StorePair := .apart .memory (.database "records")
    let script : List Reaction := [.delay, .serve, .refuse]
    ∃ error final after,
      ((pair.jointIndexer scripted .clearThenWrite).run viewText [.ddl]).perform
          (script, staleStatements) = (.error error, (final, after)) ∧
        ((Manifest.validate viewText = .error error ∧ final = script ∧ after = staleStatements) ∨
          ∃ manifest reached turn,
            Manifest.validate viewText = .ok manifest ∧
              (∀ other otherTurn otherError otherFinal,
                (Branches.start manifest).Stops scripted script (Turn.schedule [.ddl]) other
                    otherTurn otherError otherFinal ↔
                  other = reached ∧ otherTurn = turn ∧ otherError = error ∧
                    otherFinal = final) ∧
              reached.Leave manifest turn (pair.contents after)) := by
  intro pair script
  have swaps : pair.Swaps := ⟨trivial, trivial⟩
  rcases contiguous_staleStatements with ⟨ddlContiguous, viewsContiguous⟩
  exact ⟨_, _, _, run_overtaken,
    failed_clearing_run_ends swaps ddlContiguous viewsContiguous run_overtaken⟩

/--
Over contiguous collections, records that are refused while the statements wait leave no
statements, and statements that are refused after they have waited leave the records.
-/
theorem clearing_runs_with_waiting_statements :
    let pair : StorePair := .apart .memory (.database "records")
    (pair.contents staleStatements).1.Contiguous ∧
      (pair.contents staleStatements).2.Contiguous ∧
      Manifest.validate viewText = .ok viewManifest ∧
      viewManifest.compile = .ok [viewStatement] ∧
      (∃ reached error final after,
        (Branches.start viewManifest).Stops scripted [.delay, .refuse] (Turn.schedule []) reached
            .views error final ∧
          ((pair.jointIndexer scripted .clearThenWrite).run viewText []).perform
            ([.delay, .refuse], staleStatements) = (.error error, (final, after)) ∧
          ∀ statements, statements.map (·.id) = [viewStatement.id] →
            ¬(pair.contents after).1.Holds statements) ∧
      ∃ reached error final after,
        (Branches.start viewManifest).Stops scripted [.delay, .serve, .refuse]
            (Turn.schedule [.ddl]) reached .ddl error final ∧
          ((pair.jointIndexer scripted .clearThenWrite).run viewText [.ddl]).perform
            ([.delay, .serve, .refuse], staleStatements) = (.error error, (final, after)) ∧
          (pair.contents after).2 ≠ .empty := by
  intro pair
  rcases contiguous_staleStatements with ⟨ddlContiguous, viewsContiguous⟩
  refine ⟨ddlContiguous, viewsContiguous, validate_viewText, compile_viewManifest, ?_, ?_⟩
  · refine ⟨_, _, _, _, .later (.waits asks_of_start_viewManifest rfl) (.now ?_),
      run_refused_beside_waiting, ?_⟩
    · exact .refused (.sends nofun) rfl
    · intro statements sameIds held
      have absent : .ok none = Except.ok (statements.find? (·.id = "0")) := held "0"
      have present : statements.find? (·.id = "0") ≠ none := by
        rcases statements with _ | ⟨statement, rest⟩
        · exact nomatch sameIds
        · have named : statement.id = "0" := (List.cons.inj sameIds).1
          simp [named]
      exact present (Except.ok.inj absent).symm
  · refine ⟨_, _, _, _, .later (.waits asks_of_start_viewManifest rfl)
      (.later (.commits (.sends nofun) rfl rfl) (.now ?_)), run_overtaken, nofun⟩
    exact .refused (.polls _) rfl

end StorePair

end SemanticIndex
