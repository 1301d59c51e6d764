import SemanticIndex.Embedding.Hashing
import SemanticIndex.Proofs.Collecting
import SemanticIndex.Proofs.Indexing.Run
import SemanticIndex.Proofs.ViewRecords

/-!
# What a run returns

Over stores that refuse nothing, a run returns what its course says, whatever the collections
contain: clearing and committing may leave other documents behind, but neither can fail, and the
positional ids of a batch keep every way of counting it at the length of the batch.  With an
embedder that looks at nothing but its batch, the course is a matter of the text alone, so neither
the mode nor the kinds of the stores nor their contents can be told from the result.
-/

namespace SemanticIndex

variable {embedding : Type}

/-! ## Embedders without memory -/

/-- The answer of an embedder to a batch is a function of the batch. -/
def Embedder.AnswersWith
    (embedder : Embedder embedding)
    (answer : List Document → Except Error (List EmbeddedDocument)) : Prop :=
  ∀ batch initial, ((embedder batch).perform initial).1 = answer batch

section Memoryless

variable {embedder : Embedder embedding}
variable {answer : List Document → Except Error (List EmbeddedDocument)}
variable {initial final otherInitial otherFinal : embedding}

/-- The answer to a batch as it counts, from the answers of an embedder without memory. -/
def counted
    (answer : List Document → Except Error (List EmbeddedDocument))
    (batch : List Document) : Except Error (List EmbeddedDocument) :=
  if batch = [] then .ok []
  else
    match answer batch with
    | .error error => .error error
    | .ok documents =>
      if documents.map (·.id) = batch.map (·.id) then .ok documents
      else .error (.embedding (.mismatched documents.length batch.length))

theorem Answers.eq_counted
    (memoryless : embedder.AnswersWith answer)
    {batch : List Document}
    {outcome : Except Error (List EmbeddedDocument)}
    (answers : Answers embedder initial batch outcome final) :
    outcome = counted answer batch := by
  have answered {given : Except Error (List EmbeddedDocument)}
      (returned : (embedder batch).perform initial = (given, final)) : answer batch = given := by
    rw [← memoryless batch initial, returned]
  cases answers with
  | unasked => rfl
  | accepted nonempty returned sameIds =>
    rw [counted, if_neg nonempty, answered returned]
    exact (if_pos sameIds).symm
  | mismatched nonempty returned otherIds =>
    rw [counted, if_neg nonempty, answered returned]
    exact (if_neg otherIds).symm
  | failed nonempty returned => rw [counted, if_neg nonempty, answered returned]

theorem Answers.eq_of_answersWith
    (memoryless : embedder.AnswersWith answer)
    {batch : List Document}
    {one other : Except Error (List EmbeddedDocument)}
    (answers : Answers embedder initial batch one final)
    (otherAnswers : Answers embedder otherInitial batch other otherFinal) :
    one = other :=
  (answers.eq_counted memoryless).trans (otherAnswers.eq_counted memoryless).symm

/-- Runs of an embedder without memory over one text take the same course. -/
theorem Takes.course_eq_of_answersWith
    (memoryless : embedder.AnswersWith answer)
    {text : String}
    {one other : Course}
    (takes : Takes embedder text initial one final)
    (otherTakes : Takes embedder text otherInitial other otherFinal) :
    one = other := by
  cases takes <;> cases otherTakes <;> grind [→ Answers.eq_of_answersWith]

end Memoryless

theorem HashEmbedder.answersWith (embedder : HashEmbedder) :
    (embedder.embed : Embedder embedding).AnswersWith
      fun batch => .ok (batch.map embedder.embedDocument) := by
  intro batch initial
  rfl

theorem HashEmbedder.answers
    (embedder : HashEmbedder)
    (initial : embedding)
    (batch : List Document) :
    Answers embedder.embed initial batch (.ok (batch.map embedder.embedDocument)) initial := by
  by_cases empty : batch = []
  · subst empty
    exact .unasked
  · apply Answers.accepted empty rfl
    rw [List.map_map]
    rfl

/-! ## Courses and what they return -/

/-- What a report says of the two collections and the text. -/
def Report.figures (report : Report) : Nat × Nat × String :=
  (report.ddlDocuments, report.viewDocuments, report.digest)

/-- The result of a run without the mode, which the caller chose. -/
def Course.figures (text : String) (course : Course) : Except Error (Nat × Nat × String) :=
  (course.result text .staged).map Report.figures

theorem Course.map_figures_result
    (text : String)
    (mode : SyncMode)
    (course : Course) :
    (course.result text mode).map Report.figures = course.figures text := by
  cases course <;> rfl

theorem Manifest.length_of_compile
    {manifest : Manifest}
    {batch : List Document}
    (compiled : manifest.compile = .ok batch) :
    batch.length =
      manifest.models.length + manifest.metrics.length + manifest.views.length := by
  rw [compile, statements] at compiled
  cases collected : manifest.models.mapM manifest.modelTable with
  | error error =>
    rw [collected] at compiled
    cases compiled
  | ok tables =>
    rw [collected] at compiled
    obtain rfl := Except.ok.inj compiled
    have tablesLength := length_of_mapM_eq_ok collected
    simp [Document.sequence, tablesLength, Nat.add_assoc]

theorem Takes.figures_eq_ok
    {embedder : Embedder embedding}
    {text : String}
    {initial final : embedding}
    {course : Course}
    {figures : Nat × Nat × String}
    (takes : Takes embedder text initial course final)
    (succeeded : course.figures text = .ok figures) :
    ∃ manifest, Manifest.validate text = .ok manifest ∧
      figures =
        (manifest.models.length + manifest.metrics.length + manifest.views.length,
          manifest.views.length, Sha256.hexadecimal (Sha256.ofText text)) := by
  cases takes with
  | invalid unread => exact nomatch succeeded
  | uncompiled valid failed => exact nomatch succeeded
  | unembedded valid compiled failed => exact nomatch succeeded
  | withoutRecords valid compiled embedded failed => exact nomatch succeeded
  | @complete manifest batch statements records middle _ valid compiled embedded recordsEmbedded =>
    obtain rfl := Except.ok.inj succeeded
    have statementsLength : statements.length = batch.length := by
      simpa using congrArg List.length embedded.ids_eq
    have recordsLength : records.length = manifest.views.length := by
      rw [← length_viewDocuments]
      simpa using congrArg List.length recordsEmbedded.ids_eq
    refine ⟨manifest, valid, ?_⟩
    simp [Report.figures, reportOf, statementsLength, recordsLength,
      Manifest.length_of_compile compiled]

/-! ## The hashing embedder -/

namespace HashEmbedder

variable {embedder : HashEmbedder} {text : String} {initial final : embedding} {course : Course}

theorem embeds_of_answers
    {batch : List Document}
    {outcome : Except Error (List EmbeddedDocument)}
    (answers : Answers embedder.embed initial batch outcome final) :
    outcome = .ok (batch.map embedder.embedDocument) :=
  answers.eq_of_answersWith embedder.answersWith (embedder.answers initial batch)

/-- The course of a run: the text is no manifest, it does not compile, or all goes well. -/
theorem course_cases (takes : Takes embedder.embed text initial course final) :
    (∃ error, Manifest.validate text = .error error ∧ course = .invalid error) ∨
      (∃ manifest error, Manifest.validate text = .ok manifest ∧
        manifest.compile = .error error ∧ course = .withoutStatements error) ∨
      ∃ manifest batch, Manifest.validate text = .ok manifest ∧ manifest.compile = .ok batch ∧
        course = .complete (batch.map embedder.embedDocument)
          ((viewDocuments manifest.views).map embedder.embedDocument) := by
  cases takes with
  | invalid unread => exact .inl ⟨_, unread, rfl⟩
  | uncompiled valid failed => exact .inr (.inl ⟨_, _, valid, failed, rfl⟩)
  | unembedded valid compiled failed => exact nomatch embeds_of_answers failed
  | withoutRecords valid compiled embedded failed => exact nomatch embeds_of_answers failed
  | complete valid compiled embedded recordsEmbedded =>
    obtain rfl := Except.ok.inj (embeds_of_answers embedded)
    obtain rfl := Except.ok.inj (embeds_of_answers recordsEmbedded)
    exact .inr (.inr ⟨_, _, valid, compiled, rfl⟩)

theorem figures_eq_ok_iff (takes : Takes embedder.embed text initial course final) :
    (∃ figures, course.figures text = .ok figures) ↔
      ∃ manifest batch, Manifest.validate text = .ok manifest ∧
        manifest.compile = .ok batch := by
  rcases course_cases takes with
    ⟨error, unread, rfl⟩ | ⟨manifest, error, valid, failed, rfl⟩ |
      ⟨manifest, batch, valid, compiled, rfl⟩
  · simp [unread, Course.figures, Course.result, Except.map]
  · simp [valid, failed, Course.figures, Course.result, Except.map]
  · simp [valid, compiled, Course.figures, Course.result, Except.map]

theorem figures_eq_error_iff
    (takes : Takes embedder.embed text initial course final)
    (error : Error) :
    course.figures text = .error error ↔
      Manifest.validate text = .error error ∨
        ∃ manifest, Manifest.validate text = .ok manifest ∧
          manifest.compile = .error error := by
  rcases course_cases takes with
    ⟨cause, unread, rfl⟩ | ⟨manifest, cause, valid, failed, rfl⟩ |
      ⟨manifest, batch, valid, compiled, rfl⟩
  · simp [unread, Course.figures, Course.result, Except.map]
  · simp [valid, failed, Course.figures, Course.result, Except.map]
  · simp [valid, compiled, Course.figures, Course.result, Except.map]

end HashEmbedder

/-! ## Stores that refuse nothing -/

namespace StorePair

def RefusesNothing (pair : StorePair) : Prop :=
  pair.ddlBackend.RefusesNothing ∧ pair.viewBackend.RefusesNothing

def outcome
    (pair : StorePair)
    (embedder : Embedder embedding)
    (mode : SyncMode)
    (text : String)
    (world : embedding × pair.State) : Except Error (Nat × Nat × String) :=
  (((pair.indexer embedder mode).run text).perform world).1.map Report.figures

variable {pair : StorePair} {embedder : Embedder embedding} {mode : SyncMode} {text : String}

theorem exists_prepare_of_refusesNothing
    (carriesOut : pair.RefusesNothing)
    (embedder : Embedder embedding)
    (mode : SyncMode)
    (initial : embedding)
    (before : Contents × Contents) :
    ∃ prepared, (pair.model embedder mode).prepare.perform (initial, before) =
      (.ok (), (initial, prepared)) := by
  cases mode with
  | staged => exact ⟨before, rfl⟩
  | clearThenWrite =>
    rcases Backend.clear_of_refusesNothing carriesOut.1 before.1 with ⟨_, ddl, ddlClears⟩
    rcases Backend.clear_of_refusesNothing carriesOut.2 before.2 with ⟨_, views, viewsClear⟩
    refine ⟨(ddl, views), (perform_prepare pair initial before).trans ?_⟩
    rw [ddlClears, viewsClear]

theorem commits_of_refusesNothing
    {backend : Backend}
    (carriesOut : backend.RefusesNothing)
    (mode : SyncMode)
    (contents : Contents) :
    backend.Commits mode (fun _ _ => True) contents := by
  intro documents numbered
  rcases Backend.commit_of_refusesNothing carriesOut numbered.distinct mode contents with
    ⟨final, committed⟩
  exact ⟨final, committed, trivial⟩

theorem outcome_eq_figures
    {course : Course}
    {final : embedding}
    {world : embedding × pair.State}
    (carriesOut : pair.RefusesNothing)
    (mode : SyncMode)
    (takes : Takes embedder text world.1 course final) :
    pair.outcome embedder mode text world = course.figures text := by
  rcases world with ⟨initial, state⟩
  rcases exists_prepare_of_refusesNothing carriesOut embedder mode initial (pair.contents state)
    with ⟨prepared, prepares⟩
  have modelRuns := perform_model_run_of_commits prepares
    (commits_of_refusesNothing carriesOut.1 mode prepared.1)
    (commits_of_refusesNothing carriesOut.2 mode prepared.2) takes
  rcases modelRuns with ⟨after, modelRan, _⟩
  rcases exists_run_of_model modelRan with ⟨afterState, ran, _⟩
  rw [outcome, ran]
  exact course.map_figures_result text mode

/--
Over stores that refuse nothing, what a run of an embedder without memory returns is decided by
the text: neither the kinds of the stores nor their contents nor the mode can be told from it.  A
success counts the entities of the manifest, and with the hashing embedder every failure is one of
the text.
-/
theorem outcome_eq_of_refusesNothing
    {answer : List Document → Except Error (List EmbeddedDocument)}
    {pair other : StorePair}
    (memoryless : embedder.AnswersWith answer)
    (carriesOut : pair.RefusesNothing)
    (otherCarriesOut : other.RefusesNothing)
    (mode otherMode : SyncMode)
    (text : String)
    (world : embedding × pair.State)
    (otherWorld : embedding × other.State) :
    pair.outcome embedder mode text world = other.outcome embedder otherMode text otherWorld ∧
      (∀ ddlDocuments viewDocuments digest,
        pair.outcome embedder mode text world = .ok (ddlDocuments, viewDocuments, digest) →
          ∃ manifest, Manifest.validate text = .ok manifest ∧
            ddlDocuments =
              manifest.models.length + manifest.metrics.length + manifest.views.length ∧
            viewDocuments = manifest.views.length ∧
            digest = Sha256.hexadecimal (Sha256.ofText text)) ∧
      ∀ hashing : HashEmbedder,
        ((∃ figures, pair.outcome hashing.embed mode text world = .ok figures) ↔
            ∃ manifest batch, Manifest.validate text = .ok manifest ∧
              manifest.compile = .ok batch) ∧
          ∀ error, pair.outcome hashing.embed mode text world = .error error ↔
            Manifest.validate text = .error error ∨
              ∃ manifest, Manifest.validate text = .ok manifest ∧
                manifest.compile = .error error := by
  rcases Takes.exists_course embedder text world.1 with ⟨course, final, takes⟩
  rcases Takes.exists_course embedder text otherWorld.1 with ⟨otherCourse, otherFinal, otherTakes⟩
  have returned := outcome_eq_figures carriesOut mode takes
  have otherReturned := outcome_eq_figures otherCarriesOut otherMode otherTakes
  have sameCourse : course = otherCourse := takes.course_eq_of_answersWith memoryless otherTakes
  refine ⟨?_, ?_, ?_⟩
  · rw [returned, otherReturned, sameCourse]
  · intro ddlDocuments viewDocuments digest succeeded
    rcases takes.figures_eq_ok (returned.symm.trans succeeded) with ⟨manifest, valid, same⟩
    obtain ⟨rfl, rfl, rfl⟩ : _ ∧ _ ∧ _ := by simpa using same
    exact ⟨manifest, valid, rfl, rfl, rfl⟩
  · intro hashing
    rcases Takes.exists_course hashing.embed text world.1 with ⟨hashCourse, hashFinal, hashTakes⟩
    rw [outcome_eq_figures carriesOut mode hashTakes]
    exact ⟨HashEmbedder.figures_eq_ok_iff hashTakes, HashEmbedder.figures_eq_error_iff hashTakes⟩

/-- A staged run in memory over scattered ids, and a clearing run over a database and a relay. -/
theorem outcome_eq_over_scattered_ids :
    let pair : StorePair := .apart .memory .memory
    let other : StorePair := .apart (.database "statements") (.relay fun _ => false)
    let embedder : Embedder Unit := HashEmbedder.embed ⟨4⟩
    let scattered : pair.State :=
      (Memory.empty.putAll [⟨"7", "stale", []⟩, ⟨"0", "stale", []⟩], Memory.empty)
    let fresh : other.State := (Database.empty, Memory.empty)
    let text := "\x7b\"views\":[\x7b\"name\":\"v\",\"statement\":\"SELECT 1\"\x7d]\x7d"
    pair.outcome embedder .staged text ((), scattered) =
        other.outcome embedder .clearThenWrite text ((), fresh) ∧
      (∀ ddlDocuments viewDocuments digest,
        pair.outcome embedder .staged text ((), scattered) =
            .ok (ddlDocuments, viewDocuments, digest) →
          ∃ manifest, Manifest.validate text = .ok manifest ∧
            ddlDocuments =
              manifest.models.length + manifest.metrics.length + manifest.views.length ∧
            viewDocuments = manifest.views.length ∧
            digest = Sha256.hexadecimal (Sha256.ofText text)) ∧
      ∀ hashing : HashEmbedder,
        ((∃ figures, pair.outcome hashing.embed .staged text ((), scattered) = .ok figures) ↔
            ∃ manifest batch, Manifest.validate text = .ok manifest ∧
              manifest.compile = .ok batch) ∧
          ∀ error, pair.outcome hashing.embed .staged text ((), scattered) = .error error ↔
            Manifest.validate text = .error error ∨
              ∃ manifest, Manifest.validate text = .ok manifest ∧
                manifest.compile = .error error := by
  intro pair other embedder scattered fresh text
  have carriesOut : pair.RefusesNothing := ⟨fun _ => rfl, fun _ => rfl⟩
  have otherCarriesOut : other.RefusesNothing := ⟨fun _ => rfl, fun _ => rfl⟩
  exact outcome_eq_of_refusesNothing (HashEmbedder.answersWith ⟨4⟩) carriesOut otherCarriesOut
    .staged .clearThenWrite text ((), scattered) ((), fresh)

end StorePair

end SemanticIndex
