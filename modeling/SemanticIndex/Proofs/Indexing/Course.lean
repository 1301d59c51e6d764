import SemanticIndex.Indexing
import SemanticIndex.Proofs.Json.RoundTrip
import SemanticIndex.Proofs.Store.Contiguity

/-!
# Courses of a run

How far a run gets, as long as its stores do their work, is decided by its text and its embedder
alone.  There are four courses, and each run of an embedder that never waits takes exactly one of
them.  A batch that is embedded on the way keeps the positions of its documents as their ids.
-/

namespace SemanticIndex

variable {embedding : Type}

/-! ## Answers of an embedder -/

/--
The answer to a batch as it counts, with the final state of the embedder: an empty batch is not
sent, and documents with other ids than those of the batch are a mismatch.
-/
inductive Answers
    (embedder : Embedder embedding)
    (initial : embedding) :
    List Document → Except Error (List EmbeddedDocument) → embedding → Prop where
  | unasked : Answers embedder initial [] (.ok []) initial
  | accepted
      {batch : List Document}
      {documents : List EmbeddedDocument}
      {final : embedding}
      (nonempty : batch ≠ [])
      (returned : (embedder batch).perform initial = (.ok documents, final))
      (sameIds : documents.map (·.id) = batch.map (·.id)) :
      Answers embedder initial batch (.ok documents) final
  | mismatched
      {batch : List Document}
      {documents : List EmbeddedDocument}
      {final : embedding}
      (nonempty : batch ≠ [])
      (returned : (embedder batch).perform initial = (.ok documents, final))
      (otherIds : documents.map (·.id) ≠ batch.map (·.id)) :
      Answers embedder initial batch
        (.error (.embedding (.mismatched documents.length batch.length))) final
  | failed
      {batch : List Document}
      {error : Error}
      {final : embedding}
      (nonempty : batch ≠ [])
      (returned : (embedder batch).perform initial = (.error error, final)) :
      Answers embedder initial batch (.error error) final

/-- Documents that have the ids of a batch with positional ids have positional ids. -/
theorem numbered_of_sameIds
    {batch : List Document}
    {documents : List EmbeddedDocument}
    (sameIds : documents.map (·.id) = batch.map (·.id))
    (batchNumbered : batch.map (·.id) = positions batch.length) :
    Numbered documents := by
  have sameLength : documents.length = batch.length := by
    simpa using congrArg List.length sameIds
  rw [Numbered, sameIds, batchNumbered, sameLength]

namespace Answers

variable {embedder : Embedder embedding} {initial final : embedding}
variable {batch : List Document} {answer : Except Error (List EmbeddedDocument)}

/-- The guarded call of an embedder gives its answer as it counts. -/
theorem perform_embedBatch (answers : Answers embedder initial batch answer final) :
    (embedBatch embedder batch).perform initial = (answer, final) := by
  cases answers with
  | unasked => rfl
  | accepted nonempty returned sameIds =>
    rw [embedBatch, if_neg (by simpa using nonempty), Action.perform_bind_of_ok returned,
      acceptAnswer, if_pos sameIds]
    rfl
  | mismatched nonempty returned otherIds =>
    rw [embedBatch, if_neg (by simpa using nonempty), Action.perform_bind_of_ok returned,
      acceptAnswer, if_neg otherIds]
    rfl
  | failed nonempty returned =>
    rw [embedBatch, if_neg (by simpa using nonempty), Action.perform_bind_of_error returned]

theorem of_embedBatch
    (embedder : Embedder embedding)
    (initial : embedding)
    (batch : List Document) :
    ∃ answer final, Answers embedder initial batch answer final := by
  by_cases empty : batch = []
  · subst empty
    exact ⟨_, _, .unasked⟩
  · rcases returned : (embedder batch).perform initial with ⟨outcome, final⟩
    cases outcome with
    | error error => exact ⟨_, _, .failed empty returned⟩
    | ok documents =>
      by_cases sameIds : documents.map (·.id) = batch.map (·.id)
      · exact ⟨_, _, .accepted empty returned sameIds⟩
      · exact ⟨_, _, .mismatched empty returned sameIds⟩

theorem unique
    {otherAnswer : Except Error (List EmbeddedDocument)}
    {otherFinal : embedding}
    (answers : Answers embedder initial batch answer final)
    (otherAnswers : Answers embedder initial batch otherAnswer otherFinal) :
    answer = otherAnswer ∧ final = otherFinal := by
  have same := answers.perform_embedBatch.symm.trans otherAnswers.perform_embedBatch
  exact Prod.ext_iff.mp same

/-- An accepted batch has the ids of the batch that was sent. -/
theorem ids_eq
    {documents : List EmbeddedDocument}
    (answers : Answers embedder initial batch (.ok documents) final) :
    documents.map (·.id) = batch.map (·.id) := by
  cases answers with
  | unasked => rfl
  | accepted _ _ sameIds => exact sameIds

theorem numbered
    {documents : List EmbeddedDocument}
    (answers : Answers embedder initial batch (.ok documents) final)
    (batchNumbered : batch.map (·.id) = positions batch.length) :
    Numbered documents :=
  numbered_of_sameIds answers.ids_eq batchNumbered

end Answers

theorem Manifest.ids_of_compile
    {manifest : Manifest}
    {batch : List Document}
    (compiled : manifest.compile = .ok batch) :
    batch.map (·.id) = positions batch.length := by
  rw [compile] at compiled
  cases statements : manifest.statements with
  | error error => exact nomatch statements ▸ compiled
  | ok contents =>
    rw [statements] at compiled
    obtain rfl := Except.ok.inj compiled
    exact Document.ids_sequence contents

/-! ## Courses -/

/-- How far a run gets. -/
inductive Course where
  /-- The text is no manifest. -/
  | invalid (error : Error)
  /-- The statements are not compiled, or not embedded. -/
  | withoutStatements (error : Error)
  /-- The statements are embedded, and the records are not. -/
  | withoutRecords (statements : List EmbeddedDocument) (error : Error)
  /-- Both batches are embedded. -/
  | complete (statements records : List EmbeddedDocument)

/-- The batches of a course have the positions of their documents as ids. -/
def Course.AllNumbered : Course → Prop
  | .invalid _ => True
  | .withoutStatements _ => True
  | .withoutRecords statements _ => Numbered statements
  | .complete statements records => Numbered statements ∧ Numbered records

/-- A run of an embedder over a text takes a course and leaves the embedder in a final state. -/
inductive Takes
    (embedder : Embedder embedding)
    (text : String)
    (initial : embedding) :
    Course → embedding → Prop where
  | invalid
      {error : Error}
      (unread : Manifest.validate text = .error error) :
      Takes embedder text initial (.invalid error) initial
  | uncompiled
      {manifest : Manifest}
      {error : Error}
      (valid : Manifest.validate text = .ok manifest)
      (failed : manifest.compile = .error error) :
      Takes embedder text initial (.withoutStatements error) initial
  | unembedded
      {manifest : Manifest}
      {batch : List Document}
      {error : Error}
      {final : embedding}
      (valid : Manifest.validate text = .ok manifest)
      (compiled : manifest.compile = .ok batch)
      (failed : Answers embedder initial batch (.error error) final) :
      Takes embedder text initial (.withoutStatements error) final
  | withoutRecords
      {manifest : Manifest}
      {batch : List Document}
      {statements : List EmbeddedDocument}
      {error : Error}
      {middle final : embedding}
      (valid : Manifest.validate text = .ok manifest)
      (compiled : manifest.compile = .ok batch)
      (embedded : Answers embedder initial batch (.ok statements) middle)
      (failed : Answers embedder middle (viewDocuments manifest.views) (.error error) final) :
      Takes embedder text initial (.withoutRecords statements error) final
  | complete
      {manifest : Manifest}
      {batch : List Document}
      {statements records : List EmbeddedDocument}
      {middle final : embedding}
      (valid : Manifest.validate text = .ok manifest)
      (compiled : manifest.compile = .ok batch)
      (embedded : Answers embedder initial batch (.ok statements) middle)
      (recordsEmbedded :
        Answers embedder middle (viewDocuments manifest.views) (.ok records) final) :
      Takes embedder text initial (.complete statements records) final

namespace Takes

variable {embedder : Embedder embedding} {text : String} {initial final : embedding}
variable {course : Course}

theorem exists_course
    (embedder : Embedder embedding)
    (text : String)
    (initial : embedding) :
    ∃ course final, Takes embedder text initial course final := by
  cases valid : Manifest.validate text with
  | error error => exact ⟨_, _, .invalid valid⟩
  | ok manifest =>
    cases compiled : manifest.compile with
    | error error => exact ⟨_, _, .uncompiled valid compiled⟩
    | ok batch =>
      obtain ⟨answer, middle, answers⟩ := Answers.of_embedBatch embedder initial batch
      cases answer with
      | error error => exact ⟨_, _, .unembedded valid compiled answers⟩
      | ok statements =>
        rcases Answers.of_embedBatch embedder middle (viewDocuments manifest.views) with
          ⟨recordsAnswer, final, recordsAnswers⟩
        cases recordsAnswer with
        | error error => exact ⟨_, _, .withoutRecords valid compiled answers recordsAnswers⟩
        | ok records => exact ⟨_, _, .complete valid compiled answers recordsAnswers⟩

theorem unique
    {otherCourse : Course}
    {otherFinal : embedding}
    (takes : Takes embedder text initial course final)
    (otherTakes : Takes embedder text initial otherCourse otherFinal) :
    course = otherCourse ∧ final = otherFinal := by
  cases takes <;> cases otherTakes <;> grind [→ Answers.unique]

/-- The course of a run and the final state of its embedder are determined. -/
theorem iff_eq
    (takes : Takes embedder text initial course final)
    (other : Course)
    (otherFinal : embedding) :
    Takes embedder text initial other otherFinal ↔ other = course ∧ otherFinal = final := by
  constructor
  · intro otherTakes
    exact otherTakes.unique takes
  · rintro ⟨rfl, rfl⟩
    exact takes

/-- The batches that a run embeds have positional ids. -/
theorem numbered (takes : Takes embedder text initial course final) : course.AllNumbered := by
  cases takes with
  | invalid unread => trivial
  | uncompiled valid failed => trivial
  | unembedded valid compiled failed => trivial
  | withoutRecords valid compiled embedded failed =>
    exact embedded.numbered (Manifest.ids_of_compile compiled)
  | complete valid compiled embedded recordsEmbedded =>
    exact ⟨embedded.numbered (Manifest.ids_of_compile compiled),
      recordsEmbedded.numbered (Document.ids_sequence _)⟩

end Takes

/-! ## A small manifest -/

/-- The manifest with one view. -/
def viewManifest : Manifest :=
  ⟨[], [], [], [⟨"v", "SELECT 1", none, []⟩], []⟩

/-- The text of the manifest with one view; the other sections are left out. -/
def viewText : String :=
  (Json.object [("views", .array [.object [("name", .string "v"),
    ("statement", .string "SELECT 1")]])]).compact

theorem validate_viewText : Manifest.validate viewText = .ok viewManifest := by
  have fits : (Json.object [("views", .array [.object [("name", .string "v"),
      ("statement", .string "SELECT 1")]])]).Fits Json.nestingLimit := by
    simp [Json.nestingLimit, Fields.keys]
  rw [Manifest.validate, Manifest.normalize, viewText, Json.read?_compact fits]
  rfl

/-- The statement of the view as it is compiled. -/
def viewStatement : Document :=
  ⟨"0", "/*  */\nCREATE VIEW v\nAS (SELECT 1)"⟩

theorem compile_viewManifest : viewManifest.compile = .ok [viewStatement] :=
  rfl

end SemanticIndex
