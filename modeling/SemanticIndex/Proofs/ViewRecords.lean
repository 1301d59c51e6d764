import SemanticIndex.Proofs.Ddl.Emission
import SemanticIndex.Proofs.Json.RoundTrip
import SemanticIndex.ViewRecord

/-!
# Records of views

The record of a view reads back as the three texts that it was written for, whatever their
characters, so two views have one record only if these texts agree.  Records are numbered like the
views, and in a compiled manifest they stand in the order of the views' definitions.
-/

namespace SemanticIndex

/-! ## Texts of a view -/

def View.property? (view : View) (key : String) : Option Json :=
  view.properties.bind (·.get? key)

/-- What a record says of a property. -/
inductive View.Shows (view : View) (key : String) : String → Prop where
  | verbatim
      {text : String}
      (found : view.property? key = some (.string text)) :
      Shows view key text
  | absent
      (missing : view.property? key = none) :
      Shows view key ""
  | null
      (found : view.property? key = some .null) :
      Shows view key ""
  /-- Any other value is shown by its JSON text. -/
  | written
      {value : Json}
      (found : view.property? key = some value)
      (noText : ∀ text, value ≠ .string text)
      (notNull : value ≠ .null) :
      Shows view key value.compact

theorem View.propertyText_eq (view : View) (key : String) :
    view.propertyText key =
      match view.property? key with
      | some (.string text) => text
      | some .null => ""
      | none => ""
      | some other => other.compact :=
  rfl

/-- Every property shows one text, present or not. -/
theorem View.shows_iff
    {view : View}
    {key text : String} :
    view.Shows key text ↔ text = view.propertyText key := by
  rw [propertyText_eq]
  constructor
  · rintro (found | missing | found | ⟨found, noText, notNull⟩)
    · rw [found]
    · rw [missing]
    · rw [found]
    · rw [found]
      split <;> simp_all
  · rintro rfl
    split
    · exact .verbatim ‹_›
    · exact .null ‹_›
    · exact .absent ‹_›
    · rename_i noText notNull found
      exact .written found noText notNull

/-- A content reads as the three texts of a view, in the order of a record. -/
def View.IsRecord (view : View) (content : String) : Prop :=
  ∃ question description, view.Shows "question" question ∧
    view.Shows "description" description ∧
    Json.read? content = some (.object [("question", .string question),
      ("description", .string description), ("statement", .string view.statement)])

/-- Two views agree in the three texts of a record. -/
structure View.SameTexts (view other : View) : Prop where
  question : ∃ text, view.Shows "question" text ∧ other.Shows "question" text
  description : ∃ text, view.Shows "description" text ∧ other.Shows "description" text
  statement : view.statement = other.statement

theorem View.sameTexts_iff
    {view other : View} :
    view.SameTexts other ↔ ViewRecord.ofView view = ViewRecord.ofView other := by
  have shown (key : String) :
      (∃ text, view.Shows key text ∧ other.Shows key text) ↔
        view.propertyText key = other.propertyText key := by
    simp only [shows_iff, exists_eq_left]
  rw [ViewRecord.ofView, ViewRecord.ofView, ViewRecord.mk.injEq, ← shown, ← shown]
  exact ⟨fun same => ⟨same.question, same.description, same.statement⟩,
    fun same => ⟨same.1, same.2.1, same.2.2⟩⟩

/-! ## Records -/

namespace ViewRecord

variable {record other : ViewRecord}

theorem read?_compact_toJson (record : ViewRecord) :
    Json.read? record.toJson.compact = some record.toJson := by
  have distinct : ["question", "description", "statement"].Nodup := by decide
  have fits : record.toJson.Fits (126 + 1) := by
    apply Json.FitsWith.object
    · exact distinct
    · simp only [List.forall_mem_cons]
      exact ⟨.string, .string, .string, List.forall_mem_nil _⟩
  exact Json.read?_compact fits

/-- Records are told apart by their contents. -/
theorem compact_toJson_inj : record.toJson.compact = other.toJson.compact ↔ record = other := by
  constructor
  · intro sameContent
    have sameRecord := record.read?_compact_toJson
    rw [sameContent, other.read?_compact_toJson] at sameRecord
    cases record
    cases other
    simpa [toJson, eq_comm] using sameRecord
  · rintro rfl
    rfl

end ViewRecord

theorem View.isRecord_content (view : View) :
    view.IsRecord (ViewRecord.ofView view).toJson.compact :=
  ⟨_, _, shows_iff.mpr rfl, shows_iff.mpr rfl, ViewRecord.read?_compact_toJson _⟩

theorem getElem?_viewDocuments (views : List View) (position : Nat) :
    (viewDocuments views)[position]? = views[position]?.map fun view =>
      ⟨toString position, (ViewRecord.ofView view).toJson.compact⟩ := by
  rw [viewDocuments, Document.getElem?_sequence, List.getElem?_map, Option.map_map]
  rfl

theorem length_viewDocuments (views : List View) : (viewDocuments views).length = views.length := by
  rw [viewDocuments, Document.sequence, List.length_mapIdx, List.length_map]

/-- The view at a position is defined behind the metrics and recorded at the position itself. -/
theorem Manifest.view_aligned
    {manifest : Manifest}
    {documents : List Document}
    (compiled : manifest.compile = .ok documents)
    {position : Nat}
    {view : View}
    (found : manifest.views[position]? = some view) :
    ∃ definition record,
      documents[manifest.models.length + manifest.metrics.length + position]? = some definition ∧
        (viewDocuments manifest.views)[position]? = some record ∧
        view.IsBlock definition.content ∧ view.IsRecord record.content := by
  obtain ⟨definition, defined, block⟩ := (emits_of_compile compiled).views position view found
  refine ⟨definition, ⟨toString position, _⟩, defined, ?_, block, view.isRecord_content⟩
  rw [getElem?_viewDocuments, found]
  rfl

/--
Each view has one document, numbered by its position, which reads back as the three texts of the
view.  Documents are equal exactly when these texts are, and a compiled manifest has the
definitions of its views in the order of their records, one for each.
-/
theorem viewDocuments_lossless (views : List View) :
    (viewDocuments views).length = views.length ∧
    (∀ (position : Nat) (view : View), views[position]? = some view →
      ∃ document, (viewDocuments views)[position]? = some document ∧
        document.id = toString position ∧ view.IsRecord document.content) ∧
    (∀ (position place : Nat) (view other : View) (document otherDocument : Document),
      views[position]? = some view → views[place]? = some other →
      (viewDocuments views)[position]? = some document →
      (viewDocuments views)[place]? = some otherDocument →
        (document.content = otherDocument.content ↔ view.SameTexts other)) ∧
    ∀ (manifest : Manifest) (documents : List Document),
      manifest.views = views → manifest.compile = .ok documents →
        documents.length = manifest.models.length + manifest.metrics.length + views.length ∧
        ∀ (position : Nat) (view : View), views[position]? = some view →
          ∃ definition record,
            documents[manifest.models.length + manifest.metrics.length + position]? =
                some definition ∧
              (viewDocuments views)[position]? = some record ∧
              view.IsBlock definition.content ∧ view.IsRecord record.content := by
  refine ⟨length_viewDocuments views, ?_, ?_, ?_⟩
  · intro position view found
    refine ⟨⟨toString position, _⟩, ?_, rfl, view.isRecord_content⟩
    rw [getElem?_viewDocuments, found]
    rfl
  · intro position place view other document otherDocument found otherFound recorded
      otherRecorded
    rw [getElem?_viewDocuments, found] at recorded
    rw [getElem?_viewDocuments, otherFound] at otherRecorded
    obtain rfl := Option.some.inj recorded
    obtain rfl := Option.some.inj otherRecorded
    rw [View.sameTexts_iff, ← ViewRecord.compact_toJson_inj]
  · rintro manifest documents rfl compiled
    exact ⟨(Manifest.emits_of_compile compiled).count,
      fun _ _ found => Manifest.view_aligned compiled found⟩

end SemanticIndex
