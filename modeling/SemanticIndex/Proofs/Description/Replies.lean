import SemanticIndex.Proofs.Description.Restriction
import SemanticIndex.Proofs.Description.WrittenReplies
import SemanticIndex.Proofs.Json.Fields

/-!
# Reading what has been written

However descriptions are written as a reply, reading it gives them back with the blanks of their
strings collapsed, names included; of the models with one name the last one counts.
-/

namespace SemanticIndex.Reply

open Json Text

/-! ## Reading records -/

/-- A name without blanks is told from others before and after collapsing. -/
def Plain (name : String) : Prop :=
  ∀ character ∈ name.toList, isBlank character = false

instance (name : String) : Decidable (Plain name) :=
  List.decidableBAll (fun character => isBlank character = false) name.toList

theorem exists_key
    {field : Field}
    (whole : ∀ glyph ∈ field.key, glyph.character? ≠ none) :
    ∃ key, stringOf? field.keyPieces = some key ∧
      ∀ name, Plain name → (key = name ↔ field.name = name) := by
  let literal : StringLiteral := ⟨field.key, whole⟩
  exact ⟨literal.collapsed.text, literal.collapsed.stringOf?_pieces,
    fun _ plain => literal.text_collapsed_eq_iff plain⟩

/-- Unknown fields are passed over, and the known ones are found in their order. -/
theorem knownFields?_map
    {known : List String}
    (plain : ∀ name ∈ known, Plain name)
    {form : Field → Form}
    {fields : List Field}
    (whole : ∀ field ∈ fields, ∀ glyph ∈ field.key, glyph.character? ≠ none)
    {found : Fields Form}
    (distinct : (found.keys ++ (fields.filter (·.name ∈ known)).map Field.name).Nodup) :
    knownFields? known found (fields.map fun field => (field.keyPieces, form field)) =
      some (found ++
        (fields.filter (·.name ∈ known)).map fun field => (field.name, form field)) := by
  induction fields generalizing found with
  | nil => exact congrArg some (List.append_nil found).symm
  | cons field fields induction =>
    obtain ⟨here, whole⟩ := List.forall_mem_cons.mp whole
    obtain ⟨key, read, named⟩ := exists_key here
    rw [List.map_cons, knownFields?, read, Option.bind_eq_bind, Option.bind_some]
    by_cases inside : field.name ∈ known
    · obtain rfl : key = field.name := (named _ (plain _ inside)).mpr rfl
      rw [List.filter_cons_of_pos (by simpa using inside)] at distinct ⊢
      have fresh : field.name ∉ found.keys := by
        intro taken
        exact (List.nodup_append.mp distinct).2.2 _ taken _ List.mem_cons_self rfl
      rw [if_pos (by simpa using inside), Fields.get?_eq_none fresh, if_neg (by simp),
        Fields.put_of_not_mem fresh, induction whole]
      · simp
      · simpa [Fields.keys] using distinct
    · have outside : key ∉ known := by
        intro known
        exact inside ((named key (plain key known)).mp rfl ▸ known)
      rw [List.filter_cons_of_neg (by simpa using inside)] at distinct ⊢
      rw [if_neg (by simpa using outside), induction whole distinct]

theorem get?_map_name
    {forms : Fields Form}
    {form : Field → Form}
    {fields : List Field}
    (given : ∀ field ∈ fields, forms.get? field.name = some (form field))
    {key : String}
    {found : Form}
    (present : forms.get? key = some found) :
    Fields.get? (fields.map fun field => (field.name, form field)) key =
      (Fields.get? (fields.map fun field => (field.name, field.value)) key).map
        fun _ => found := by
  induction fields with
  | nil => rfl
  | cons field fields induction =>
    obtain ⟨here, given⟩ := List.forall_mem_cons.mp given
    rw [List.map_cons, List.map_cons, Fields.get?, Fields.get?]
    by_cases same : field.name = key
    · rw [if_pos same, if_pos same, Option.map_some, ← here, same, present]
    · rw [if_neg same, if_neg same, induction given]

/-- A record is read as an object in which the forms of its members are found, wherever they stand
and whatever stands between them. -/
theorem IsRecord.exists_members
    {known : List String}
    {members : Fields (List Char)}
    {characters : List Char}
    (record : IsRecord known members characters)
    (plain : ∀ name ∈ known, Plain name)
    (distinct : known.Nodup)
    {forms : Fields Form}
    (keyed : forms.keys = known)
    (writes : ∀ entry ∈ forms, ∀ text ∈ members.get? entry.1, Writes text entry.2) :
    ∃ form found, Writes characters form ∧ members? known form = some found ∧
      ∀ entry ∈ forms, found.get? entry.1 = (members.get? entry.1).map fun _ => entry.2 := by
  subst keyed
  obtain @⟨fields, body, spelled, whole, values, once⟩ := record
  have each : ∀ field ∈ fields, ∃ form, Writes field.value form ∧
      (field.name ∈ forms.keys → forms.get? field.name = some form) := by
    intro field inside
    by_cases known : field.name ∈ forms.keys
    · obtain ⟨form, present⟩ := Fields.exists_get?_of_mem_keys known
      refine ⟨form, writes _ (Fields.mem_of_get? present) _ ?_, fun _ => present⟩
      apply Fields.get?_of_mem once
      exact List.mem_map.mpr ⟨field, List.mem_filter.mpr ⟨inside, by simpa using known⟩, rfl⟩
    · obtain ⟨form, writes⟩ := (values field inside known).writes
      exact ⟨form, writes, fun inside => absurd inside known⟩
  choose! form reads given using each
  refine ⟨_, _, writes_object spelled reads, knownFields?_map plain whole ?_, ?_⟩
  · simpa [knownMembers, Fields.keys, Function.comp_def] using once
  · intro entry inside
    apply get?_map_name
    · intro field kept
      obtain ⟨kept, known⟩ := List.mem_filter.mp kept
      exact given field kept (by simpa using known)
    · exact Fields.get?_of_mem distinct inside

/-! ## Reading the parts of a reply -/

/-- Characters that are read as a form, and the form as a result. -/
def ReadAs
    {value : Type}
    (read : Form → Option value)
    (result : value)
    (characters : List Char) : Prop :=
  ∃ form, Writes characters form ∧ read form = some result

theorem readAs_quoted (literal : StringLiteral) :
    ReadAs string? literal.collapsed.text (quoted literal.glyphs) :=
  ⟨_, writes_quoted literal.glyphs, literal.collapsed.stringOf?_pieces⟩

/-- What is given is read from its form, and what is omitted is the default. -/
theorem Given.exists_form
    {value : Type}
    {isDefault : Prop}
    {spells : List Char → Prop}
    {text : Option (List Char)}
    (given : Given isDefault spells text)
    {read : Form → Option value}
    {absent result : value}
    (written : ∀ characters, spells characters → ReadAs read result characters)
    (omitted : isDefault → absent = result) :
    ∃ form, (∀ characters ∈ text, Writes characters form) ∧
      ∀ (found : Fields Form) (key : String),
        (found.get? key = text.map fun _ => form) →
          memberD? found key absent read = some result := by
  cases given with
  | omitted isDefault =>
    refine ⟨.null, by simp, ?_⟩
    intro found key member
    rw [memberD?, member, omitted isDefault]
    rfl
  | written spelled =>
    obtain ⟨form, writes, reads⟩ := written _ spelled
    refine ⟨form, ?_, ?_⟩
    · rintro _ ⟨⟩
      exact writes
    · intro found key member
      rw [memberD?, member]
      exact reads

theorem SpellsProperties.readAs
    {description : StringLiteral}
    {characters : List Char}
    (spelled : SpellsProperties description characters) :
    ReadAs description? description.collapsed.text characters := by
  obtain @⟨members, _, record, given⟩ := spelled
  obtain ⟨text, writes, reads⟩ := given.exists_form
    (fun _ equal => equal ▸ readAs_quoted description)
    StringLiteral.text_collapsed_of_empty
  obtain ⟨form, found, formWrites, known, member⟩ :=
    record.exists_members (by decide) (by decide)
      (show Fields.keys [("description", text)] = _ from rfl) (by simpa using writes)
  refine ⟨form, formWrites, ?_⟩
  rw [description?, known]
  exact reads found "description" (member _ List.mem_cons_self)

theorem SpellsList.readAs
    {item value : Type}
    {spells : item → List Char → Prop}
    {items : List item}
    {characters : List Char}
    (spelled : SpellsList spells items characters)
    {read : Form → Option value}
    {result : item → value}
    (each : ∀ item characters, spells item characters → ReadAs read (result item) characters) :
    ReadAs (arrayOf? read) (items.map result) characters := by
  obtain ⟨spelled, texts⟩ := spelled
  suffices ∃ forms, List.Forall₂ Writes _ forms ∧ forms.mapM read = some (items.map result) by
    obtain ⟨forms, writes, reads⟩ := this
    exact ⟨.array forms, writes_array spelled writes, reads⟩
  clear spelled
  induction texts with
  | nil => exact ⟨[], .nil, rfl⟩
  | cons here _ induction =>
    obtain ⟨form, writes, reads⟩ := each _ _ here
    obtain ⟨forms, others, results⟩ := induction
    refine ⟨form :: forms, .cons writes others, ?_⟩
    rw [List.mapM_cons, reads, results]
    rfl

theorem SpellsColumn.readAs
    {column : WrittenColumn}
    {characters : List Char}
    (spelled : SpellsColumn column characters) :
    ReadAs column? column.collapsed.text characters := by
  obtain @⟨members, _, record, named, given⟩ := spelled
  obtain ⟨name, nameWrites, nameReads⟩ := readAs_quoted column.name
  obtain ⟨properties, propertiesWrite, propertiesRead⟩ := given.exists_form
    (fun _ => SpellsProperties.readAs) StringLiteral.text_collapsed_of_empty
  obtain ⟨form, found, formWrites, known, member⟩ :=
    record.exists_members (by decide) (by decide)
      (show Fields.keys [("name", name), ("properties", properties)] = _ from rfl)
      (by simpa [named] using ⟨nameWrites, propertiesWrite⟩)
  have foundName : found.get? "name" = some name := by
    simpa [named] using member ("name", name) (by simp)
  have description := propertiesRead found "properties" (member ("properties", _) (by simp))
  refine ⟨form, formWrites, ?_⟩
  simp only [column?, known, foundName, nameReads, description, Option.bind_eq_bind,
    Option.bind_some]
  rfl

theorem SpellsModel.readAs
    {model : WrittenModel}
    {characters : List Char}
    (spelled : SpellsModel model characters) :
    ReadAs model? model.collapsed.text characters := by
  obtain @⟨members, _, record, named, listed, given⟩ := spelled
  obtain ⟨name, nameWrites, nameReads⟩ := readAs_quoted model.name
  obtain ⟨columns, columnsWrite, columnsRead⟩ := listed.exists_form
    (fun _ list => list.readAs fun _ _ => SpellsColumn.readAs)
    (fun none => (List.map_eq_nil_iff.mpr none).symm)
  obtain ⟨properties, propertiesWrite, propertiesRead⟩ := given.exists_form
    (fun _ => SpellsProperties.readAs) StringLiteral.text_collapsed_of_empty
  obtain ⟨form, found, formWrites, known, member⟩ :=
    record.exists_members (by decide) (by decide)
      (show Fields.keys [("name", name), ("columns", columns), ("properties", properties)] = _
        from rfl)
      (by simpa [named] using ⟨nameWrites, columnsWrite, propertiesWrite⟩)
  have foundName : found.get? "name" = some name := by
    simpa [named] using member ("name", name) (by simp)
  have listed := columnsRead found "columns" (member ("columns", _) (by simp))
  have description := propertiesRead found "properties" (member ("properties", _) (by simp))
  refine ⟨form, formWrites, ?_⟩
  simp only [model?, known, foundName, nameReads, listed, description, Option.bind_eq_bind,
    Option.bind_some, WrittenModel.text, WrittenModel.collapsed, List.map_map]
  rfl

/-- A reply is read as the collapsed descriptions, in their order. -/
theorem Spells.models?_eq
    {models : List WrittenModel}
    {characters : List Char}
    (spelled : Spells models characters) :
    (Form.ofText? none (collapse characters)).bind models? =
      some (models.map fun model => model.collapsed.text) := by
  obtain @⟨members, front, record, back, leading, trailing, isRecord, listed⟩ := spelled
  obtain ⟨list, listWrites, listReads⟩ := listed.exists_form
    (fun _ list => list.readAs fun _ _ => SpellsModel.readAs)
    (fun none => (List.map_eq_nil_iff.mpr none).symm)
  obtain ⟨form, found, writes, known, member⟩ :=
    isRecord.exists_members (by decide) (by decide)
      (show Fields.keys [("models", list)] = _ from rfl) (by simpa using listWrites)
  have read : Form.ofText? none (collapse (front ++ (record ++ back))) = some form := by
    cases isRecord
    exact ofText?_collapse leading trailing rfl writes
  rw [read, Option.bind_some, models?, known]
  exact listReads found "models" (member _ List.mem_cons_self)

/-- Of the models with one name a reply describes the last one, with the blanks of all strings
collapsed, however it is written; and replies with the same words describe the same. -/
theorem read_written :
    (∀ (models : List WrittenModel) (reply : String), Spells models reply.toList →
      ∀ name, (read reply).find? name =
        (models.map fun model => model.collapsed.text).reverse.find? (·.name = name)) ∧
    ∀ one other : String, words one.toList = words other.toList → read one = read other := by
  constructor
  · intro models reply spelled name
    rw [read, spelled.models?_eq, Option.getD_some, Descriptions.find?_ofList, ← List.map_reverse,
      List.find?_map, Option.map_map]
    exact Option.map_id'
  · intro one other same
    rw [read, read, collapse, collapse, same]

/-- Characters that stand for themselves. -/
def rawGlyphs (text : String) (legal : text.toList.all (StandsRaw ·) = true) : List Glyph :=
  text.toList.pmap .raw (by simpa using legal)

/-- A model without columns and a description. -/
def firstOrders : WrittenModel :=
  ⟨.ofText "daily orders", .ofText "", []⟩

/-- A model whose name is the same only once its blanks are collapsed. -/
def laterOrders : WrittenModel :=
  ⟨⟨rawGlyphs "daily\n orders" (by decide), by decide⟩,
    ⟨rawGlyphs "per\n\n" (by decide) ++ .short 't' '\t' rfl :: rawGlyphs "day" (by decide),
      by decide⟩,
    []⟩

/-- The fields of the later model, with a key that is unknown. -/
def laterFields : List Field :=
  [bareField "note" ['n', 'u', 'l', 'l'], bareField "name" (quoted laterOrders.name.glyphs),
    ⟨(StringLiteral.ofText "properties").glyphs, [], [' '], propertiesText laterOrders.description,
      allBlank_nil, List.forall_mem_singleton.mpr rfl⟩]

def ordersTexts : List (List Char) :=
  [recordText [("name", quoted firstOrders.name.glyphs)], objectText laterFields]

theorem spells_ordersTexts :
    List.Forall₂ SpellsModel [firstOrders, laterOrders] ordersTexts := by
  refine .cons ?_ (.cons ?_ .nil)
  · exact .intro (isRecord_recordText (by decide) (by decide)) rfl (.omitted rfl) (.omitted rfl)
  · refine .intro (isRecord_objectText (by decide) ?_ (by decide)) (by decide) (.omitted rfl)
      (.written (spellsProperties_propertiesText _))
    simp only [laterFields, List.forall_mem_cons]
    exact ⟨fun _ => .null, (absurd (by decide) ·), (absurd (by decide) ·), List.forall_mem_nil _⟩

def ordersReply : String :=
  "\n\x7b\"models\":[\x7b\"name\":\"daily\\u0020orders\"\x7d,\x7b\"note\":null," ++
    "\"name\":\"daily\n orders\",\"properties\": " ++
    "\x7b\"description\":\"per\n\n\\tday\"\x7d\x7d]\x7d\n"

theorem spells_ordersReply : Spells [firstOrders, laterOrders] ordersReply.toList := by
  have newline : AllBlank ['\n'] := List.forall_mem_singleton.mpr rfl
  have written : ordersReply.toList =
      ['\n'] ++ (recordText [("models", '[' :: listed ']' ordersTexts)] ++ ['\n']) := by
    decide +kernel
  rw [written]
  exact .intro newline newline (isRecord_recordText (by decide) (by decide))
    (.written (.intro (items_listed ']' ordersTexts) spells_ordersTexts))

theorem read_written_orders :
    (Spells [firstOrders, laterOrders] ordersReply.toList ∧
      (read ordersReply).find? "daily orders" =
        some ⟨"daily orders", "per \tday", []⟩) ∧
    words ordersReply.toList = words (ordersReply ++ "\n").toList ∧
      read ordersReply = read (ordersReply ++ "\n") := by
  have same : words ordersReply.toList = words (ordersReply ++ "\n").toList := by decide +kernel
  refine ⟨⟨spells_ordersReply, ?_⟩, same, read_written.2 ordersReply _ same⟩
  rw [read_written.1 [firstOrders, laterOrders] ordersReply spells_ordersReply]
  decide

theorem collapsed_ofDescription (model : ModelDescription) :
    (WrittenModel.ofDescription model).collapsed.text = model := by
  simp [WrittenModel.ofDescription, WrittenModel.collapsed, WrittenModel.text, WrittenColumn.text,
    WrittenColumn.collapsed, WrittenColumn.ofDescription, Function.comp_def]

/-- Any descriptions come back as they are when no blank of theirs stands for itself. -/
theorem read_replyText (descriptions : List ModelDescription) :
    read (replyText descriptions) =
      .ofList (descriptions.map fun model => (model.name, model)) := by
  rw [read, (spells_replyText descriptions).models?_eq, List.map_map]
  simp only [Function.comp_def, collapsed_ofDescription, List.map_id', Option.getD_some]

end SemanticIndex.Reply
