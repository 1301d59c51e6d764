import SemanticIndex.Proofs.Command.Running
import SemanticIndex.Proofs.Indexing.Outcome
import SemanticIndex.Proofs.Indexing.Reruns
import SemanticIndex.Proofs.Store.Listing

/-!
# The life of an index

The database of an index begins without a file and is then changed by commands alone, each with a
manifest and settings of its own: any mode, any length of vectors, any two collections.  Clearing
deletes only positional ids, so what every command has to leave behind, in whatever role a
collection was used before, is collections without gaps.
-/

namespace SemanticIndex

/-! ## Runs over one database -/

section Run

variable {settings : Settings} {text : String} {content final : Database}
variable {result : Except Error Report}
variable (runs : (settings.indexer.run text).perform ((), content) = (result, ((), final)))

include runs

/-- A run leaves every collection alone that its settings do not name. -/
theorem Settings.contents_of_run
    {name : String}
    (noDdl : name ≠ settings.ddlCollection)
    (noViews : name ≠ settings.viewCollection) :
    final.contents name = content.contents name := by
  have kept : ((settings.indexer.run text).perform ((), content)).2.2.contents name =
      content.contents name :=
    Indexer.run_keeps (Database.store_keeps noDdl) (Database.store_keeps noViews) text
      ((), content)
  rw [runs] at kept
  exact kept

variable (differ : settings.ddlCollection ≠ settings.viewCollection)
variable (contiguous : ∀ name, (content.contents name).Contiguous)

include differ contiguous

theorem Settings.settled_of_run :
    Settled (HashEmbedder.mk settings.dimensions).embed settings.mode text () result ()
      (final.contents settings.ddlCollection, final.contents settings.viewCollection) := by
  let pair : StorePair := .shared settings.ddlCollection settings.viewCollection differ
  have ddlContiguous : (pair.contents content).1.Contiguous := contiguous settings.ddlCollection
  have viewsContiguous : (pair.contents content).2.Contiguous := contiguous settings.viewCollection
  obtain ⟨found, _, after, ran, settled⟩ :=
    StorePair.run_settled (HashEmbedder.mk settings.dimensions).embed settings.mode text ()
      ddlContiguous viewsContiguous
  obtain ⟨rfl, sameWorld⟩ := Prod.mk.inj (ran.symm.trans runs)
  obtain rfl : after = final := congrArg Prod.snd sameWorld
  exact settled

theorem Settings.contiguous_of_run (name : String) : (final.contents name).Contiguous := by
  have settled := settled_of_run runs differ contiguous
  by_cases ddl : name = settings.ddlCollection
  · rw [ddl]
    exact settled.ddlContiguous
  · by_cases views : name = settings.viewCollection
    · rw [views]
      exact settled.viewsContiguous
    · rw [contents_of_run runs ddl views]
      exact contiguous name

/-- After a success both collections list what the manifest compiles to and its records. -/
theorem Settings.lists_of_run
    {report : Report}
    (succeeded : result = .ok report) :
    ∃ manifest batch, Manifest.validate text = .ok manifest ∧ manifest.compile = .ok batch ∧
      final.Lists settings.ddlCollection batch ∧
      final.Lists settings.viewCollection (viewDocuments manifest.views) := by
  have settled := settled_of_run runs differ contiguous
  obtain ⟨statements, records, takes, -, numbered, held, recordsNumbered, recordsHeld⟩ :=
    settled.stored report succeeded
  have documents (batch : List Document) :
      (batch.map (HashEmbedder.mk settings.dimensions).embedDocument).map
        EmbeddedDocument.document = batch := by
    rw [List.map_map]
    exact List.map_id batch
  rcases HashEmbedder.course_cases takes with
    ⟨_, _, other⟩ | ⟨_, _, _, _, other⟩ | ⟨manifest, batch, valid, compiled, same⟩
  · exact nomatch other
  · exact nomatch other
  · obtain ⟨rfl, rfl⟩ := Course.complete.inj same
    exact ⟨manifest, batch, valid, compiled,
      Database.lists_of_holds held numbered (documents batch),
      Database.lists_of_holds recordsHeld recordsNumbered (documents _)⟩

end Run

/-! ## Runs in directories -/

namespace Directory

/-- An index command has run over the database at a location, which stands open behind it. -/
structure RunsOver
    (directory after : Directory)
    (location : Location)
    (file settingsFile : String)
    (settings : Settings)
    (text : String)
    (result : Except Error Report) : Prop where
  accepted : directory.settings settingsFile = .ok settings
  opens : after.Opens settings.path location (after.databaseAt location)
  read : after.readText file = .ok text
  runs : (settings.indexer.run text).perform ((), directory.databaseAt location) =
    (result, ((), after.databaseAt location))

variable {directory after : Directory} {location : Location} {file settingsFile : String}
variable {outcome : Except Failure Json}

theorem runsOver_of_opens
    {settings : Settings}
    {content final : Database}
    {made : Directory}
    {text : String}
    {result : Except Error Report}
    (accepted : directory.settings settingsFile = .ok settings)
    (opened : (openDatabase settings.path).run directory = (.ok content, made))
    (opens : made.Opens settings.path location content)
    (read : made.readText file = .ok text)
    (runs : (settings.indexer.run text).perform ((), content) = (result, ((), final))) :
    RunsOver directory (made.put location (.database final)) location file settingsFile settings
      text result := by
  have before : directory.databaseAt location = content :=
    ((opening opened).kept location).symm.trans opens.databaseAt_eq
  have behind : (made.put location (.database final)).databaseAt location = final :=
    (opens.put final).databaseAt_eq
  constructor
  · exact accepted
  · rw [behind]
    exact opens.put final
  · rw [opens.readText_put]
    exact read
  · rw [before, behind]
    exact runs

namespace IndexEnds

theorem databaseAt_eq_or_runsOver
    (ends : IndexEnds directory file settingsFile outcome after)
    (location : Location) :
    after.databaseAt location = directory.databaseAt location ∨
      ∃ settings text result,
        RunsOver directory after location file settingsFile settings text result := by
  cases ends with
  | unset refused => exact .inl rfl
  | unopened accepted failed => exact .inl ((opening failed).kept location)
  | unread accepted opened failed => exact .inl ((opening opened).kept location)
  | @ran settings place content final made text result accepted opened opens read runs =>
    by_cases same : location = place
    · subst same
      exact .inr ⟨settings, text, result, runsOver_of_opens accepted opened opens read runs⟩
    · left
      rw [databaseAt_put_of_ne same]
      exact (opening opened).kept location

/-- A successful index command has run over the database of its settings. -/
theorem runsOver_of_ok
    {value : Json}
    {settings : Settings}
    (ends : IndexEnds directory file settingsFile (.ok value) after)
    (accepted : directory.settings settingsFile = .ok settings)
    (located : after.locateDatabase settings.path = .ok location) :
    ∃ text report,
      RunsOver directory after location file settingsFile settings text (.ok report) := by
  generalize sameOutcome : Except.ok value = outcome at ends
  cases ends with
  | unset refused => exact nomatch sameOutcome
  | unopened accepted failed => exact nomatch sameOutcome
  | unread accepted opened failed => exact nomatch sameOutcome
  | @ran actual place content final made text result actuallyAccepted opened opens read runs =>
    obtain rfl := Except.ok.inj (accepted.symm.trans actuallyAccepted)
    obtain rfl := Except.ok.inj (located.symm.trans (opens.put final).located)
    cases result with
    | error error => exact nomatch sameOutcome
    | ok report =>
      exact ⟨text, report, runsOver_of_opens accepted opened opens read runs⟩

end IndexEnds

/-- A command leaves a database as it is unless it is an index that runs over it. -/
theorem databaseAt_eq_or_runsOver
    (directory : Directory)
    (command : Command)
    (location : Location) :
    let after := ((surroundings.run command).run directory).2
    after.databaseAt location = directory.databaseAt location ∨
      ∃ file settingsFile settings text result, command = .index file settingsFile ∧
        RunsOver directory after location file settingsFile settings text result := by
  intro after
  have performed : after = ((surroundings.result command).perform directory).2 :=
    congrArg Prod.snd (run_command command directory)
  cases kind : command.isIndex with
  | false =>
    left
    rw [performed]
    exact databaseAt_of_not_isIndex kind directory location
  | true =>
    cases command with
    | index file settingsFile =>
      have ends := indexEnds directory file settingsFile
      rcases ends.databaseAt_eq_or_runsOver location with kept | ⟨settings, text, result, ranOver⟩
      · exact .inl (performed ▸ kept)
      · exact .inr ⟨file, settingsFile, settings, text, result, rfl, performed ▸ ranOver⟩
    | _ => exact nomatch kind

/-! ## Lives -/

/--
The directories in which the database at a location leads its life.  At first it has no file; only
commands change it, while everything beside it may change in between.
-/
inductive Life (location : Location) : Directory → Prop where
  | absent
      {directory : Directory}
      (missing : directory.node? location = none) :
      Life location directory
  | edited
      {directory other : Directory}
      (life : Life location directory)
      (same : other.node? location = directory.node? location) :
      Life location other
  | ran
      {directory : Directory}
      (life : Life location directory)
      (command : Command) :
      Life location ((surroundings.run command).run directory).2

theorem Life.contiguous
    (life : Life location directory)
    (name : String) :
    ((directory.databaseAt location).contents name).Contiguous := by
  -- Commands may swap the roles of collections, so the induction is on all of them at once.
  induction life generalizing name with
  | absent missing =>
    rw [databaseAt_of_node?_eq_none missing]
    exact Contents.contiguous_empty
  | @edited directory other life same induction =>
    have sameDatabase : other.databaseAt location = directory.databaseAt location := by
      rw [databaseAt, databaseAt, same]
    rw [sameDatabase]
    exact induction name
  | @ran directory life command induction =>
    rcases databaseAt_eq_or_runsOver directory command location with
      kept | ⟨file, settingsFile, settings, text, result, rfl, ranOver⟩
    · rw [kept]
      exact induction name
    · have differ := (sound_of_settings ranOver.accepted).differ
      exact Settings.contiguous_of_run ranOver.runs differ induction name

/-! ## What a command shows and changes -/

/-- The printing commands print the given documents for a file and change nothing. -/
structure Prints
    (directory : Directory)
    (file : String)
    (statements records : List Document) : Prop where
  compile : (surroundings.run (.compile file)).run directory =
    (.ofResult (.ok (documentsJson statements)), directory)
  views : (surroundings.run (.views file)).run directory =
    (.ofResult (.ok (documentsJson records)), directory)

namespace RunsOver

variable {settings : Settings} {text : String} {result : Except Error Report}

/-- A run changes collections only for a valid manifest, and only those that its settings name. -/
theorem of_changed
    {name : String}
    (ranOver : RunsOver directory after location file settingsFile settings text result)
    (changed : (after.databaseAt location).contents name ≠
      (directory.databaseAt location).contents name) :
    (∃ manifest, Manifest.validate text = .ok manifest) ∧
      (name = settings.ddlCollection ∨ name = settings.viewCollection) := by
  constructor
  · cases valid : Manifest.validate text with
    | ok manifest => exact ⟨manifest, rfl⟩
    | error error =>
      have untouched := ranOver.runs.symm.trans (Indexer.perform_run_of_invalid valid _)
      have sameDatabase : after.databaseAt location = directory.databaseAt location :=
        congrArg (fun outcome => outcome.2.2) untouched
      exact (changed (by rw [sameDatabase])).elim
  · by_cases ddl : name = settings.ddlCollection
    · exact .inl ddl
    · by_cases views : name = settings.viewCollection
      · exact .inr views
      · exact (changed (Settings.contents_of_run ranOver.runs ddl views)).elim

theorem prints_and_lists
    {report : Report}
    (ranOver : RunsOver directory after location file settingsFile settings text (.ok report))
    (contiguous : ∀ name, ((directory.databaseAt location).contents name).Contiguous) :
    ∃ statements records,
      (∀ other : Directory, other.readText file = after.readText file →
        other.Prints file statements records) ∧
      (after.databaseAt location).Lists settings.ddlCollection statements ∧
        (after.databaseAt location).Lists settings.viewCollection records := by
  have differ := (sound_of_settings ranOver.accepted).differ
  rcases Settings.lists_of_run ranOver.runs differ contiguous rfl with
    ⟨manifest, batch, valid, compiled, statementsListed, recordsListed⟩
  refine ⟨batch, viewDocuments manifest.views, ?_, statementsListed, recordsListed⟩
  intro other sameText
  have read : other.readText file = .ok text := sameText.trans ranOver.read
  exact ⟨run_compile read valid compiled, run_views read valid⟩

end RunsOver

theorem Opens.run_count_of_lists
    {countFile : String}
    {settings : Settings}
    {content : Database}
    {statements records : List Document}
    (opens : directory.Opens settings.path location content)
    (accepted : directory.settings countFile = .ok settings)
    (statementsListed : content.Lists settings.ddlCollection statements)
    (recordsListed : content.Lists settings.viewCollection records) :
    (surroundings.run (.count countFile)).run directory =
      (.ofResult (.ok (.object [
        ("ddl_collection", .string settings.ddlCollection),
        ("ddl_documents", .integer statements.length),
        ("view_collection", .string settings.viewCollection),
        ("view_documents", .integer records.length)])), directory) := by
  rw [opens.run_count accepted, Settings.countsJson, statementsListed.count, recordsListed.count]

/--
After every command in the life of a database no collection has a gap.  A collection has changed
only if the command was an index that ran over the database with a valid manifest and settings
that name the collection.  After a successful index both collections list exactly what the
printing commands print for its file, and counting with its settings prints their numbers.
-/
theorem Life.after_command
    (life : Life location directory)
    (command : Command) :
    let outcome := ((surroundings.run command).run directory).1
    let after := ((surroundings.run command).run directory).2
    (∀ name, ((after.databaseAt location).contents name).Contiguous) ∧
      (∀ name,
        (after.databaseAt location).contents name ≠ (directory.databaseAt location).contents name →
          ∃ file settingsFile settings text manifest,
            command = .index file settingsFile ∧
              directory.settings settingsFile = .ok settings ∧
              after.locateDatabase settings.path = .ok location ∧
              after.readText file = .ok text ∧ Manifest.validate text = .ok manifest ∧
              (name = settings.ddlCollection ∨ name = settings.viewCollection)) ∧
      ∀ file settingsFile settings,
        command = .index file settingsFile → outcome.code = 0 →
          directory.settings settingsFile = .ok settings →
          after.locateDatabase settings.path = .ok location →
            ∃ statements records,
              (∀ other : Directory, other.readText file = after.readText file →
                other.Prints file statements records) ∧
              (after.databaseAt location).Lists settings.ddlCollection statements ∧
              (after.databaseAt location).Lists settings.viewCollection records ∧
              ∀ countFile, after.settings countFile = .ok settings →
                (surroundings.run (.count countFile)).run after =
                  (.ofResult (.ok (.object [
                    ("ddl_collection", .string settings.ddlCollection),
                    ("ddl_documents", .integer statements.length),
                    ("view_collection", .string settings.viewCollection),
                    ("view_documents", .integer records.length)])), after) := by
  intro outcome after
  refine ⟨(life.ran command).contiguous, ?_, ?_⟩
  · intro name changed
    rcases databaseAt_eq_or_runsOver directory command location with
      kept | ⟨file, settingsFile, settings, text, result, rfl, ranOver⟩
    · exact (changed (by rw [kept])).elim
    · rcases ranOver.of_changed changed with ⟨⟨manifest, valid⟩, named⟩
      exact ⟨file, settingsFile, settings, text, manifest, rfl, ranOver.accepted,
        ranOver.opens.located, ranOver.read, valid, named⟩
  · rintro file settingsFile settings rfl succeeded accepted located
    have performed := run_command (.index file settingsFile) directory
    have sameOutcome : outcome =
        .ofResult ((surroundings.index file settingsFile).perform directory).1 :=
      congrArg Prod.fst performed
    have sameAfter : ((surroundings.index file settingsFile).perform directory).2 = after :=
      (congrArg Prod.snd performed).symm
    rw [sameOutcome] at succeeded
    rcases Outcome.exists_ok_of_code_eq_zero succeeded with ⟨value, returned⟩
    have ends := indexEnds directory file settingsFile
    rw [returned, sameAfter] at ends
    rcases ends.runsOver_of_ok accepted located with ⟨text, report, ranOver⟩
    rcases ranOver.prints_and_lists life.contiguous with
      ⟨statements, records, prints, statementsListed, recordsListed⟩
    refine ⟨statements, records, prints, statementsListed, recordsListed, ?_⟩
    intro countFile counted
    exact ranOver.opens.run_count_of_lists counted statementsListed recordsListed

/-- A second index gives each collection the role that the other one had before. -/
theorem Life.after_command_with_swapped_collections :
    let manifest := "\x7b\"views\":[\x7b\"name\":\"v\",\"statement\":\"SELECT 1\"\x7d]\x7d"
    let swapped :=
      "[store]\nddl_collection = \"view_questions\"\nview_collection = \"Document\"\n"
    let start := ((Directory.empty "now").addText "mdl.json" manifest).addText "swap.toml" swapped
    let first := ((surroundings.run (.index "mdl.json" "mdl-index.toml")).run start).2
    let after := ((surroundings.run (.index "mdl.json" "swap.toml")).run first).2
    let place : Location := [".mdl", "index.db"]
    Life place first ∧
      ((surroundings.run (.index "mdl.json" "swap.toml")).run first).1.code = 0 ∧
      ∃ statements records,
        after.Prints "mdl.json" statements records ∧
          (after.databaseAt place).Lists "view_questions" statements ∧
          (after.databaseAt place).Lists "Document" records := by
  intro manifest swapped start first after place
  let settings : Settings :=
    { Settings.default with ddlCollection := "view_questions", viewCollection := "Document" }
  have life : Life place first := .ran (.absent (by decide +kernel)) _
  have computed : ((surroundings.run (.index "mdl.json" "swap.toml")).run first).1.code = 0 ∧
      first.settings "swap.toml" = .ok settings ∧
      after.locateDatabase settings.path = .ok place := by
    decide +kernel
  rcases computed with ⟨succeeded, accepted, located⟩
  obtain ⟨statements, records, prints, statementsListed, recordsListed, -⟩ :=
    (life.after_command (.index "mdl.json" "swap.toml")).2.2 "mdl.json" "swap.toml" settings rfl
      succeeded accepted located
  exact ⟨life, succeeded, statements, records, prints after rfl, statementsListed, recordsListed⟩

end Directory

end SemanticIndex
