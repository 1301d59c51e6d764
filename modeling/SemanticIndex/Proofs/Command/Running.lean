import SemanticIndex.Proofs.Command.DatabaseFile
import SemanticIndex.Proofs.SoundSettings

/-!
# Commands in directories

In a directory every command reads what it needs first.  Printing what a manifest compiles to, its
records and its descriptions changes nothing; counting opens a database; and an index comes to a
run over a database only when its settings are accepted, the database opens and its file is read.
-/

namespace SemanticIndex

/-! ## Settings -/

/-- The settings that a directory has for a command, with the dataset of the environment. -/
def Directory.settings (directory : Directory) (path : String) : Except Error Settings := do
  (← Settings.ofFile (directory.readText path)).withDataset directory.dataset

theorem Directory.exists_loaded_of_settings
    {directory : Directory}
    {path : String}
    {settings : Settings}
    (accepted : directory.settings path = .ok settings) :
    ∃ loaded, Settings.ofFile (directory.readText path) = .ok loaded ∧
      loaded.withDataset directory.dataset = .ok settings := by
  rw [Directory.settings] at accepted
  cases read : Settings.ofFile (directory.readText path) with
  | error error =>
    rw [read] at accepted
    exact nomatch accepted
  | ok loaded =>
    rw [read] at accepted
    exact ⟨loaded, rfl, accepted⟩

/-- The settings that a command accepts are sound. -/
theorem Directory.sound_of_settings
    {directory : Directory}
    {path : String}
    {settings : Settings}
    (accepted : directory.settings path = .ok settings) :
    settings.Sound := by
  obtain ⟨loaded, read, replaced⟩ := exists_loaded_of_settings accepted
  exact (Settings.sound_of_ofFile read).of_withDataset replaced

/-! ## Steps of commands -/

namespace Surroundings.Step

variable {result value : Type}

def perform
    (step : Step (StateM Directory) result)
    (directory : Directory) : Except Failure result × Directory :=
  StateT.run (ExceptT.run step) directory

theorem perform_bind
    (step : Step (StateM Directory) value)
    (next : value → Step (StateM Directory) result)
    (directory : Directory) :
    perform (step >>= next) directory =
      match perform step directory with
      | (.ok value, middle) => perform (next value) middle
      | (.error failure, middle) => (.error failure, middle) := by
  change StateT.run (ExceptT.run step >>= ExceptT.bindCont next) directory = _
  rcases performed : perform step directory with ⟨outcome, middle⟩
  have started : ExceptT.run step directory = (outcome, middle) := performed
  simp only [StateT.run, bind, StateT.bind, started]
  cases outcome <;> rfl

def Reads (step : Step (StateM Directory) result) : Prop :=
  ∀ directory, (perform step directory).2 = directory

theorem Reads.bind
    {step : Step (StateM Directory) value}
    {next : value → Step (StateM Directory) result}
    (reads : Reads step)
    (nextReads : ∀ value, Reads (next value)) :
    Reads (step >>= next) := by
  intro directory
  have kept := reads directory
  rw [perform_bind]
  rcases performed : perform step directory with ⟨outcome, middle⟩
  rw [performed] at kept
  cases outcome with
  | ok value => exact (nextReads value middle).trans kept
  | error failure => exact kept

theorem reads_check (given : Except Error result) :
    Reads (Surroundings.check given : Step (StateM Directory) result) := by
  intro directory
  rfl

theorem reads_pure (value : result) : Reads (pure value : Step (StateM Directory) result) := by
  intro directory
  rfl

theorem reads_readFile (path : String) : Reads (Directory.surroundings.readFile path) := by
  intro directory
  rfl

theorem reads_readManifest (file : String) : Reads (Directory.surroundings.readManifest file) :=
  (reads_readFile file).bind fun _ => reads_check _

end Surroundings.Step

/-- What a command that comes to a result or a failure leaves behind. -/
def Outcome.ofResult : Except Failure Json → Outcome
  | .ok value => ⟨0, value.indented ++ "\n", none⟩
  | .error failure => ⟨1, "", some failure.message⟩

theorem Outcome.exists_ok_of_code_eq_zero
    {result : Except Failure Json}
    (succeeded : (ofResult result).code = 0) :
    ∃ value, result = .ok value := by
  cases result with
  | ok value => exact ⟨value, rfl⟩
  | error failure => exact nomatch succeeded

def Command.isIndex : Command → Bool
  | .index _ _ => true
  | _ => false

namespace Directory

open Surroundings (Step)

variable {directory : Directory}

theorem perform_readFile (path : String) (directory : Directory) :
    (surroundings.readFile path).perform directory =
      match directory.readText path with
      | .ok text => (.ok text, directory)
      | .error cause => (.error (.unreadable path cause), directory) := by
  change ((directory.readText path).mapError (Failure.unreadable path), directory) = _
  cases directory.readText path <;> rfl

theorem perform_readSettings (path : String) (directory : Directory) :
    (surroundings.readSettings path).perform directory =
      match directory.settings path with
      | .ok settings => (.ok settings, directory)
      | .error error => (.error (.failed error), directory) := by
  have read : Step.perform (liftM (surroundings.readText path)) directory =
      (.ok (directory.readText path), directory) := rfl
  rw [Surroundings.readSettings, Step.perform_bind, read, settings]
  simp only [Step.perform_bind]
  cases Settings.ofFile (directory.readText path) with
  | error error => rfl
  | ok fromFile =>
    change ((fromFile.withDataset directory.dataset).mapError Failure.failed, directory) =
      match fromFile.withDataset directory.dataset with
      | .ok settings => (.ok settings, directory)
      | .error error => (.error (.failed error), directory)
    cases fromFile.withDataset directory.dataset <;> rfl

theorem perform_openIndex (settings : Settings) (directory : Directory) :
    (surroundings.openIndex settings).perform directory =
      match (openDatabase settings.path).run directory with
      | (.ok content, made) => (.ok content, made)
      | (.error error, made) => (.error (.failed error), made) := by
  rcases opened : (openDatabase settings.path).run directory with ⟨outcome, made⟩
  have started : openDatabase settings.path directory = (outcome, made) := opened
  change ((openDatabase settings.path directory).1.mapError Failure.failed,
    (openDatabase settings.path directory).2) = _
  rw [started]
  cases outcome <;> rfl

theorem run_command (command : Command) (directory : Directory) :
    (surroundings.run command).run directory =
      (.ofResult ((surroundings.result command).perform directory).1,
        ((surroundings.result command).perform directory).2) := by
  change StateT.run ((surroundings.result command).run >>= _) directory = _
  rcases performed : (surroundings.result command).perform directory with ⟨outcome, after⟩
  have ran : (surroundings.result command).run directory = (outcome, after) := performed
  simp only [StateT.run, bind, StateT.bind, ran]
  cases outcome <;> rfl

section Printing

variable {file text : String} {manifest : Manifest}
variable (read : directory.readText file = .ok text) (valid : Manifest.validate text = .ok manifest)

include read valid

theorem perform_readManifest_of_valid :
    (surroundings.readManifest file).perform directory = (.ok manifest, directory) := by
  rw [Surroundings.readManifest, Step.perform_bind, perform_readFile, read]
  simp only [valid]
  rfl

theorem run_compile
    {batch : List Document}
    (compiled : manifest.compile = .ok batch) :
    (surroundings.run (.compile file)).run directory =
      (.ofResult (.ok (documentsJson batch)), directory) := by
  have performed : (surroundings.result (.compile file)).perform directory =
      (.ok (documentsJson batch), directory) := by
    rw [Surroundings.result, Step.perform_bind, perform_readManifest_of_valid read valid]
    simp only [Step.perform_bind, compiled]
    rfl
  rw [run_command, performed]

theorem run_views :
    (surroundings.run (.views file)).run directory =
      (.ofResult (.ok (documentsJson (viewDocuments manifest.views))), directory) := by
  have performed : (surroundings.result (.views file)).perform directory =
      (.ok (documentsJson (viewDocuments manifest.views)), directory) := by
    rw [Surroundings.result, Step.perform_bind, perform_readManifest_of_valid read valid]
    rfl
  rw [run_command, performed]

theorem run_describe
    {reply answer : String}
    (replied : directory.readText reply = .ok answer)
    (request : DescriptionRequest) :
    (surroundings.run (.describe file reply request)).run directory =
      (.ofResult (.ok (manifest.describe
        ((Reply.read answer).restrict (manifest.pick request.selected))).toJson), directory) := by
  have performed : (surroundings.result (.describe file reply request)).perform directory =
      (.ok (manifest.describe
        ((Reply.read answer).restrict (manifest.pick request.selected))).toJson, directory) := by
    rw [Surroundings.result, Surroundings.describe, Step.perform_bind,
      perform_readManifest_of_valid read valid]
    simp only [Step.perform_bind, perform_readFile, replied]
    rfl
  rw [run_command, performed]

end Printing

theorem Opens.run_count
    {settingsFile : String}
    {settings : Settings}
    {location : Location}
    {content : Database}
    (opens : directory.Opens settings.path location content)
    (accepted : directory.settings settingsFile = .ok settings) :
    (surroundings.run (.count settingsFile)).run directory =
      (.ofResult (.ok (settings.countsJson content)), directory) := by
  have performed : (surroundings.result (.count settingsFile)).perform directory =
      (.ok (settings.countsJson content), directory) := by
    rw [Surroundings.result, Surroundings.count, Step.perform_bind, perform_readSettings, accepted]
    simp only [Step.perform_bind, perform_openIndex, opens.run_openDatabase]
    rfl
  rw [run_command, performed]

/-! ## Commands that are no index -/

/-- A command that is no index leaves every database as it is. -/
theorem databaseAt_of_not_isIndex
    {command : Command}
    (noIndex : command.isIndex = false)
    (directory : Directory)
    (location : Location) :
    ((surroundings.result command).perform directory).2.databaseAt location =
      directory.databaseAt location := by
  cases command with
  | compile file =>
    have reads : Step.Reads (surroundings.result (.compile file)) :=
      (Step.reads_readManifest file).bind fun _ =>
        (Step.reads_check _).bind fun _ => Step.reads_pure _
    rw [reads directory]
  | views file =>
    have reads : Step.Reads (surroundings.result (.views file)) :=
      (Step.reads_readManifest file).bind fun _ => Step.reads_pure _
    rw [reads directory]
  | index file settingsFile => exact nomatch noIndex
  | count settingsFile =>
    rw [Surroundings.result, Surroundings.count, Step.perform_bind, perform_readSettings]
    cases directory.settings settingsFile with
    | error error => rfl
    | ok settings =>
      simp only [Step.perform_bind, perform_openIndex]
      rcases opened : (openDatabase settings.path).run directory with ⟨outcome, made⟩
      have kept := (opening opened).kept location
      cases outcome <;> exact kept
  | describe file reply request =>
    have reads : Step.Reads (surroundings.result (.describe file reply request)) := by
      apply (Step.reads_readManifest file).bind
      intro manifest
      apply (Step.reads_readFile reply).bind
      intro text
      exact (Step.reads_check _).bind fun _ => Step.reads_pure _
    rw [reads directory]

/-! ## Indexing -/

/--
How an index command ends: its settings are refused, its database or its file cannot be opened, or
it runs over the database, which is saved however the run ends.
-/
inductive IndexEnds
    (directory : Directory)
    (file settingsFile : String) :
    Except Failure Json → Directory → Prop where
  | unset
      {error : Error}
      (refused : directory.settings settingsFile = .error error) :
      IndexEnds directory file settingsFile (.error (.failed error)) directory
  | unopened
      {settings : Settings}
      {error : Error}
      {made : Directory}
      (accepted : directory.settings settingsFile = .ok settings)
      (failed : (openDatabase settings.path).run directory = (.error error, made)) :
      IndexEnds directory file settingsFile (.error (.failed error)) made
  | unread
      {settings : Settings}
      {content : Database}
      {made : Directory}
      {cause : FileError}
      (accepted : directory.settings settingsFile = .ok settings)
      (opened : (openDatabase settings.path).run directory = (.ok content, made))
      (failed : made.readText file = .error cause) :
      IndexEnds directory file settingsFile (.error (.unreadable file cause)) made
  | ran
      {settings : Settings}
      {location : Location}
      {content final : Database}
      {made : Directory}
      {text : String}
      {result : Except Error Report}
      (accepted : directory.settings settingsFile = .ok settings)
      (opened : (openDatabase settings.path).run directory = (.ok content, made))
      (opens : made.Opens settings.path location content)
      (read : made.readText file = .ok text)
      (runs : (settings.indexer.run text).perform ((), content) = (result, ((), final))) :
      IndexEnds directory file settingsFile
        ((result.mapError Failure.failed).map fun report => report.toJson made.time made.time)
        (made.put location (.database final))

theorem indexEnds (directory : Directory) (file settingsFile : String) :
    IndexEnds directory file settingsFile
      ((surroundings.index file settingsFile).perform directory).1
      ((surroundings.index file settingsFile).perform directory).2 := by
  rw [Surroundings.index, Step.perform_bind, perform_readSettings]
  cases accepted : directory.settings settingsFile with
  | error error => exact .unset accepted
  | ok settings =>
    simp only [Step.perform_bind, perform_openIndex]
    rcases opened : (openDatabase settings.path).run directory with ⟨outcome, made⟩
    cases outcome with
    | error error => exact .unopened accepted opened
    | ok content =>
      simp only [perform_readFile]
      cases read : made.readText file with
      | error cause => exact .unread accepted opened read
      | ok text =>
        rcases (opening opened).opens content rfl with ⟨location, opens⟩
        rcases runs : (settings.indexer.run text).perform ((), content) with ⟨result, ⟨_, final⟩⟩
        have ends := IndexEnds.ran accepted opened opens read runs
        have saved : Step.perform (liftM (surroundings.saveDatabase settings.path final)) made =
            (.ok (), made.put location (.database final)) :=
          congrArg (Prod.mk (Except.ok ())) (opens.run_saveDatabase final)
        have now : Step.perform (liftM surroundings.now) made = (.ok made.time, made) := rfl
        simp only [now, runs, saved]
        cases result with
        | error error => exact ends
        | ok report => exact ends

end Directory

end SemanticIndex
