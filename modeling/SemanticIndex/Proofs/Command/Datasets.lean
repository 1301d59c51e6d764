import SemanticIndex.Proofs.Command.Running
import SemanticIndex.Proofs.Store.Refinement

/-!
# Datasets of commands

A command reads settings from a file and gives them the dataset of the environment.  Whatever the
file says and the dataset is, either the settings are refused before anything is opened, or the two
collections of the command are different ones and no work on one of them reaches the other.
-/

namespace SemanticIndex

/-- The two stores of an indexer in one database leave each other's collection alone. -/
structure Settings.KeepsApart (settings : Settings) : Prop where
  differ : settings.ddlCollection ≠ settings.viewCollection
  ddl : settings.indexer.ddl.Keeps fun database => database.contents settings.viewCollection
  views : settings.indexer.views.Keeps fun database => database.contents settings.ddlCollection

theorem Settings.Sound.keepsApart {settings : Settings} (sound : settings.Sound) :
    settings.KeepsApart where
  differ := sound.differ
  ddl := Database.store_keeps sound.differ.symm
  views := Database.store_keeps sound.differ

namespace Directory

open Surroundings (Step)

/-- An index command whose settings are refused ends with their error and changes nothing. -/
theorem perform_index_of_refused
    {directory : Directory}
    {settingsFile : String}
    {error : Error}
    (refused : directory.settings settingsFile = .error error)
    (file : String) :
    (surroundings.index file settingsFile).perform directory =
      (.error (.failed error), directory) := by
  rw [Surroundings.index, Step.perform_bind, perform_readSettings, refused]

/-- The settings of a command are obtained from its file and given the dataset that is set. -/
theorem exists_obtained_of_settings
    {directory : Directory}
    {settingsFile : String}
    {settings : Settings}
    (accepted : directory.settings settingsFile = .ok settings) :
    ∃ loaded : Settings, loaded.Obtained ∧
      loaded.withDatasets [directory.dataset] = .ok settings := by
  obtain ⟨loaded, read, replaced⟩ := exists_loaded_of_settings accepted
  exact ⟨loaded, .loaded read, Settings.withDatasets_cons_of_ok replaced []⟩

/-- An index command ends with the error of its settings, or its stores keep apart. -/
theorem index_refused_or_keepsApart (directory : Directory) (file settingsFile : String) :
    match ((surroundings.readSettings settingsFile).perform directory).1 with
    | .error failure =>
      (surroundings.index file settingsFile).perform directory = (.error failure, directory)
    | .ok settings =>
      (∃ loaded : Settings, loaded.Obtained ∧
        loaded.withDatasets [directory.dataset] = .ok settings) ∧
        settings.KeepsApart := by
  rw [perform_readSettings]
  cases read : directory.settings settingsFile with
  | error error => exact perform_index_of_refused read file
  | ok settings => exact ⟨exists_obtained_of_settings read, (sound_of_settings read).keepsApart⟩

end Directory

namespace Settings

/--
Settings that are obtained in any way and given datasets one after the other have a dimension and
two different collections.  The first collection has the last name that is not blank, as it is
written, or else its original one, and nothing else changes.  A dataset is refused exactly when it
is not blank and names the view collection.  So an index command either ends with the error of its
settings or has two stores that leave each other's collection alone.
-/
theorem Obtained.after_datasets
    {settings : Settings}
    (obtained : settings.Obtained)
    (datasets : List (Option String)) :
    (∀ final, settings.withDatasets datasets = .ok final ↔
      (∀ dataset ∈ datasets, ¬Names dataset settings.viewCollection) ∧
        final = { settings with ddlCollection := lastNamed datasets settings.ddlCollection }) ∧
      (∀ final, settings.withDatasets datasets = .ok final →
        1 ≤ final.dimensions ∧ final.ddlCollection ≠ final.viewCollection ∧
          ∀ dataset error, final.withDataset dataset = .error error ↔
            Names dataset final.viewCollection ∧
              error = .settings (.sharedCollection final.viewCollection)) ∧
      ∀ (directory : Directory) (file settingsFile : String),
        match ((Directory.surroundings.readSettings settingsFile).perform directory).1 with
        | .error failure =>
          (Directory.surroundings.index file settingsFile).perform directory =
            (.error failure, directory)
        | .ok accepted =>
          (∃ loaded : Settings, loaded.Obtained ∧
            loaded.withDatasets [directory.dataset] = .ok accepted) ∧
            accepted.KeepsApart := by
  refine ⟨fun final => obtained.sound.withDatasets_eq_ok_iff datasets, ?_,
    Directory.index_refused_or_keepsApart⟩
  intro final replaced
  have sound := obtained.sound.of_withDatasets replaced
  refine ⟨sound.hasDimension, sound.differ, ?_⟩
  intro dataset error
  exact sound.withDataset_eq_error_iff

/-- A dataset keeps the blanks around its name, and one of nothing but blanks does not count. -/
theorem Obtained.after_datasets_of_tenants :
    let text := "[store]\nview_collection = \"questions\"\n[embedding]\ndimensions = 8\n"
    let settings : Settings :=
      { Settings.default with viewCollection := "questions", dimensions := 8 }
    let datasets := [some "tenant_7", none, some " tenant 42 ", some "\t\u2003"]
    let final : Settings := { settings with ddlCollection := " tenant 42 " }
    ofToml text = .ok settings ∧ settings.withDatasets datasets = .ok final ∧
      1 ≤ final.dimensions ∧ final.ddlCollection ≠ final.viewCollection ∧
      final.withDataset (some "questions") =
        .error (.settings (.sharedCollection "questions")) := by
  intro text settings datasets final
  have read : ofToml text = .ok settings := by decide +kernel
  have obtained : settings.Obtained := .read read
  have named : settings.withDatasets datasets = .ok final := by decide +kernel
  obtain ⟨hasDimension, differ, refused⟩ := (obtained.after_datasets datasets).2.1 final named
  have questions : Names (some "questions") final.viewCollection :=
    named?_eq_some_iff.mp (by decide)
  exact ⟨read, named, hasDimension, differ, (refused _ _).mpr ⟨questions, rfl⟩⟩

end Settings

end SemanticIndex
