import SemanticIndex.Proofs.Text.Trimming
import SemanticIndex.Settings

/-!
# Sound settings

Settings are sound when vectors have a dimension and the two collections differ.  The check lets
only sound settings pass, and the default settings, which nobody checks, are sound as well; so all
settings that are ever obtained are sound.  Datasets keep them so: of several datasets the last
one with a name counts, and only the name of the view collection is refused.
-/

namespace SemanticIndex.Settings

/-- Settings with at least one dimension and two different collections. -/
structure Sound (settings : Settings) : Prop where
  hasDimension : 1 ≤ settings.dimensions
  differ : settings.ddlCollection ≠ settings.viewCollection

/-- The ways to come by settings: the default ones, those of a text and those of a file. -/
inductive Obtained : Settings → Prop where
  | default : Obtained default
  | read
      {text : String}
      {settings : Settings}
      (accepted : ofToml text = .ok settings) :
      Obtained settings
  | loaded
      {content : Except FileError String}
      {settings : Settings}
      (accepted : ofFile content = .ok settings) :
      Obtained settings

variable {settings accepted : Settings}

theorem check_eq_ok_iff : settings.check = .ok accepted ↔ settings.Sound ∧ accepted = settings := by
  rw [check]
  split
  · rename_i noDimensions
    constructor
    · exact fun checked => nomatch checked
    · rintro ⟨sound, -⟩
      exact (Nat.ne_of_gt sound.hasDimension noDimensions).elim
  · split
    · rename_i same
      constructor
      · exact fun checked => nomatch checked
      · rintro ⟨sound, -⟩
        exact (sound.differ same).elim
    · rename_i someDimensions differ
      constructor
      · intro checked
        exact ⟨⟨Nat.pos_of_ne_zero someDimensions, differ⟩, (Except.ok.inj checked).symm⟩
      · rintro ⟨-, rfl⟩
        rfl

theorem check_of_shared
    (hasDimension : 1 ≤ settings.dimensions)
    (shared : settings.ddlCollection = settings.viewCollection) :
    settings.check = .error (.settings (.sharedCollection settings.ddlCollection)) := by
  rw [check, if_neg (Nat.ne_of_gt hasDimension), if_pos shared]

theorem sound_default : default.Sound where
  hasDimension := by decide
  differ := by decide

theorem sound_of_ofToml
    {text : String}
    (read : ofToml text = .ok settings) :
    settings.Sound := by
  rw [ofToml] at read
  split at read
  · obtain ⟨sound, rfl⟩ := check_eq_ok_iff.mp read
    exact sound
  · exact nomatch read

theorem sound_of_ofFile
    {content : Except FileError String}
    (loaded : ofFile content = .ok settings) :
    settings.Sound := by
  cases content with
  | ok text => exact sound_of_ofToml loaded
  | error cause =>
    cases cause with
    | isDirectory => exact nomatch loaded
    | notText => exact nomatch loaded
    | _ =>
      obtain rfl := Except.ok.inj loaded
      exact sound_default

theorem Obtained.sound (obtained : Obtained settings) : settings.Sound := by
  cases obtained with
  | default => exact sound_default
  | read accepted => exact sound_of_ofToml accepted
  | loaded accepted => exact sound_of_ofFile accepted

/-! ## One dataset -/

/-- The name that a dataset gives to the first collection; a blank one gives none. -/
def named? (dataset : Option String) : Option String :=
  dataset.filter fun name => name.toList.any (!Text.isBlank ·)

/-- A dataset is the name of a collection, as it is written, and is not blank. -/
def Names (dataset : Option String) (collection : String) : Prop :=
  dataset = some collection ∧ ¬Text.AllBlank collection.toList

section Dataset

variable {dataset : Option String} {name : String}

theorem named?_eq_some_iff : named? dataset = some name ↔ Names dataset name := by
  simp [named?, Names, Option.filter_eq_some_iff, Text.AllBlank]

theorem withDataset_of_unnamed
    (settings : Settings)
    (unnamed : named? dataset = none) :
    settings.withDataset dataset = .ok settings := by
  cases dataset with
  | none => rfl
  | some name =>
    have blank : name.toList.all Text.isBlank = true := by
      simpa [named?] using unnamed
    exact if_pos blank

theorem withDataset_of_named
    (settings : Settings)
    (named : named? dataset = some name) :
    settings.withDataset dataset = { settings with ddlCollection := name }.check := by
  obtain ⟨rfl, notBlank⟩ := named?_eq_some_iff.mp named
  exact if_neg fun blank => notBlank (List.all_eq_true.mp blank)

namespace Sound

variable (sound : settings.Sound)

include sound

theorem withDataset_of_shared
    (named : named? dataset = some settings.viewCollection) :
    settings.withDataset dataset =
      .error (.settings (.sharedCollection settings.viewCollection)) := by
  let shared : Settings := { settings with ddlCollection := settings.viewCollection }
  have hasDimension : 1 ≤ shared.dimensions := sound.hasDimension
  rw [withDataset_of_named settings named]
  exact check_of_shared hasDimension rfl

theorem withDataset_of_apart
    (named : named? dataset = some name)
    (apart : name ≠ settings.viewCollection) :
    settings.withDataset dataset = .ok { settings with ddlCollection := name } := by
  rw [withDataset_of_named settings named]
  exact check_eq_ok_iff.mpr ⟨⟨sound.hasDimension, apart⟩, rfl⟩

/-- A dataset is refused exactly when it names the view collection. -/
theorem withDataset_eq_error_iff
    {error : Error} :
    settings.withDataset dataset = .error error ↔
      Names dataset settings.viewCollection ∧
        error = .settings (.sharedCollection settings.viewCollection) := by
  rw [← named?_eq_some_iff]
  cases given : named? dataset with
  | none =>
    rw [withDataset_of_unnamed settings given]
    constructor
    · exact fun refused => nomatch refused
    · exact fun shared => nomatch shared.1
  | some name =>
    by_cases shared : name = settings.viewCollection
    · subst shared
      rw [sound.withDataset_of_shared given]
      constructor
      · intro refused
        exact ⟨rfl, (Except.error.inj refused).symm⟩
      · rintro ⟨-, rfl⟩
        rfl
    · rw [sound.withDataset_of_apart given shared]
      constructor
      · exact fun refused => nomatch refused
      · exact fun same => (shared (Option.some.inj same.1)).elim

theorem of_withDataset (replaced : settings.withDataset dataset = .ok accepted) :
    accepted.Sound := by
  cases given : named? dataset with
  | none =>
    rw [withDataset_of_unnamed settings given] at replaced
    obtain rfl := Except.ok.inj replaced
    exact sound
  | some name =>
    rw [withDataset_of_named settings given] at replaced
    obtain ⟨replacedSound, rfl⟩ := check_eq_ok_iff.mp replaced
    exact replacedSound

end Sound

end Dataset

/-! ## Several datasets -/

/-- Replace the first collection by one dataset after the other. -/
def withDatasets
    (settings : Settings)
    (datasets : List (Option String)) : Except Error Settings :=
  datasets.foldlM withDataset settings

theorem withDatasets_cons_of_ok
    {dataset : Option String}
    {middle : Settings}
    (replaced : settings.withDataset dataset = .ok middle)
    (rest : List (Option String)) :
    settings.withDatasets (dataset :: rest) = middle.withDatasets rest := by
  rw [withDatasets, List.foldlM_cons, replaced]
  rfl

theorem withDatasets_cons_of_error
    {dataset : Option String}
    {error : Error}
    (refused : settings.withDataset dataset = .error error)
    (rest : List (Option String)) :
    settings.withDatasets (dataset :: rest) = .error error := by
  rw [withDatasets, List.foldlM_cons, refused]
  rfl

/-- The last name that datasets give, or the original one if they give none. -/
def lastNamed (datasets : List (Option String)) (original : String) : String :=
  (datasets.filterMap named?).getLastD original

namespace Sound

/-- Settings stay sound, whatever datasets they are given. -/
theorem of_withDatasets
    (sound : settings.Sound)
    {datasets : List (Option String)}
    (replaced : settings.withDatasets datasets = .ok accepted) :
    accepted.Sound := by
  induction datasets generalizing settings with
  | nil =>
    obtain rfl := Except.ok.inj replaced
    exact sound
  | cons dataset rest induction =>
    cases first : settings.withDataset dataset with
    | error error =>
      rw [withDatasets_cons_of_error first] at replaced
      exact nomatch replaced
    | ok middle =>
      rw [withDatasets_cons_of_ok first] at replaced
      exact induction (sound.of_withDataset first) replaced

/-- Datasets are accepted unless one of them is the view collection; then the last name counts. -/
theorem withDatasets_eq_ok_iff
    (sound : settings.Sound)
    (datasets : List (Option String)) :
    settings.withDatasets datasets = .ok accepted ↔
      (∀ dataset ∈ datasets, ¬Names dataset settings.viewCollection) ∧
        accepted =
          { settings with ddlCollection := lastNamed datasets settings.ddlCollection } := by
  -- Later datasets start from other settings, but those have the same view collection.
  induction datasets generalizing settings with
  | nil =>
    constructor
    · intro unchanged
      exact ⟨List.forall_mem_nil _, (Except.ok.inj unchanged).symm⟩
    · rintro ⟨-, rfl⟩
      rfl
  | cons dataset rest induction =>
    rw [List.forall_mem_cons, lastNamed, ← named?_eq_some_iff]
    cases given : named? dataset with
    | none =>
      rw [withDatasets_cons_of_ok (withDataset_of_unnamed settings given), induction sound,
        List.filterMap_cons_none given]
      simp [lastNamed]
    | some name =>
      by_cases shared : name = settings.viewCollection
      · subst shared
        rw [withDatasets_cons_of_error (sound.withDataset_of_shared given)]
        constructor
        · exact fun accepted => nomatch accepted
        · exact fun apart => (apart.1.1 rfl).elim
      · have replaced := sound.withDataset_of_apart given shared
        rw [withDatasets_cons_of_ok replaced, induction (sound.of_withDataset replaced),
          List.filterMap_cons_some given, List.getLastD_cons]
        simp [shared, lastNamed]

end Sound

end SemanticIndex.Settings
