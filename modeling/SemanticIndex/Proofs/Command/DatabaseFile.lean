import SemanticIndex.Command.Directory

/-!
# Databases in directories

Opening a database makes the directories on the way to its file, and the file itself, as far as
they are missing.  Nothing of this changes what any database of the directory contains.  Once a
database stands open, opening it again changes nothing at all, and saving it changes only the node
at its location, so it stands open with its new content.
-/

namespace SemanticIndex

namespace Directory

variable {directory made : Directory} {location target : Location} {node : Node}

/-! ## Nodes -/

theorem node?_put_of_ne
    (differ : target ≠ location)
    (directory : Directory)
    (node : Node) :
    (directory.put location node).node? target = directory.node? target := by
  simp only [node?, put, Table.find?_insert, if_neg differ]

theorem node?_put
    (noDirectory : directory.node? location ≠ some .directory)
    (node : Node) :
    (directory.put location node).node? location = some node := by
  have ordinary : ¬ (location.all (· = "..") || location = [root]) := by
    intro special
    exact noDirectory (if_pos special)
  rw [node?, if_neg ordinary, put, Table.find?_insert, if_pos rfl]

end Directory

/-- The database that a node is; other nodes have no rows. -/
def Node.rows : Node → Database
  | .database content => content
  | _ => .empty

namespace Directory

variable {directory made : Directory} {location target : Location} {node : Node}

/-- The database at a location, which has no rows where no database is. -/
def databaseAt (directory : Directory) (location : Location) : Database :=
  ((directory.node? location).map Node.rows).getD .empty

theorem databaseAt_of_node?_eq_some (stands : directory.node? location = some node) :
    directory.databaseAt location = node.rows := by
  rw [databaseAt, stands]
  rfl

theorem databaseAt_of_node?_eq_none (absent : directory.node? location = none) :
    directory.databaseAt location = .empty := by
  rw [databaseAt, absent]
  rfl

theorem databaseAt_put_of_ne
    (differ : target ≠ location)
    (directory : Directory)
    (node : Node) :
    (directory.put location node).databaseAt target = directory.databaseAt target := by
  rw [databaseAt, databaseAt, node?_put_of_ne differ]

theorem databaseAt_put
    (noDirectory : directory.node? location ≠ some .directory)
    (node : Node) :
    (directory.put location node).databaseAt location = node.rows :=
  databaseAt_of_node?_eq_some (node?_put noDirectory node)

/-- A node with the rows that were there before leaves every database as it is. -/
theorem databaseAt_put_of_rows_eq
    (noDirectory : directory.node? location ≠ some .directory)
    (sameRows : node.rows = directory.databaseAt location)
    (target : Location) :
    (directory.put location node).databaseAt target = directory.databaseAt target := by
  by_cases same : target = location
  · subst same
    rw [databaseAt_put noDirectory, sameRows]
  · exact databaseAt_put_of_ne same directory node

/-! ## Following names -/

/-- Where a way leads does not depend on a place that is no directory. -/
theorem follow_put
    {start : Location}
    {name : String}
    (noDirectory : directory.node? location ≠ some .directory)
    (node : Node)
    (followed : directory.follow start name = .ok target) :
    (directory.put location node).follow start name = .ok target := by
  -- Names are followed from directories only, so the way does not start at the place in question.
  have elsewhere : start ≠ location := by
    rintro rfl
    rw [follow] at followed
    split at followed
    · exact nomatch followed
    · rename_i stands
      exact noDirectory stands
    · exact nomatch followed
  rw [follow, node?_put_of_ne elsewhere]
  exact followed

theorem foldlM_follow_put
    {start : Location}
    {way : List String}
    (noDirectory : directory.node? location ≠ some .directory)
    (node : Node)
    (followed : way.foldlM directory.follow start = .ok target) :
    way.foldlM (directory.put location node).follow start = .ok target := by
  induction way generalizing start with
  | nil => exact followed
  | cons name rest induction =>
    rw [List.foldlM_cons] at followed ⊢
    cases step : directory.follow start name with
    | error cause =>
      rw [step] at followed
      exact nomatch followed
    | ok middle =>
      rw [step] at followed
      rw [follow_put noDirectory node step]
      exact induction followed

theorem locateDatabase_put
    {path : String}
    (noDirectory : directory.node? location ≠ some .directory)
    (node : Node)
    (located : directory.locateDatabase path = .ok target) :
    (directory.put location node).locateDatabase path = .ok target := by
  rw [locateDatabase] at located ⊢
  split at located
  · exact nomatch located
  · rename_i withoutNul
    rw [if_neg withoutNul]
    cases followed : (databaseNames path).foldlM directory.follow [] with
    | error cause =>
      rw [followed] at located
      exact nomatch located
    | ok found =>
      rw [followed] at located
      rw [foldlM_follow_put noDirectory node followed]
      exact located

theorem leadsToDirectory_iff
    {way : List String} :
    directory.leadsToDirectory way = true ↔
      ∃ target, way.foldlM directory.follow [] = .ok target ∧
        directory.node? target = some .directory := by
  rw [leadsToDirectory]
  cases way.foldlM directory.follow [] with
  | error cause => simp [Except.toOption]
  | ok target =>
    simp only [Except.toOption, Option.bind_some, Except.ok.injEq, exists_eq_left']
    split <;> simp_all

theorem leadsToDirectory_put
    {way : List String}
    (noDirectory : directory.node? location ≠ some .directory)
    (node : Node)
    (leads : directory.leadsToDirectory way = true) :
    (directory.put location node).leadsToDirectory way = true := by
  rw [leadsToDirectory_iff] at leads ⊢
  rcases leads with ⟨target, followed, stands⟩
  have elsewhere : target ≠ location := by
    rintro rfl
    exact noDirectory stands
  exact ⟨target, foldlM_follow_put noDirectory node followed,
    (node?_put_of_ne elsewhere directory node).trans stands⟩

/-! ## Making directories -/

theorem makeDirectory_eq_ok_iff
    {way : List String} :
    directory.makeDirectory way = .ok made ↔
      ∃ target, way.foldlM directory.follow [] = .ok target ∧
        directory.node? target = none ∧ made = directory.put target .directory := by
  rw [makeDirectory]
  cases way.foldlM directory.follow [] with
  | error cause => simp [bind, Except.bind]
  | ok target =>
    cases stands : directory.node? target with
    | none => simp [bind, Except.bind, pure, Except.pure, stands, eq_comm]
    | some node => simp [bind, Except.bind, throw, throwThe, MonadExceptOf.throw, stands]

theorem makeDirectory_of_leadsToDirectory
    {way : List String}
    (leads : directory.leadsToDirectory way = true) :
    directory.makeDirectory way = .error .exists := by
  rcases leadsToDirectory_iff.mp leads with ⟨target, followed, stands⟩
  rw [makeDirectory, followed]
  simp [bind, Except.bind, throw, throwThe, MonadExceptOf.throw, stands]

theorem leadsToDirectory_of_makeDirectory
    {way : List String}
    (succeeded : directory.makeDirectory way = .ok made) :
    made.leadsToDirectory way = true := by
  rcases makeDirectory_eq_ok_iff.mp succeeded with ⟨target, followed, absent, rfl⟩
  have noDirectory : directory.node? target ≠ some .directory := by simp [absent]
  rw [leadsToDirectory_iff]
  exact ⟨target, foldlM_follow_put noDirectory .directory followed,
    node?_put noDirectory .directory⟩

theorem databaseAt_of_makeDirectory
    {way : List String}
    (succeeded : directory.makeDirectory way = .ok made)
    (location : Location) :
    made.databaseAt location = directory.databaseAt location := by
  rcases makeDirectory_eq_ok_iff.mp succeeded with ⟨target, -, absent, rfl⟩
  have sameRows : Node.directory.rows = directory.databaseAt target :=
    (databaseAt_of_node?_eq_none absent).symm
  exact databaseAt_put_of_rows_eq (by simp [absent]) sameRows location

theorem makeDirectories_of_leadsToDirectory
    {names : List String}
    (leads : directory.leadsToDirectory names.reverse = true) :
    directory.makeDirectories names = (.ok (), directory) := by
  cases names with
  | nil => rfl
  | cons last before =>
    simp only [makeDirectories, makeDirectory_of_leadsToDirectory leads, leads, if_true]

theorem makeDirectories_spec (directory : Directory) (names : List String) :
    ((directory.makeDirectories names).1 = .ok () →
        (directory.makeDirectories names).2.leadsToDirectory names.reverse = true) ∧
      ∀ location,
        (directory.makeDirectories names).2.databaseAt location =
          directory.databaseAt location := by
  induction names with
  | nil => exact ⟨fun _ => rfl, fun _ => rfl⟩
  | cons last before induction =>
    have settled {made : Directory} {cause : FileError}
        (succeeded : (if made.leadsToDirectory (last :: before).reverse then
          Except.ok () else .error cause) = .ok ()) :
        made.leadsToDirectory (last :: before).reverse = true := by
      split at succeeded
      · assumption
      · exact nomatch succeeded
    -- Only where the directory above is missing it is made first and the last one tried again.
    rw [makeDirectories]
    cases attempt : directory.makeDirectory (last :: before).reverse with
    | ok made =>
      exact ⟨fun _ => leadsToDirectory_of_makeDirectory attempt,
        databaseAt_of_makeDirectory attempt⟩
    | error cause =>
      cases cause with
      | notFound =>
        rcases beforehand : directory.makeDirectories before with ⟨outcome, made⟩
        rw [beforehand] at induction
        cases outcome with
        | error cause => exact ⟨nofun, induction.2⟩
        | ok _ =>
          cases again : made.makeDirectory (last :: before).reverse with
          | ok final =>
            simp only [again]
            exact ⟨fun _ => leadsToDirectory_of_makeDirectory again, fun location =>
              (databaseAt_of_makeDirectory again location).trans (induction.2 location)⟩
          | error cause =>
            simp only [again]
            exact ⟨settled, induction.2⟩
      | _ => exact ⟨settled, fun _ => rfl⟩

theorem makeWay_of_leadsToDirectory
    {path : String}
    (accepted : (directory.makeWay path).1 = .ok ())
    (leads : made.leadsToDirectory (databaseNames path).dropLast = true) :
    made.makeWay path = (.ok (), made) := by
  simp only [makeWay] at accepted ⊢
  split at accepted
  · exact nomatch accepted
  · rename_i withoutNul
    split at accepted
    · exact nomatch accepted
    · rename_i short
      rw [if_neg withoutNul, if_neg short]
      apply makeDirectories_of_leadsToDirectory
      rw [List.reverse_reverse]
      exact leads

theorem leadsToDirectory_of_makeWay
    {path : String}
    (ready : directory.makeWay path = (.ok (), made)) :
    made.leadsToDirectory (databaseNames path).dropLast = true := by
  simp only [makeWay] at ready
  split at ready
  · exact nomatch ready
  · split at ready
    · exact nomatch ready
    · have leads := (makeDirectories_spec directory (databaseNames path).dropLast.reverse).1
      rw [ready, List.reverse_reverse] at leads
      exact leads rfl

theorem databaseAt_makeWay
    (directory : Directory)
    (path : String)
    (location : Location) :
    (directory.makeWay path).2.databaseAt location = directory.databaseAt location := by
  simp only [makeWay]
  split
  · rfl
  · split
    · rfl
    · exact (makeDirectories_spec directory (databaseNames path).dropLast.reverse).2 location

theorem makeWay_of_makeWay
    {path : String}
    (ready : directory.makeWay path = (.ok (), made)) :
    made.makeWay path = (.ok (), made) :=
  makeWay_of_leadsToDirectory (congrArg Prod.fst ready) (leadsToDirectory_of_makeWay ready)

theorem makeWay_put
    {path : String}
    (noDirectory : directory.node? location ≠ some .directory)
    (node : Node)
    (ready : directory.makeWay path = (.ok (), directory)) :
    (directory.put location node).makeWay path = (.ok (), directory.put location node) :=
  makeWay_of_leadsToDirectory (congrArg Prod.fst ready)
    (leadsToDirectory_put noDirectory node (leadsToDirectory_of_makeWay ready))

/-! ## Opening and saving -/

theorem run_openDatabase (path : String) (directory : Directory) :
    (openDatabase path).run directory =
      match directory.makeWay path with
      | (.error cause, made) => (.error (.file cause), made)
      | (.ok (), made) => openAt path made := by
  rcases ready : directory.makeWay path with ⟨outcome, made⟩
  simp only [openDatabase, StateT.run, bind, StateT.bind, modifyGet, MonadStateOf.modifyGet,
    StateT.modifyGet, ready]
  cases outcome <;> rfl

/-- A database stands open: its file is where a path leads, and the way there is made. -/
structure Opens
    (directory : Directory)
    (path : String)
    (location : Location)
    (content : Database) : Prop where
  way : directory.makeWay path = (.ok (), directory)
  located : directory.locateDatabase path = .ok location
  stands : directory.node? location = some (.database content)

/-- Whether it succeeds or not, opening a database leaves the rows of every database as they are. -/
structure Opening
    (directory : Directory)
    (path : String)
    (outcome : Except Error Database)
    (made : Directory) : Prop where
  kept : ∀ location, made.databaseAt location = directory.databaseAt location
  opens : ∀ content, outcome = .ok content → ∃ location, made.Opens path location content

namespace Opening

theorem of_error
    {path : String}
    {error : Error}
    (kept : ∀ location, made.databaseAt location = directory.databaseAt location) :
    Opening directory path (.error error) made :=
  ⟨kept, nofun⟩

/-- A database without rows is created where no directory and no rows are. -/
theorem of_createDatabase
    {path : String}
    {outcome : Except Error Database}
    (ready : directory.makeWay path = (.ok (), directory))
    (located : directory.locateDatabase path = .ok location)
    (noDirectory : directory.node? location ≠ some .directory)
    (withoutRows : directory.databaseAt location = .empty)
    (created : directory.createDatabase location = (outcome, made)) :
    Opening directory path outcome made := by
  have kept (node : Node) (rowless : node.rows = .empty) (target : Location) :
      (directory.put location node).databaseAt target = directory.databaseAt target :=
    databaseAt_put_of_rows_eq noDirectory (rowless.trans withoutRows.symm) target
  rw [createDatabase] at created
  split at created
  · obtain ⟨rfl, rfl⟩ := Prod.mk.inj created
    apply of_error
    intro target
    -- The file is made although its journal cannot be; it stays an empty text.
    split
    · exact kept (.text "") rfl target
    · rfl
  · obtain ⟨rfl, rfl⟩ := Prod.mk.inj created
    constructor
    · exact kept (.database .empty) rfl
    · rintro content ⟨⟩
      refine ⟨location, ?_, ?_, ?_⟩
      · exact makeWay_put noDirectory _ ready
      · exact locateDatabase_put noDirectory _ located
      · exact node?_put noDirectory _

theorem of_openAt
    {path : String}
    {outcome : Except Error Database}
    (ready : directory.makeWay path = (.ok (), directory))
    (attempted : openAt path directory = (outcome, made)) :
    Opening directory path outcome made := by
  rw [openAt] at attempted
  cases located : directory.locateDatabase path with
  | error cause =>
    rw [located] at attempted
    obtain ⟨rfl, rfl⟩ := Prod.mk.inj attempted
    exact of_error fun _ => rfl
  | ok location =>
    simp only [located] at attempted
    cases stands : directory.node? location with
    | none =>
      rw [stands] at attempted
      exact of_createDatabase ready located (by simp [stands])
        (databaseAt_of_node?_eq_none stands) attempted
    | some node =>
      rw [stands] at attempted
      cases node with
      | text content =>
        simp only at attempted
        split at attempted
        · exact of_createDatabase ready located (by simp [stands])
            (databaseAt_of_node?_eq_some stands) attempted
        · obtain ⟨rfl, rfl⟩ := Prod.mk.inj attempted
          exact of_error fun _ => rfl
      | database content =>
        obtain ⟨rfl, rfl⟩ := Prod.mk.inj attempted
        constructor
        · intro target
          rfl
        · rintro content ⟨⟩
          exact ⟨location, ready, located, stands⟩
      | directory =>
        obtain ⟨rfl, rfl⟩ := Prod.mk.inj attempted
        exact of_error fun _ => rfl

end Opening

theorem opening
    {path : String}
    {outcome : Except Error Database}
    (attempted : (openDatabase path).run directory = (outcome, made)) :
    Opening directory path outcome made := by
  rw [run_openDatabase] at attempted
  have wayKept := databaseAt_makeWay directory path
  rcases ready : directory.makeWay path with ⟨wayOutcome, middle⟩
  rw [ready] at attempted wayKept
  cases wayOutcome with
  | error cause =>
    obtain ⟨rfl, rfl⟩ := Prod.mk.inj attempted
    exact .of_error wayKept
  | ok _ =>
    have opened := Opening.of_openAt (makeWay_of_makeWay ready) attempted
    constructor
    · intro target
      exact (opened.kept target).trans (wayKept target)
    · exact opened.opens

namespace Opens

variable {path : String} {content : Database}

theorem databaseAt_eq (opens : directory.Opens path location content) :
    directory.databaseAt location = content :=
  databaseAt_of_node?_eq_some opens.stands

theorem noDirectory (opens : directory.Opens path location content) :
    directory.node? location ≠ some .directory := by
  simp [opens.stands]

theorem run_openDatabase (opens : directory.Opens path location content) :
    (openDatabase path).run directory = (.ok content, directory) := by
  simp only [Directory.run_openDatabase, opens.way, openAt, opens.located, opens.stands]

theorem run_saveDatabase
    (opens : directory.Opens path location content)
    (new : Database) :
    ((saveDatabase path new).run directory).2 = directory.put location (.database new) := by
  simp only [saveDatabase, StateT.run, bind, StateT.bind, get, getThe, MonadStateOf.get,
    StateT.get, pure, opens.located]
  rfl

theorem put
    (opens : directory.Opens path location content)
    (new : Database) :
    (directory.put location (.database new)).Opens path location new where
  way := makeWay_put opens.noDirectory _ opens.way
  located := locateDatabase_put opens.noDirectory _ opens.located
  stands := node?_put opens.noDirectory _

theorem readText_put
    (opens : directory.Opens path location content)
    (new : Database)
    (file : String) :
    (directory.put location (.database new)).readText file = directory.readText file := by
  -- A database ends every way that leads to it, whatever its rows are.
  have follows : (directory.put location (.database new)).follow = directory.follow := by
    funext start name
    by_cases same : start = location
    · subst same
      simp only [follow, (opens.put new).stands, opens.stands]
    · simp only [follow, node?_put_of_ne same]
  have locates : (directory.put location (.database new)).locate file = directory.locate file := by
    simp only [locate, follows]
  rw [readText, readText, locates]
  cases directory.locate file with
  | error cause => rfl
  | ok target =>
    simp only [bind, Except.bind]
    by_cases same : target = location
    · subst same
      simp only [(opens.put new).stands, opens.stands]
    · rw [node?_put_of_ne same]

end Opens

end Directory

end SemanticIndex
