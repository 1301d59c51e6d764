import SemanticIndex.Proofs.Command.DatabaseFile
import SemanticIndex.Proofs.Store.Calls

/-!
# Collections of one file

Any number of collections are kept in one file, most of them with the same ids.  What is asked of
one of them reads and changes its own rows and no others, and opening the file again changes
nothing.  So the part of a history that concerns one collection, with all its results, is the
history of that collection in a file of its own.
-/

namespace SemanticIndex

/-! ## Requests -/

inductive CollectionRequest where
  | call (operation : StoreCall)
  | list
  /-- Overwrite the stored bytes of a vector. -/
  | setBlob (id : String) (blob : List UInt8)

/-- Overwrite the stored bytes of a vector and count the rows that changed. -/
def Contents.setBlob (contents : Contents) (id : String) (blob : List UInt8) : Nat × Contents :=
  match contents.find? id with
  | some row => (1, contents.insert id ⟨row.content, blob⟩)
  | none => (0, contents)

namespace Database

theorem contents_setBlob
    (name wanted : String)
    (blob : List UInt8)
    (database : Database) :
    (database.contents name).setBlob wanted blob =
      Prod.map id (contents name) (database.setBlob name wanted blob) := by
  rw [Contents.setBlob, setBlob, contents, Table.find?_slice]
  cases database.rows.find? (name, wanted) with
  | none => rfl
  | some row => exact congrArg (Prod.mk 1) (Table.slice_insert name database.rows wanted _).symm

theorem contents_setBlob_of_ne
    {name other : String}
    (differ : other ≠ name)
    (id : String)
    (blob : List UInt8)
    (database : Database) :
    (database.setBlob name id blob).2.contents other = database.contents other := by
  rw [setBlob]
  split
  · exact Table.slice_insert_of_ne differ database.rows id _
  · rfl

end Database

/-- All that can be read of a collection is the same in two databases. -/
structure Database.SameCollection
    (name : String)
    (one other : Database) : Prop where
  rows : one.contents name = other.contents name
  count : one.count name = other.count name
  list : one.list name = other.list name
  documents : ∀ id, one.get? name id = other.get? name id

theorem Database.SameCollection.of_rows
    {name : String}
    {one other : Database}
    (rows : one.contents name = other.contents name) :
    one.SameCollection name other where
  rows := rows
  count := congrArg Table.size rows
  list := congrArg Contents.list rows
  documents id := by rw [← read_contents, ← read_contents, rows]

namespace CollectionRequest

/-- Carry a request out on a collection of a database. -/
def on (name : String) : CollectionRequest → Action Database StoreResult
  | .call operation => operation.on (Database.readable name)
  | .list => .reading fun database => (database.list name).map StoreResult.documents
  | .setBlob id blob => .ofFunction fun database =>
    let (changed, final) := database.setBlob name id blob
    (.ok (.number changed), final)

def onRows : CollectionRequest → Action Contents StoreResult
  | .call operation => operation.on (Contents.readable List.length)
  | .list => .reading fun contents => contents.list.map StoreResult.documents
  | .setBlob id blob => .ofFunction fun contents =>
    let (changed, final) := contents.setBlob id blob
    (.ok (.number changed), final)

/-- What a request does is decided by the rows of its collection. -/
theorem on_follows (name : String) (request : CollectionRequest) :
    Action.Follows (Database.contents name) (request.on name) request.onRows := by
  cases request with
  | call operation => exact (Database.readable_follows name).on operation
  | list =>
    intro database
    rfl
  | setBlob id blob =>
    intro database
    have follows := Database.contents_setBlob name id blob database
    simp only [onRows, on, Action.perform_ofFunction, follows, Prod.map]
    rfl

theorem on_keeps
    {name other : String}
    (differ : other ≠ name)
    (request : CollectionRequest) :
    Action.Keeps (Database.contents other) (request.on name) := by
  cases request with
  | call operation => exact (Database.readable_keeps differ).on operation
  | list =>
    intro database
    rfl
  | setBlob id blob =>
    intro database
    exact Database.contents_setBlob_of_ne differ id blob database

end CollectionRequest

/-! ## Histories of a file -/

namespace Directory

/-- Carry an action out on the database in a file, which is opened before and saved behind it. -/
def onDatabase
    {result : Type}
    (path : String)
    (action : Action Database result) : Action Directory result :=
  .ofFunction fun directory =>
    match (openDatabase path).run directory with
    | (.error error, opened) => (.error error, opened)
    | (.ok content, opened) =>
      let (result, final) := action.perform content
      (result, ((saveDatabase path final).run opened).2)

theorem Opens.perform_onDatabase
    {result : Type}
    {directory : Directory}
    {path : String}
    {location : Location}
    {content : Database}
    (opens : directory.Opens path location content)
    (action : Action Database result) :
    (onDatabase path action).perform directory =
      ((action.perform content).1,
        directory.put location (.database (action.perform content).2)) := by
  simp only [onDatabase, Action.perform_ofFunction, opens.run_openDatabase,
    opens.run_saveDatabase]

end Directory

inductive FileEvent where
  | ask (collection : String) (request : CollectionRequest)
  /-- Close the file and open it again. -/
  | reopen

namespace FileEvent

def on (path : String) : FileEvent → Action Directory StoreResult
  | .ask collection request => Directory.onDatabase path (request.on collection)
  | .reopen => .ofFunction fun directory =>
    let (outcome, opened) := (Directory.openDatabase path).run directory
    (outcome.map fun _ => .done, opened)

/-- Decide whether an event concerns a collection; reopening concerns every one. -/
def concerns (name : String) : FileEvent → Bool
  | .ask collection _ => collection == name
  | .reopen => true

/-- The results of events that happen to a file one after the other, and the final directory. -/
def history (path : String) :
    List FileEvent → Directory → List (FileEvent × Except Error StoreResult) × Directory
  | [], directory => ([], directory)
  | event :: rest, directory =>
    let (result, middle) := (event.on path).perform directory
    let (later, final) := history path rest middle
    ((event, result) :: later, final)

/-- Two files stand open and have the same rows of a collection. -/
def SameRows
    (path ownPath name : String)
    (shared alone : Directory) : Prop :=
  ∃ location content ownLocation own,
    shared.Opens path location content ∧ alone.Opens ownPath ownLocation own ∧
      content.contents name = own.contents name

variable {path ownPath name : String} {shared alone : Directory} {event : FileEvent}

/-- An event that concerns a collection does the same to every file with the same rows of it. -/
theorem on_matches
    (concerned : event.concerns name = true) :
    Action.Matches (SameRows path ownPath name) (event.on path) (event.on ownPath) := by
  rintro shared alone ⟨location, content, ownLocation, own, opens, ownOpens, sameRows⟩
  cases event with
  | ask collection request =>
    obtain rfl : collection = name := by simpa [concerns] using concerned
    have follows := request.on_follows collection content
    have ownFollows := request.on_follows collection own
    rw [sameRows, ownFollows] at follows
    obtain ⟨sameResult, sameFinal⟩ := Prod.mk.inj follows
    simp only [on, opens.perform_onDatabase, ownOpens.perform_onDatabase]
    exact ⟨sameResult.symm, _, _, _, _, opens.put _, ownOpens.put _, sameFinal.symm⟩
  | reopen =>
    simp only [on, Action.perform_ofFunction, opens.run_openDatabase, ownOpens.run_openDatabase]
    exact ⟨rfl, _, _, _, _, opens, ownOpens, sameRows⟩

theorem sameRows_of_unconcerned
    (unconcerned : event.concerns name = false)
    (same : SameRows path ownPath name shared alone) :
    SameRows path ownPath name ((event.on path).perform shared).2 alone := by
  rcases same with ⟨location, content, ownLocation, own, opens, ownOpens, sameRows⟩
  cases event with
  | ask collection request =>
    have differ : name ≠ collection := by
      rintro rfl
      simp [concerns] at unconcerned
    simp only [on, opens.perform_onDatabase]
    exact ⟨_, _, _, _, opens.put _, ownOpens,
      (request.on_keeps differ content).trans sameRows⟩
  | reopen => exact nomatch unconcerned

/-- What concerns a collection in a history is the history of the collection alone. -/
theorem history_of_sameRows
    (same : SameRows path ownPath name shared alone)
    (events : List FileEvent) :
    (history path events shared).1.filter (fun entry => entry.1.concerns name) =
        (history ownPath (events.filter (·.concerns name)) alone).1 ∧
      SameRows path ownPath name (history path events shared).2
        (history ownPath (events.filter (·.concerns name)) alone).2 := by
  -- Both files take a step for an event that concerns the collection, the shared one alone for
  -- any other event.
  induction events generalizing shared alone with
  | nil => exact ⟨rfl, same⟩
  | cons event rest induction =>
    cases concerned : event.concerns name with
    | true =>
      rcases on_matches concerned same with ⟨sameResult, sameAfter⟩
      rcases induction sameAfter with ⟨entries, final⟩
      rw [List.filter_cons_of_pos concerned]
      refine ⟨?_, final⟩
      simp only [history, List.filter_cons, concerned, if_true, sameResult, entries]
    | false =>
      rcases induction (sameRows_of_unconcerned concerned same) with ⟨entries, final⟩
      rw [List.filter_cons_of_neg (by simp [concerned])]
      refine ⟨?_, final⟩
      rw [← entries]
      simp [history, concerned]

/--
Whatever happens to a file, the part of its history that concerns a collection, with all results,
is what happens to the collection in a file of its own.  Opening the file again gives the database
as it is and changes nothing, and a request to another collection leaves everything that can be
read of the collection as it is.
-/
theorem history_of_collection
    {start ownStart shared alone : Directory}
    {path ownPath : String}
    {content own : Database}
    (opened : (Directory.openDatabase path).run start = (.ok content, shared))
    (ownOpened : (Directory.openDatabase ownPath).run ownStart = (.ok own, alone))
    {name : String}
    (sameRows : content.contents name = own.contents name)
    (events : List FileEvent) :
    let concerning := events.filter (·.concerns name)
    let after := (history path events shared).2
    let ownAfter := (history ownPath concerning alone).2
    (history path events shared).1.filter (fun entry => entry.1.concerns name) =
        (history ownPath concerning alone).1 ∧
      ∃ final ownFinal,
        (Directory.openDatabase path).run after = (.ok final, after) ∧
          (Directory.openDatabase ownPath).run ownAfter = (.ok ownFinal, ownAfter) ∧
          final.SameCollection name ownFinal ∧
          ∀ other request, other ≠ name →
            let next := (((ask other request).on path).perform after).2
            ∃ changed, (Directory.openDatabase path).run next = (.ok changed, next) ∧
              changed.SameCollection name final := by
  intro concerning after ownAfter
  rcases (Directory.opening opened).opens content rfl with ⟨location, opens⟩
  rcases (Directory.opening ownOpened).opens own rfl with ⟨ownLocation, ownOpens⟩
  have same : SameRows path ownPath name shared alone :=
    ⟨location, content, ownLocation, own, opens, ownOpens, sameRows⟩
  obtain ⟨entries, finalLocation, final, _, ownFinal, finalOpens, ownFinalOpens, finalRows⟩ :=
    history_of_sameRows same events
  refine ⟨entries, final, ownFinal, finalOpens.run_openDatabase, ownFinalOpens.run_openDatabase,
    .of_rows finalRows, ?_⟩
  intro other request differ next
  have stands : next.Opens path finalLocation ((request.on other).perform final).2 := by
    have asked := finalOpens.perform_onDatabase (request.on other)
    change ((Directory.onDatabase path (request.on other)).perform after).2.Opens _ _ _
    rw [asked]
    exact finalOpens.put _
  exact ⟨_, stands.run_openDatabase, .of_rows (request.on_keeps differ.symm final)⟩

/-- Two collections with the same ids, one of which is damaged between requests to the other. -/
theorem history_of_collection_beside_damaged :
    let start := Directory.empty "now"
    let shared := ((Directory.openDatabase "index.db").run start).2
    let alone := ((Directory.openDatabase "own/index.db").run start).2
    let events : List FileEvent := [
      .ask "records" (.call (.write [⟨"0", "kept", [1]⟩] .overwrite)),
      .ask "statements" (.call (.replaceAll [⟨"0", "other", []⟩])),
      .ask "statements" (.setBlob "0" [7]),
      .reopen,
      .ask "statements" (.call (.get "0")),
      .ask "records" (.call (.get "0"))]
    (history "index.db" events shared).1.map Prod.snd =
        [.ok (.number 1), .ok (.number 1), .ok (.number 1), .ok .done,
          .error (.store (.damagedEmbedding "0" 1)), .ok (.document (some ⟨"0", "kept", [1]⟩))] ∧
      (history "index.db" events shared).1.filter (fun entry => entry.1.concerns "records") =
        (history "own/index.db" (events.filter (·.concerns "records")) alone).1 := by
  intro start shared alone events
  have opened : (Directory.openDatabase "index.db").run start = (.ok .empty, shared) := by rfl
  have ownOpened : (Directory.openDatabase "own/index.db").run start = (.ok .empty, alone) := by
    rfl
  constructor
  · rfl
  · exact (history_of_collection opened ownOpened rfl events).1

end FileEvent

end SemanticIndex
