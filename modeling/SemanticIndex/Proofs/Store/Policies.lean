import SemanticIndex.Proofs.Store.Clearing
import SemanticIndex.Proofs.Store.Readable

/-!
# Duplicate policies

Writing a batch settles which document an id has where the batch repeats the id or the id is taken.
Overwriting leaves the last document of the batch, skipping keeps what is stored and adds the first
document of the batch, and failing writes the whole batch if nothing collides and nothing otherwise.
-/

namespace SemanticIndex

namespace Contents

variable {contents : Contents}

/-- Among readable documents, failing names the ids that repeat or are stored. -/
theorem write_fail_of_readable
    (readable : contents.Readable)
    (documents : List EmbeddedDocument) :
    let repeated := repeatedIds (· ∈ contents.keys) (documents.map (·.id))
    contents.write documents .fail =
      if repeated = [] then (.ok documents.length, documents.foldl put contents)
      else (.error (.store (.duplicateIds repeated)), contents) := by
  intro repeated
  rcases readable_iff_exists_list.mp readable with ⟨listed, lists⟩
  have collisions :
      collidingIds (listed.map (·.id)).contains [] (documents.map (·.id)) = repeated := by
    rw [collidingIds_eq_repeatedIds]
    apply repeatedIds_congr
    intro id
    rw [List.contains_iff_mem]
    exact (map_id_list_perm lists).mem_iff
  simp only [write, lists, collisions, List.isEmpty_iff]

/-! ## Reading after writing -/

/-- Overwriting leaves the last document of a batch with each id. -/
theorem read_foldl_put
    (documents : List EmbeddedDocument)
    (contents : Contents)
    (id : String) :
    (documents.foldl put contents).read id =
      match lastWith? id documents with
      | some document => .ok (some document)
      | none => contents.read id := by
  have found := find?_foldl_put documents contents id
  cases last : lastWith? id documents with
  | none =>
    rw [last] at found
    exact read_congr found
  | some document =>
    rw [last] at found
    exact read_eq_ok_some_iff.mpr ⟨id_of_lastWith? last, found⟩

/-- Skipping leaves what is stored and the first document of a batch with each free id. -/
theorem read_foldl_putNew
    (documents : List EmbeddedDocument)
    (contents : Contents)
    (id : String) :
    (documents.foldl putNew contents).read id =
      match contents.read id with
      | .ok none => .ok (firstWith? id documents)
      | taken => taken := by
  have found := find?_foldl_putNew documents contents id
  cases stored : contents.find? id with
  | some row =>
    rw [stored, Option.some_or, ← stored] at found
    rw [read_congr found]
    split
    · rename_i free
      rw [read_eq_ok_none_iff, stored] at free
      exact nomatch free
    · rfl
  | none =>
    rw [stored, Option.none_or] at found
    rw [read_eq_ok_none_iff.mpr stored]
    cases first : firstWith? id documents with
    | none =>
      rw [first] at found
      exact read_eq_ok_none_iff.mpr found
    | some document =>
      rw [first] at found
      exact read_eq_ok_some_iff.mpr ⟨id_of_firstWith? first, found⟩

end Contents

namespace Backend

variable {backend : Backend}

/-- The document that a store of each kind gives for an id. -/
def fetch : (backend : Backend) → backend.State → String → Except Error (Option EmbeddedDocument)
  | .memory, state, id => .ok (Memory.get? state id)
  | .database collection, state, id => Database.get? state collection id
  | .relay _, state, id => .ok (Memory.get? state id)

theorem fetch_eq_read
    (state : backend.State)
    (id : String) :
    backend.fetch state id = (backend.contents state).read id := by
  cases backend with
  | memory => exact (Memory.read_contents state id).symm
  | database collection => exact (Database.read_contents state collection id).symm
  | relay refuses => exact (Memory.read_contents state id).symm

/-- A write that fails has changed nothing. -/
theorem state_of_failed_write
    (swaps : backend.Swaps)
    {state final : backend.State}
    {documents : List EmbeddedDocument}
    {policy : DuplicatePolicy}
    {error : Error}
    (failed : (backend.store.write documents policy).perform state = (.error error, final)) :
    final = state := by
  cases backend with
  | memory =>
    cases policy with
    | overwrite => cases failed
    | skip => cases failed
    | fail =>
      change Memory.write state documents .fail = _ at failed
      simp only [Memory.write] at failed
      split at failed
      · cases failed
      · exact (congrArg Prod.snd failed).symm
  | database collection =>
    cases policy with
    | overwrite => cases failed
    | skip => cases failed
    | fail =>
      change Database.write collection state documents .fail = _ at failed
      simp only [Database.write] at failed
      split at failed
      · exact (congrArg Prod.snd failed).symm
      · split at failed
        · cases failed
        · exact (congrArg Prod.snd failed).symm
  | relay refuses => exact swaps.elim

/--
Writing to a store in memory or to a collection under each policy.  Overwriting and skipping succeed
whatever is stored.  Failing is settled by the ids where every id reads back: it writes the batch if
its ids are distinct and free; otherwise it names those that repeat or are taken and writes nothing.
-/
theorem write_by_policy
    (swaps : backend.Swaps)
    (state : backend.State)
    (batch : List EmbeddedDocument) :
    (∃ final, (backend.store.write batch .overwrite).perform state = (.ok batch.length, final) ∧
        ∀ id, backend.fetch final id =
          match lastWith? id batch with
          | some document => .ok (some document)
          | none => backend.fetch state id) ∧
      (∃ count added final,
        (backend.store.write batch .skip).perform state = (.ok added, final) ∧
          backend.store.count.perform state = (.ok count, state) ∧
          backend.store.count.perform final = (.ok (count + added), final) ∧
          ∀ id, backend.fetch final id =
            match backend.fetch state id with
            | .ok none => .ok (firstWith? id batch)
            | taken => taken) ∧
      ∀ stored : String → Option EmbeddedDocument,
        (∀ id, backend.fetch state id = .ok (stored id)) →
          if (batch.map (·.id)).Nodup ∧ ∀ document ∈ batch, stored document.id = none then
            ∃ final, (backend.store.write batch .fail).perform state = (.ok batch.length, final) ∧
              (∀ document ∈ batch, backend.fetch final document.id = .ok (some document)) ∧
              ∀ id ∉ batch.map (·.id), backend.fetch final id = backend.fetch state id
          else
            ∃ error : StoreError,
              (backend.store.write batch .fail).perform state = (.error (.store error), state) ∧
                error.message = "duplicate document ids: " ++ String.intercalate ", "
                  (repeatedIds (fun id => stored id ≠ none) (batch.map (·.id))) := by
  simp only [fetch_eq_read]
  have backed := backed_of_swaps swaps
  refine ⟨?_, ?_, ?_⟩
  · rcases backed.writes batch .overwrite state with ⟨final, writes, written⟩
    refine ⟨final, writes, fun id => ?_⟩
    rw [written]
    exact Contents.read_foldl_put batch _ id
  · rcases backed.writes batch .skip state with ⟨final, writes, written⟩
    refine ⟨_, _, final, writes, backed.counts state, ?_, fun id => ?_⟩
    · have grown := Contents.size_le_foldl_putNew batch (backend.contents state)
      rw [backed.counts, written]
      simp only [Contents.write, Nat.add_sub_cancel' grown]
    · rw [written]
      exact Contents.read_foldl_putNew batch _ id
  · intro stored reads
    have readable : (backend.contents state).Readable := fun id => ⟨stored id, reads id⟩
    have taken (id : String) : id ∈ (backend.contents state).keys ↔ stored id ≠ none := by
      rw [Table.mem_keys_iff_isSome_find?, (Contents.read_eq_ok_iff.mp (reads id)).1]
      cases stored id <;> simp
    have fails := Contents.write_fail_of_readable readable batch
    rw [repeatedIds_congr taken] at fails
    have free : repeatedIds (fun id => stored id ≠ none) (batch.map (·.id)) = [] ↔
        (batch.map (·.id)).Nodup ∧ ∀ document ∈ batch, stored document.id = none := by
      simp [repeatedIds_eq_nil_iff]
    rcases backed.writes batch .fail state with ⟨final, writes, written⟩
    rw [fails] at writes written
    split
    · rename_i collisionless
      rw [if_pos (free.mpr collisionless)] at writes written
      refine ⟨final, writes, fun document inside => ?_, fun id outside => ?_⟩
      · rw [written, Contents.read_foldl_put, lastWith?_of_mem collisionless.1 inside]
      · rw [written, Contents.read_foldl_put, lastWith?_eq_none_iff.mpr outside]
    · rename_i colliding
      rw [if_neg (mt free.mp colliding)] at writes
      obtain rfl := state_of_failed_write swaps writes
      exact ⟨_, writes, rfl⟩

/-- A batch that repeats one id and takes another, under each policy. -/
theorem write_by_policy_of_repeated_and_taken :
    let stored : EmbeddedDocument := ⟨"7", "stored", [1]⟩
    let batch : List EmbeddedDocument :=
      [⟨"3", "first", []⟩, ⟨"7", "taken", [2]⟩, ⟨"3", "last", [3]⟩]
    let memory := Memory.empty.put stored
    (∃ final, (Memory.store.write batch .overwrite).perform memory = (.ok 3, final) ∧
        Backend.memory.fetch final "3" = .ok (some ⟨"3", "last", [3]⟩)) ∧
      (∃ added final, (Memory.store.write batch .skip).perform memory = (.ok added, final) ∧
        Backend.memory.fetch final "3" = .ok (some ⟨"3", "first", []⟩) ∧
        Backend.memory.fetch final "7" = .ok (some stored)) ∧
      ∃ error : StoreError,
        (Memory.store.write batch .fail).perform memory = (.error (.store error), memory) ∧
          error.message = "duplicate document ids: 7, 3" := by
  intro stored batch memory
  obtain ⟨⟨last, overwrites, left⟩, ⟨_, added, kept, skips, -, -, first⟩, fails⟩ :=
    @write_by_policy .memory trivial memory batch
  have colliding : ¬ ((batch.map (·.id)).Nodup ∧
      ∀ document ∈ batch, memory.get? document.id = none) := by
    decide
  have failed := fails memory.get? fun _ => rfl
  rw [if_neg colliding] at failed
  exact ⟨⟨last, overwrites, left "3"⟩, ⟨added, kept, skips, first "3", first "7"⟩, failed⟩

end Backend

end SemanticIndex
