import SemanticIndex.Proofs.Store.Contiguity
import SemanticIndex.Store.Relay

/-!
# Kinds of stores

Documents are kept in memory, in a collection of a database, or behind a relay that may refuse
operations.  Seen through its contents, each kind does what one of the stores of tables does, so
clearing and committing are studied there once.
-/

namespace SemanticIndex

/-- A kind of store. -/
inductive Backend where
  | memory
  | database (collection : String)
  /-- A relay to a store in memory that may refuse operations. -/
  | relay (refuses : Operation → Bool)

namespace Backend

/-- The state of a store of each kind. -/
abbrev State : Backend → Type
  | .memory => Memory
  | .database _ => Database
  | .relay _ => Memory

/-- The operations of each kind. -/
def store : (backend : Backend) → Store backend.State
  | .memory => Memory.store
  | .database collection => Database.store collection
  | .relay refuses => Relay.around Memory.store.toBasicStore refuses

/-- The rows that a store of each kind keeps. -/
def contents : (backend : Backend) → backend.State → Contents
  | .memory => Memory.contents
  | .database collection => Database.contents collection
  | .relay _ => Memory.contents

/-- The operations that a store of each kind refuses. -/
def refuses : Backend → Operation → Bool
  | .relay refuses => refuses
  | _ => fun _ => false

/-- A kind of store carries every operation out. -/
def RefusesNothing (backend : Backend) : Prop :=
  ∀ operation, backend.refuses operation = false

/-- A kind of store has a replacing operation of its own, which swaps the whole collection. -/
def Swaps : Backend → Prop
  | .relay _ => False
  | _ => True

/-- The operations of each kind on its rows. -/
def model : Backend → Store Contents
  | .memory => Contents.store fun documents => (Contents.ofDocuments documents).size
  | .database _ => Contents.store List.length
  | .relay refuses => Relay.around (Contents.store List.length).toBasicStore refuses

theorem store_follows (backend : Backend) :
    Store.Follows backend.contents backend.store backend.model := by
  cases backend with
  | memory => exact Memory.store_follows
  | database collection => exact Database.store_follows collection
  | relay refuses => exact Relay.around_follows refuses Memory.store_follows.toFollows

/-! ## Clearing and committing -/

variable {backend : Backend} {contents : Contents} {documents : List EmbeddedDocument}

theorem perform_count (backend : Backend) (contents : Contents) :
    backend.model.count.perform contents =
      if backend.refuses .count then (.error (.store (.refused "count")), contents)
      else (.ok contents.size, contents) := by
  cases backend with
  | memory => rfl
  | database collection => rfl
  | relay refuses => exact Relay.perform_guard refuses .count _ contents

theorem perform_delete
    (backend : Backend)
    (contents : Contents)
    (ids : List String) :
    (backend.model.delete ids).perform contents =
      if backend.refuses .delete then (.error (.store (.refused "delete")), contents)
      else (.ok (), ids.foldl Table.erase contents) := by
  cases backend with
  | memory => rfl
  | database collection => rfl
  | relay refuses => exact Relay.perform_guard refuses .delete _ contents

theorem perform_overwrite
    (backend : Backend)
    (contents : Contents)
    (documents : List EmbeddedDocument) :
    (backend.model.write documents .overwrite).perform contents =
      if backend.refuses .write then (.error (.store (.refused "write")), contents)
      else (.ok documents.length, documents.foldl Contents.put contents) := by
  cases backend with
  | memory => rfl
  | database collection => rfl
  | relay refuses => exact Relay.perform_guard refuses .write _ contents

/--
Clearing fails only when counting or deleting is refused, and then it has done nothing; a
collection without documents is cleared without deleting.
-/
theorem perform_clear (backend : Backend) (contents : Contents) :
    backend.model.clear.perform contents =
      if backend.refuses .count then (.error (.store (.refused "count")), contents)
      else if contents.size = 0 then (.ok 0, contents)
      else if backend.refuses .delete then (.error (.store (.refused "delete")), contents)
      else (.ok contents.size, (positions contents.size).foldl Table.erase contents) := by
  rw [BasicStore.clear, Action.perform_bind, perform_count]
  by_cases countRefused : backend.refuses .count
  · simp only [if_pos countRefused]
  · simp only [if_neg countRefused]
    by_cases without : contents.size = 0
    · simp only [if_pos without, Action.perform_pure]
    · simp only [if_neg without, Action.perform_bind, perform_delete]
      by_cases deleteRefused : backend.refuses .delete
      · simp only [if_pos deleteRefused]
      · simp only [if_neg deleteRefused]
        rfl

theorem refuses_of_swaps (swaps : backend.Swaps) : backend.refuses = fun _ => false := by
  cases backend with
  | memory => rfl
  | database collection => rfl
  | relay refuses => exact swaps.elim

/-- Clearing a contiguous collection empties it or fails without doing anything. -/
theorem clear_of_contiguous
    (backend : Backend)
    (contiguous : contents.Contiguous) :
    (∃ count, backend.model.clear.perform contents = (.ok count, .empty)) ∨
      ∃ error, backend.model.clear.perform contents = (.error error, contents) := by
  rw [perform_clear]
  split
  · exact .inr ⟨_, rfl⟩
  · split
    · rename_i without
      exact .inl ⟨0, congrArg (Prod.mk _) (Table.eq_empty_of_size_eq_zero without)⟩
    · split
      · exact .inr ⟨_, rfl⟩
      · exact .inl ⟨_, congrArg (Prod.mk _) (Contents.foldl_erase_positions contiguous)⟩

theorem clear_of_swaps
    (swaps : backend.Swaps)
    (contiguous : contents.Contiguous) :
    backend.model.clear.perform contents = (.ok contents.size, .empty) := by
  rw [perform_clear, refuses_of_swaps swaps]
  by_cases without : contents.size = 0
  · obtain rfl := Table.eq_empty_of_size_eq_zero without
    rfl
  · simp [without, Contents.foldl_erase_positions contiguous]

/-- What is committed to a cleared collection, or swapped in, is held afterwards. -/
theorem commit_of_swaps
    (swaps : backend.Swaps)
    (distinct : (documents.map (·.id)).Nodup)
    {mode : SyncMode}
    (cleared : mode = .clearThenWrite → contents = .empty) :
    (backend.model.commit documents mode).perform contents =
      (.ok documents.length, .ofDocuments documents) := by
  cases mode with
  | clearThenWrite =>
    obtain rfl := cleared rfl
    rw [Store.commit, perform_overwrite, refuses_of_swaps swaps]
    rfl
  | staged =>
    cases backend with
    | memory =>
      change (Except.ok (Contents.ofDocuments documents).size, _) = _
      rw [Contents.size_ofDocuments distinct]
    | database collection => rfl
    | relay refuses => exact swaps.elim

/--
Committing positional documents to a contiguous collection, cleared if the mode asks for it, leaves
it holding the documents or fails and leaves it contiguous.
-/
theorem commit_of_contiguous
    (backend : Backend)
    (numbered : Numbered documents)
    (contiguous : contents.Contiguous)
    {mode : SyncMode}
    (cleared : mode = .clearThenWrite → contents = .empty) :
    (backend.model.commit documents mode).perform contents =
        (.ok documents.length, .ofDocuments documents) ∨
      ∃ error final, (backend.model.commit documents mode).perform contents =
        (.error error, final) ∧ final.Contiguous := by
  have overwritten :
      (backend.model.write documents .overwrite).perform .empty =
          (.ok documents.length, .ofDocuments documents) ∨
        ∃ error, (backend.model.write documents .overwrite).perform .empty =
          (.error error, .empty) := by
    rw [perform_overwrite]
    split
    · exact .inr ⟨_, rfl⟩
    · exact .inl rfl
  cases mode with
  | clearThenWrite =>
    obtain rfl := cleared rfl
    rcases overwritten with done | ⟨error, failed⟩
    · exact .inl done
    · exact .inr ⟨error, .empty, failed, Contents.contiguous_empty⟩
  | staged =>
    cases backend with
    | memory =>
      exact .inl (@commit_of_swaps .memory _ _ trivial numbered.distinct .staged nofun)
    | database collection =>
      exact .inl
        (@commit_of_swaps (.database collection) _ _ trivial numbered.distinct .staged nofun)
    | relay refuses =>
      -- A relay replaces by clearing and writing, and either may be refused.
      have replaces : (model (.relay refuses)).commit documents .staged =
          (model (.relay refuses)).clear >>= fun _ =>
            (model (.relay refuses)).write documents .overwrite := rfl
      rcases clear_of_contiguous (.relay refuses) contiguous with ⟨count, clears⟩ | ⟨error, fails⟩
      · rw [replaces, Action.perform_bind_of_ok clears]
        rcases overwritten with done | ⟨error, failed⟩
        · exact .inl done
        · exact .inr ⟨error, .empty, failed, Contents.contiguous_empty⟩
      · rw [replaces, Action.perform_bind_of_error fails]
        exact .inr ⟨error, contents, rfl, contiguous⟩

/-! ## Stores that refuse nothing -/

/-- Clearing is never refused; what it leaves depends on the ids. -/
theorem clear_of_refusesNothing
    (carriesOut : backend.RefusesNothing)
    (contents : Contents) :
    ∃ count cleared, backend.model.clear.perform contents = (.ok count, cleared) := by
  rw [perform_clear, carriesOut .count, carriesOut .delete]
  by_cases without : contents.size = 0
  · exact ⟨_, _, if_pos without⟩
  · exact ⟨_, _, if_neg without⟩

/-- Whatever a collection contains, a batch with distinct ids is counted in full. -/
theorem commit_of_refusesNothing
    (carriesOut : backend.RefusesNothing)
    (distinct : (documents.map (·.id)).Nodup)
    (mode : SyncMode)
    (contents : Contents) :
    ∃ final, (backend.model.commit documents mode).perform contents =
      (.ok documents.length, final) := by
  have overwritten (contents : Contents) :
      (backend.model.write documents .overwrite).perform contents =
        (.ok documents.length, documents.foldl Contents.put contents) := by
    rw [perform_overwrite, carriesOut .write]
    rfl
  cases mode with
  | clearThenWrite => exact ⟨_, overwritten contents⟩
  | staged =>
    cases backend with
    | memory => exact ⟨_, @commit_of_swaps .memory _ _ trivial distinct .staged nofun⟩
    | database collection =>
      exact ⟨_, @commit_of_swaps (.database collection) _ _ trivial distinct .staged nofun⟩
    | relay refuses =>
      rcases clear_of_refusesNothing carriesOut contents with ⟨count, cleared, clears⟩
      exact ⟨_, (Action.perform_bind_of_ok clears _).trans (overwritten cleared)⟩

end Backend

end SemanticIndex
