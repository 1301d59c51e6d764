import Mathlib.Data.List.Perm.Subperm
import SemanticIndex.Proofs.Store.Backend

/-!
# Clearing stores with any ids

Clearing counts the documents and deletes the ids that are the positions below that count.  Where
the ids are other texts, as many documents survive as positions are missing from the ids.  So the
collection is emptied exactly when it is contiguous, and only then the reported number is that of
the deleted documents.  A store may refuse to count or to delete; then nothing has been deleted.
-/

namespace SemanticIndex

/-! ## Refusals -/

/-- The error with which each basic operation is refused, if it is refused. -/
abbrev Refusal :=
  Operation → Option Error

namespace Action

variable {state result : Type}

/-- Perform an action unless there is an error to fail with. -/
def unlessRefused
    (refused : Option Error)
    (action : Action state result) : Action state result :=
  match refused with
  | some error => throw error
  | none => action

theorem perform_unlessRefused
    (refused : Option Error)
    (action : Action state result)
    (initial : state) :
    (action.unlessRefused refused).perform initial =
      match refused with
      | some error => (.error error, initial)
      | none => action.perform initial := by
  cases refused <;> rfl

end Action

/-- The operations of a store of which some fail before they start, each with its own error. -/
def BasicStore.refusing
    {state : Type}
    (store : BasicStore state)
    (refusal : Refusal) : BasicStore state where
  count := store.count.unlessRefused (refusal .count)
  delete ids := (store.delete ids).unlessRefused (refusal .delete)
  write documents policy := (store.write documents policy).unlessRefused (refusal .write)

/-- A relay is a refusing store whose errors name the operations. -/
theorem Relay.around_eq_refusing
    {state : Type}
    (inner : BasicStore state)
    (refuses : Operation → Bool) :
    around inner refuses =
      (inner.refusing fun operation =>
        if refuses operation then some (.store (.refused operation.name)) else none).toStore := by
  have guarded {result : Type} (operation : Operation) (action : Action state result) :
      guard refuses operation action =
        action.unlessRefused
          (if refuses operation then some (.store (.refused operation.name)) else none) := by
    unfold guard
    split <;> rfl
  simp only [around, BasicStore.refusing, guarded]

/-- The error with which clearing so many documents is refused; without any none is deleted. -/
def Refusal.clearing? (refusal : Refusal) (count : Nat) : Option Error :=
  (refusal .count).or (if count = 0 then none else refusal .delete)

theorem Refusal.clearing?_none (count : Nat) : clearing? (fun _ => none) count = none := by
  simp [clearing?]

/-! ## Cleared rows -/

namespace Contents

variable {contents : Contents}

/-- The rows that clearing leaves. -/
def cleared (contents : Contents) : Contents :=
  (positions contents.size).foldl Table.erase contents

theorem find?_foldl_erase
    (contents : Contents)
    (ids : List String)
    (id : String) :
    (ids.foldl Table.erase contents).find? id =
      if id ∈ ids then none else contents.find? id := by
  induction ids generalizing contents with
  | nil => rfl
  | cons first rest induction =>
    rw [List.foldl_cons, induction, Table.find?_erase]
    by_cases later : id ∈ rest <;> by_cases same : id = first <;> simp [later, same]

theorem find?_cleared (contents : Contents) (id : String) :
    contents.cleared.find? id =
      if id ∈ positions contents.size then none else contents.find? id :=
  find?_foldl_erase contents _ id

theorem keys_cleared (contents : Contents) :
    contents.cleared.keys = contents.keys.filter (· ∉ positions contents.size) := by
  rw [Table.keys, cleared, Table.rows_foldl_erase, Table.keys, List.filter_map]
  rfl

theorem length_positions (count : Nat) : (positions count).length = count := by
  rw [positions, List.length_map, List.length_range]

/-- Of two lists without repetitions, each has as many elements that are in the other. -/
theorem countP_mem_comm
    {ids others : List String}
    (distinct : ids.Nodup)
    (otherDistinct : others.Nodup) :
    ids.countP (· ∈ others) = others.countP (· ∈ ids) := by
  have shared : (ids.filter (· ∈ others)).Perm (others.filter (· ∈ ids)) := by
    rw [List.perm_ext_iff_of_nodup (distinct.filter _) (otherDistinct.filter _)]
    intro id
    simp [and_comm]
  rw [List.countP_eq_length_filter, List.countP_eq_length_filter, shared.length_eq]

/-- As many documents survive as positions are missing from the ids. -/
theorem size_cleared (contents : Contents) :
    contents.cleared.size = (positions contents.size).countP (· ∉ contents.keys) := by
  -- There are as many ids as positions, and what they share counts the same in both.
  have shared := countP_mem_comm contents.nodup_keys (nodup_positions contents.size)
  have ids : contents.keys.length = contents.keys.countP (· ∈ positions contents.size) +
      contents.keys.countP (· ∉ positions contents.size) := by
    simpa using List.length_eq_countP_add_countP (· ∈ positions contents.size)
  have places : contents.size = (positions contents.size).countP (· ∈ contents.keys) +
      (positions contents.size).countP (· ∉ contents.keys) := by
    simpa [length_positions] using
      List.length_eq_countP_add_countP (l := positions contents.size) (· ∈ contents.keys)
  have survivors : contents.cleared.size =
      contents.keys.countP (· ∉ positions contents.size) := by
    rw [Table.size_eq_length_keys, keys_cleared, ← List.countP_eq_length_filter]
  have counted : contents.size = contents.keys.length := contents.size_eq_length_keys
  omega

/-- As many ids as positions are all of them if no position is missing. -/
theorem contiguous_iff :
    contents.Contiguous ↔ ∀ id ∈ positions contents.size, id ∈ contents.keys := by
  constructor
  · intro contiguous id positional
    exact (contiguous id).mpr (mem_positions.mp positional)
  · intro included id
    have within : (positions contents.size).Subperm contents.keys :=
      List.subperm_of_subset (nodup_positions _) included
    have sameLength : contents.keys.length = (positions contents.size).length := by
      rw [length_positions, Table.size_eq_length_keys]
    rw [← (within.perm_of_length_le (Nat.le_of_eq sameLength)).mem_iff, mem_positions]

theorem size_cleared_eq_zero_iff : contents.cleared.size = 0 ↔ contents.Contiguous := by
  rw [size_cleared, List.countP_eq_zero, contiguous_iff]
  simp

theorem size_eq_deleted_add (contents : Contents) :
    contents.size =
      contents.keys.countP (· ∉ contents.cleared.keys) + contents.cleared.size := by
  have kept : contents.keys.countP (· ∈ contents.cleared.keys) = contents.cleared.size := by
    rw [Table.size_eq_length_keys, keys_cleared, ← List.countP_eq_length_filter]
    apply List.countP_congr
    intro id inside
    simp [inside]
  have divided := List.length_eq_countP_add_countP (l := contents.keys)
    (· ∈ contents.cleared.keys)
  rw [← Table.size_eq_length_keys, kept] at divided
  simpa [Nat.add_comm] using divided

/-- What clearing makes of the documents of a collection. -/
structure Clears (before after : Contents) : Prop where
  deleted : ∀ position < before.size, after.find? (toString position) = none
  kept : ∀ id, (∀ position < before.size, id ≠ toString position) →
    after.find? id = before.find? id
  survivors : after.size =
    (List.range before.size).countP fun position => toString position ∉ before.keys
  empties_iff : after.size = 0 ↔ before.Contiguous
  /-- As many documents are gone as clearing reports. -/
  counts_iff : before.keys.countP (· ∉ after.keys) = before.size ↔ before.Contiguous

theorem clears_cleared (contents : Contents) : contents.Clears contents.cleared where
  deleted position below := by
    rw [find?_cleared, if_pos (mem_positions.mpr ⟨position, below, rfl⟩)]
  kept id other := by
    rw [find?_cleared, if_neg]
    intro positional
    rcases mem_positions.mp positional with ⟨position, below, same⟩
    exact other position below same
  survivors := by
    rw [size_cleared, positions, List.countP_map]
    rfl
  empties_iff := size_cleared_eq_zero_iff
  counts_iff := by
    have divided := contents.size_eq_deleted_add
    rw [← size_cleared_eq_zero_iff]
    omega

end Contents

/-! ## Stores of rows by id -/

namespace Action.Follows

variable {first second result : Type} {view : first → second}
variable {action : Action first result} {model : Action second result}

/-- What a model reaches, the action reaches in a state that is seen as the model's. -/
theorem exists_final
    (follows : Follows view action model)
    {initial : first}
    {outcome : Except Error result}
    {after : second}
    (performed : model.perform (view initial) = (outcome, after)) :
    ∃ final, action.perform initial = (outcome, final) ∧ view final = after := by
  rw [follows initial] at performed
  obtain ⟨sameOutcome, sameAfter⟩ := Prod.mk.inj performed
  exact ⟨(action.perform initial).2, Prod.ext sameOutcome rfl, sameAfter⟩

end Action.Follows

/-- A store that carries everything out on rows by id, as a view of its state shows them. -/
structure Store.BackedBy
    {state : Type}
    (store : Store state)
    (view : state → Contents) : Prop where
  counts : ∀ initial, store.count.perform initial = (.ok (view initial).size, initial)
  deletes : ∀ ids initial, ∃ final, (store.delete ids).perform initial = (.ok (), final) ∧
    view final = ids.foldl Table.erase (view initial)
  writes : ∀ documents policy initial, ∃ final,
    (store.write documents policy).perform initial =
        (((view initial).write documents policy).1, final) ∧
      view final = ((view initial).write documents policy).2
  /-- Replacing swaps the whole collection; what it reports is left to the store. -/
  replaces : ∀ documents initial, ∃ counted final,
    (store.replaceAll documents).perform initial = (.ok counted, final) ∧
      view final = .ofDocuments documents

theorem Backend.backed_of_swaps
    {backend : Backend}
    (swaps : backend.Swaps) :
    backend.store.BackedBy backend.contents where
  counts initial := by
    cases backend with
    | memory =>
      exact congrArg (fun size => (Except.ok size, initial)) (Memory.size_contents initial).symm
    | database collection => rfl
    | relay refuses => exact swaps.elim
  deletes ids initial := by
    apply (backend.store_follows.delete ids).exists_final
    rw [perform_delete, refuses_of_swaps swaps]
    rfl
  writes documents policy initial := by
    apply (backend.store_follows.write documents policy).exists_final
    cases backend with
    | memory => rfl
    | database collection => rfl
    | relay refuses => exact swaps.elim
  replaces documents initial := by
    cases backend with
    | memory => exact ⟨_, (Memory.store_follows.replaceAll documents).exists_final rfl⟩
    | database collection =>
      exact ⟨_, ((Database.store_follows collection).replaceAll documents).exists_final rfl⟩
    | relay refuses => exact swaps.elim

namespace Store.BackedBy

variable {state : Type} {store : Store state} {view : state → Contents}
variable (backed : store.BackedBy view) (refusal : Refusal) (initial : state)

include backed

/-- A refused clearing fails with the store's error and has done nothing. -/
theorem perform_clear_of_refused
    {error : Error}
    (refused : refusal.clearing? (view initial).size = some error) :
    (store.refusing refusal).clear.perform initial = (.error error, initial) := by
  rw [BasicStore.clear, Action.perform_bind, BasicStore.refusing, Action.perform_unlessRefused]
  rw [Refusal.clearing?] at refused
  cases count : refusal .count with
  | some reason =>
    rw [count] at refused
    obtain rfl := Option.some.inj refused
    rfl
  | none =>
    rw [count, Option.none_or] at refused
    split at refused
    · cases refused
    · rename_i documents
      simp only [backed.counts, if_neg documents, Action.perform_bind,
        Action.perform_unlessRefused, refused]

/-- Without documents nothing is deleted, so only counting can be refused. -/
theorem perform_clear_of_empty
    (counts : refusal .count = none)
    (without : (view initial).size = 0) :
    (store.refusing refusal).clear.perform initial = (.ok 0, initial) := by
  rw [BasicStore.clear, Action.perform_bind, BasicStore.refusing, Action.perform_unlessRefused,
    counts]
  simp only [backed.counts, if_pos without, Action.perform_pure]

theorem exists_clear_of_not_refused
    (free : refusal.clearing? (view initial).size = none) :
    ∃ final, (store.refusing refusal).clear.perform initial = (.ok (view initial).size, final) ∧
      view final = (view initial).cleared := by
  rw [Refusal.clearing?, Option.or_eq_none_iff] at free
  by_cases without : (view initial).size = 0
  · refine ⟨initial, ?_, ?_⟩
    · rw [backed.perform_clear_of_empty refusal initial free.1 without, without]
    · rw [Contents.cleared, without]
      rfl
  · rcases backed.deletes (positions (view initial).size) initial with ⟨final, deletes, erased⟩
    refine ⟨final, ?_, erased⟩
    rw [if_neg without] at free
    rw [BasicStore.clear, Action.perform_bind, BasicStore.refusing, Action.perform_unlessRefused,
      free.1]
    simp only [backed.counts, if_neg without, Action.perform_bind,
      Action.perform_unlessRefused, free.2]
    rw [← positions, deletes]
    rfl

omit refusal in
theorem exists_clear :
    ∃ final, store.clear.perform initial = (.ok (view initial).size, final) ∧
      view final = (view initial).cleared :=
  backed.exists_clear_of_not_refused (fun _ => none) initial (Refusal.clearing?_none _)

end Store.BackedBy

namespace Backend

variable {backend : Backend}

/--
Clearing a store in memory or a collection deletes exactly the documents whose ids are the decimal
texts of the positions below their count, and reports the count.  Once the store is empty, clearing
does nothing.  A store that refuses to count or to delete is left as it was.
-/
theorem clear_deletes_positions
    (swaps : backend.Swaps)
    (state : backend.State) :
    let before := backend.contents state
    (∃ final, backend.store.clear.perform state = (.ok before.size, final) ∧
        before.Clears (backend.contents final) ∧
        ((backend.contents final).size = 0 →
          backend.store.clear.perform final = (.ok 0, final))) ∧
      ∀ refusal : Refusal, refusal .count ≠ none ∨ refusal .delete ≠ none →
        (backend.store.refusing refusal).clear.perform state =
          (match refusal.clearing? before.size with
            | some error => .error error
            | none => .ok 0, state) := by
  intro before
  have backed := backed_of_swaps swaps
  constructor
  · rcases backed.exists_clear state with ⟨final, clears, cleared⟩
    refine ⟨final, clears, ?_, ?_⟩
    · rw [cleared]
      exact before.clears_cleared
    · exact backed.perform_clear_of_empty (fun _ => none) final rfl
  · intro refusal refuses
    cases refused : refusal.clearing? before.size with
    | some error => exact backed.perform_clear_of_refused refusal state refused
    | none =>
      obtain ⟨counts, unasked⟩ := Option.or_eq_none_iff.mp refused
      have without : before.size = 0 := by
        by_contra documents
        rw [if_neg documents] at unasked
        exact refuses.elim (· counts) (· unasked)
      exact backed.perform_clear_of_empty refusal state counts without

/-- Ids that only look like positions stay, and as many documents as there are positions missing. -/
theorem clear_deletes_positions_among_lookalikes :
    let documents : List EmbeddedDocument :=
      [⟨"00", "padded", []⟩, ⟨"0", "first", [1]⟩, ⟨"+1", "signed", []⟩, ⟨"9", "far", [2]⟩]
    let memory := Memory.empty.putAll documents
    ∃ final, Memory.store.clear.perform memory = (.ok 4, final) ∧
      final.contents.size = 3 ∧ final.contents.find? "0" = none ∧
      final.contents.find? "+1" = memory.contents.find? "+1" := by
  intro documents memory
  obtain ⟨⟨final, clears, effect, -⟩, -⟩ :=
    @clear_deletes_positions .memory trivial memory
  refine ⟨final, clears, ?_, ?_, ?_⟩
  · exact effect.survivors
  · exact effect.deleted 0 (by decide)
  · exact effect.kept "+1" (by decide)

end Backend

end SemanticIndex
