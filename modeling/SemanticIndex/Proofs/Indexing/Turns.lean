import SemanticIndex.JointIndexing
import SemanticIndex.Proofs.Indexing.Run

/-!
# Turns

What a turn does to a branch is decided by the branch and the service.  It fails, or it moves the
branch on; the collection of the branch is changed only by the turn that commits the batch.  Over
stores with replacing operations of their own every commit succeeds, so after any number of turns
a collection is as it was prepared or holds exactly the new batch.
-/

namespace SemanticIndex

variable {embedding ticket : Type}

/-! ## Turns of one branch -/

namespace Branch

/-- The call that a branch makes about its batch when it has a turn. -/
inductive Asks (batch : List Document) : Branch ticket → Call ticket → Prop where
  | sends (nonempty : batch ≠ []) : Asks batch (.idle (.ok batch)) (.send batch)
  | polls (stub : ticket) : Asks batch (.waiting batch stub) (.poll stub)

/-- A turn moves a branch on and leaves the service in a final state. -/
inductive Moves
    (service : Service embedding ticket)
    (initial : embedding) :
    Branch ticket → Branch ticket → embedding → Prop where
  /-- An empty batch is not sent. -/
  | unasked : Moves service initial (.idle (.ok [])) (.committed [] 0) initial
  | waits
      {branch : Branch ticket}
      {batch : List Document}
      {call : Call ticket}
      {stub : ticket}
      {final : embedding}
      (asks : branch.Asks batch call)
      (returned : (service call).perform initial = (.ok (.waiting stub), final)) :
      Moves service initial branch (.waiting batch stub) final
  | commits
      {branch : Branch ticket}
      {batch : List Document}
      {call : Call ticket}
      {documents : List EmbeddedDocument}
      {final : embedding}
      (asks : branch.Asks batch call)
      (returned : (service call).perform initial = (.ok (.ready documents), final))
      (sameIds : documents.map (·.id) = batch.map (·.id)) :
      Moves service initial branch (.committed documents documents.length) final
  /-- A branch that has committed its batch is done. -/
  | rests {documents : List EmbeddedDocument} {count : Nat} :
      Moves service initial (.committed documents count) (.committed documents count) initial

/-- A turn of a branch fails and leaves the service in a final state. -/
inductive Fails
    (service : Service embedding ticket)
    (initial : embedding) :
    Branch ticket → Error → embedding → Prop where
  | uncompiled (error : Error) : Fails service initial (.idle (.error error)) error initial
  | refused
      {branch : Branch ticket}
      {batch : List Document}
      {call : Call ticket}
      {error : Error}
      {final : embedding}
      (asks : branch.Asks batch call)
      (returned : (service call).perform initial = (.error error, final)) :
      Fails service initial branch error final
  | mismatched
      {branch : Branch ticket}
      {batch : List Document}
      {call : Call ticket}
      {documents : List EmbeddedDocument}
      {final : embedding}
      (asks : branch.Asks batch call)
      (returned : (service call).perform initial = (.ok (.ready documents), final))
      (otherIds : documents.map (·.id) ≠ batch.map (·.id)) :
      Fails service initial branch (.embedding (.mismatched documents.length batch.length)) final

/--
What a branch over a batch has made of its collection: nothing before it commits the batch, and
then documents that have the ids of the batch and nothing else.
-/
inductive Stands
    (batch : Except Error (List Document))
    (before : Contents) :
    Branch ticket → Contents → Prop where
  | idle : Stands batch before (.idle batch) before
  | waiting
      {sent : List Document}
      {stub : ticket}
      (compiled : batch = .ok sent) :
      Stands batch before (.waiting sent stub) before
  | committed
      {sent : List Document}
      {documents : List EmbeddedDocument}
      {contents : Contents}
      (compiled : batch = .ok sent)
      (sameIds : documents.map (·.id) = sent.map (·.id))
      (held : contents.Holds documents) :
      Stands batch before (.committed documents documents.length) contents

variable {service : Service embedding ticket} {initial final : embedding}
variable {branch next : Branch ticket}

theorem Asks.perform_poll
    {batch : List Document}
    {call : Call ticket}
    (asks : branch.Asks batch call)
    (service : Service embedding ticket)
    (initial : embedding) :
    (branch.poll service).perform initial =
      (service call >>= fun response => .ofExcept (receive batch response)).perform initial := by
  cases asks with
  | sends nonempty =>
    have sent : ¬batch.isEmpty := by simpa using nonempty
    exact (Action.perform_bind_of_ok rfl _).trans (by rw [if_neg sent])
  | polls stub => rfl

theorem Fails.perform_poll
    {error : Error}
    (fails : Fails service initial branch error final) :
    (branch.poll service).perform initial = (.error error, final) := by
  cases fails with
  | uncompiled => rfl
  | refused asks returned => rw [asks.perform_poll, Action.perform_bind_of_error returned]
  | mismatched asks returned otherIds =>
    rw [asks.perform_poll, Action.perform_bind_of_ok returned, receive, acceptAnswer,
      if_neg otherIds]
    rfl

/-- A turn fails or moves the branch on. -/
theorem fails_or_moves
    (service : Service embedding ticket)
    (initial : embedding)
    (branch : Branch ticket) :
    (∃ error final, Fails service initial branch error final) ∨
      ∃ next final, Moves service initial branch next final := by
  have asked {batch : List Document} {call : Call ticket} (asks : branch.Asks batch call) :
      (∃ error final, Fails service initial branch error final) ∨
        ∃ next final, Moves service initial branch next final := by
    rcases returned : (service call).perform initial with ⟨outcome, final⟩
    cases outcome with
    | error error => exact .inl ⟨_, _, .refused asks returned⟩
    | ok response =>
      cases response with
      | waiting stub => exact .inr ⟨_, _, .waits asks returned⟩
      | ready documents =>
        by_cases sameIds : documents.map (·.id) = batch.map (·.id)
        · exact .inr ⟨_, _, .commits asks returned sameIds⟩
        · exact .inl ⟨_, _, .mismatched asks returned sameIds⟩
  cases branch with
  | idle compiled =>
    cases compiled with
    | error error => exact .inl ⟨_, _, .uncompiled error⟩
    | ok batch =>
      by_cases empty : batch = []
      · subst empty
        exact .inr ⟨_, _, .unasked⟩
      · exact asked (.sends empty)
  | waiting batch stub => exact asked (.polls stub)
  | committed documents count => exact .inr ⟨_, _, .rests⟩

/-- A branch that asks for its batch has left its collection alone. -/
theorem Asks.of_stands
    {batch : Except Error (List Document)}
    {sent : List Document}
    {call : Call ticket}
    {before contents : Contents}
    (asks : branch.Asks sent call)
    (stands : branch.Stands batch before contents) :
    batch = .ok sent ∧ contents = before := by
  cases asks with
  | sends nonempty =>
    cases stands with
    | idle => exact ⟨rfl, rfl⟩
  | polls stub =>
    cases stands with
    | waiting compiled => exact ⟨compiled, rfl⟩

/--
A turn that moves a branch on either commits the batch to the collection as it was before, or has
nothing to commit.
-/
theorem Moves.perform_poll
    {batch : Except Error (List Document)}
    {before contents : Contents}
    (moves : Moves service initial branch next final)
    (stands : branch.Stands batch before contents) :
    (∃ sent documents,
        (branch.poll service).perform initial = (.ok (.commit documents), final) ∧
          next = .committed documents documents.length ∧ contents = before ∧
          batch = .ok sent ∧ documents.map (·.id) = sent.map (·.id)) ∨
      (branch.poll service).perform initial = (.ok (.stay next), final) ∧
        next.Stands batch before contents := by
  cases moves with
  | unasked =>
    cases stands with
    | idle => exact .inl ⟨[], [], rfl, rfl, rfl, rfl, rfl⟩
  | waits asks returned =>
    rcases asks.of_stands stands with ⟨compiled, rfl⟩
    refine .inr ⟨?_, .waiting compiled⟩
    rw [asks.perform_poll, Action.perform_bind_of_ok returned]
    rfl
  | @commits _ sent call documents _ asks returned sameIds =>
    rcases asks.of_stands stands with ⟨compiled, untouched⟩
    refine .inl ⟨sent, documents, ?_, rfl, untouched, compiled, sameIds⟩
    rw [asks.perform_poll, Action.perform_bind_of_ok returned, receive, acceptAnswer,
      if_pos sameIds]
    rfl
  | rests => exact .inr ⟨rfl, stands⟩

theorem Asks.unique
    {batch otherBatch : List Document}
    {call otherCall : Call ticket}
    (asks : branch.Asks batch call)
    (otherAsks : branch.Asks otherBatch otherCall) :
    batch = otherBatch ∧ call = otherCall := by
  cases asks <;> cases otherAsks <;> exact ⟨rfl, rfl⟩

theorem Moves.unique
    {otherNext : Branch ticket}
    {otherFinal : embedding}
    (moves : Moves service initial branch next final)
    (otherMoves : Moves service initial branch otherNext otherFinal) :
    next = otherNext ∧ final = otherFinal := by
  cases moves <;> cases otherMoves <;> grind [→ Asks.unique, cases Asks]

theorem Fails.unique
    {error otherError : Error}
    {otherFinal : embedding}
    (fails : Fails service initial branch error final)
    (otherFails : Fails service initial branch otherError otherFinal) :
    error = otherError ∧ final = otherFinal := by
  rcases Prod.mk.inj (fails.perform_poll.symm.trans otherFails.perform_poll) with
    ⟨sameError, sameFinal⟩
  exact ⟨Except.error.inj sameError, sameFinal⟩

theorem Fails.not_moves
    {error : Error}
    {otherFinal : embedding}
    (fails : Fails service initial branch error final) :
    ¬Moves service initial branch next otherFinal := by
  intro moves
  cases fails <;> cases moves <;> grind [→ Asks.unique, cases Asks]

/-- A branch that has had a turn. -/
def Started : Branch ticket → Prop
  | .idle _ => False
  | _ => True

theorem Moves.started (moves : Moves service initial branch next final) : next.Started := by
  cases moves <;> trivial

theorem not_fails_of_committed
    {documents : List EmbeddedDocument}
    {count : Nat}
    {error : Error} :
    ¬Fails service initial (.committed documents count) error final := by
  intro fails
  cases fails with
  | refused asks _ => nomatch asks
  | mismatched asks _ _ => nomatch asks

/-- A branch that fails has left its collection alone. -/
theorem Fails.of_stands
    {batch : Except Error (List Document)}
    {before contents : Contents}
    {error : Error}
    (fails : Fails service initial branch error final)
    (stands : branch.Stands batch before contents) :
    contents = before := by
  cases fails with
  | uncompiled =>
    cases stands with
    | idle => rfl
  | refused asks _ => exact (asks.of_stands stands).2
  | mismatched asks _ _ => exact (asks.of_stands stands).2

/-- A turn that fails leaves the collection alone. -/
theorem Fails.perform_advance
    {stores : Type}
    {error : Error}
    (fails : Fails service initial branch error final)
    (store : Store stores)
    (mode : SyncMode)
    (state : stores) :
    (branch.advance service store mode).perform (initial, state) =
      (.error error, (final, state)) := by
  have polled : (branch.poll service).onFirst.perform (initial, state) =
      (.error error, (final, state)) := by
    rw [Action.perform_onFirst, fails.perform_poll]
  exact Action.perform_bind_of_error polled _

/-- A turn that commits no batch leaves the collection alone. -/
theorem perform_advance_of_stay
    {stores : Type}
    (polled : (branch.poll service).perform initial = (.ok (.stay next), final))
    (store : Store stores)
    (mode : SyncMode)
    (state : stores) :
    (branch.advance service store mode).perform (initial, state) =
      (.ok next, (final, state)) := by
  have polledFirst : (branch.poll service).onFirst.perform (initial, state) =
      (.ok (.stay next), (final, state)) := by
    rw [Action.perform_onFirst, polled]
  exact Action.perform_bind_of_ok polledFirst _

theorem perform_advance_of_commit
    {stores : Type}
    {documents : List EmbeddedDocument}
    {store : Store stores}
    {mode : SyncMode}
    {state after : stores}
    {count : Nat}
    (polled : (branch.poll service).perform initial = (.ok (.commit documents), final))
    (committed : (store.commit documents mode).perform state = (.ok count, after)) :
    (branch.advance service store mode).perform (initial, state) =
      (.ok (.committed documents count), (final, after)) := by
  have polledFirst : (branch.poll service).onFirst.perform (initial, state) =
      (.ok (.commit documents), (final, state)) := by
    rw [Action.perform_onFirst, polled]
  have committedSecond : (store.commit documents mode).onSecond.perform (final, state) =
      (.ok count, (final, after)) := by
    rw [Action.perform_onSecond, committed]
  exact (Action.perform_bind_of_ok polledFirst _).trans
    (Action.perform_bind_of_ok committedSecond _)

end Branch

/-! ## Turns of both branches -/

/-- The batch of a branch. -/
def Manifest.batch (manifest : Manifest) : Turn → Except Error (List Document)
  | .ddl => manifest.compile
  | .views => .ok (viewDocuments manifest.views)

theorem Manifest.ids_of_batch
    {manifest : Manifest}
    {turn : Turn}
    {batch : List Document}
    (compiled : manifest.batch turn = .ok batch) :
    batch.map (·.id) = positions batch.length := by
  cases turn with
  | ddl => exact ids_of_compile compiled
  | views =>
    obtain rfl := Except.ok.inj compiled
    exact Document.ids_sequence _

namespace Turn

/-- The rows of the collection of a branch. -/
def part : Turn → Contents × Contents → Contents
  | .ddl => Prod.fst
  | .views => Prod.snd

/-- Replace the rows of the collection of a branch. -/
def replace (contents : Contents × Contents) (rows : Contents) : Turn → Contents × Contents
  | .ddl => (rows, contents.2)
  | .views => (contents.1, rows)

end Turn

namespace Branches

/-- What both branches of a run over a manifest have made of their collections. -/
def Stand
    (manifest : Manifest)
    (before : Contents × Contents)
    (branches : Branches ticket)
    (contents : Contents × Contents) : Prop :=
  ∀ turn : Turn,
    (branches.of turn).Stands (manifest.batch turn) (turn.part before) (turn.part contents)

/--
Taking turns, the branches get from one stage to another one without an error and leave the
service in a final state.
-/
inductive Reaches
    (service : Service embedding ticket) :
    Branches ticket → embedding → List Turn → Branches ticket → embedding → Prop where
  | done {branches : Branches ticket} {state : embedding} :
      Reaches service branches state [] branches state
  | turn
      {branches reached : Branches ticket}
      {initial middle final : embedding}
      {turn : Turn}
      {rest : List Turn}
      {next : Branch ticket}
      (moves : (branches.of turn).Moves service initial next middle)
      (reaches : Reaches service (branches.set turn next) middle rest reached final) :
      Reaches service branches initial (turn :: rest) reached final

/--
Taking turns, the branches get from one stage to another one, where a turn fails and leaves the
service in a final state.
-/
inductive Stops
    (service : Service embedding ticket) :
    Branches ticket → embedding → List Turn →
      Branches ticket → Turn → Error → embedding → Prop where
  | now
      {branches : Branches ticket}
      {initial final : embedding}
      {turn : Turn}
      {rest : List Turn}
      {error : Error}
      (fails : (branches.of turn).Fails service initial error final) :
      Stops service branches initial (turn :: rest) branches turn error final
  | later
      {branches reached : Branches ticket}
      {initial middle final : embedding}
      {turn last : Turn}
      {rest : List Turn}
      {next : Branch ticket}
      {error : Error}
      (moves : (branches.of turn).Moves service initial next middle)
      (stops : Stops service (branches.set turn next) middle rest reached last error final) :
      Stops service branches initial (turn :: rest) reached last error final

theorem stand_start (manifest : Manifest) (before : Contents × Contents) :
    (start manifest : Branches ticket).Stand manifest before before := by
  intro turn
  cases turn with
  | ddl => exact .idle
  | views => exact .idle

theorem of_set (branches : Branches ticket) (turn other : Turn) (next : Branch ticket) :
    (branches.set turn next).of other = if other = turn then next else branches.of other := by
  cases turn <;> cases other <;> rfl

variable {service : Service embedding ticket} {branches reached : Branches ticket}
variable {initial final : embedding} {turns : List Turn} {turn : Turn} {error : Error}

/-- The turn that fails is determined, with how far the branches are by then. -/
theorem Stops.unique
    {otherReached : Branches ticket}
    {otherTurn : Turn}
    {otherError : Error}
    {otherFinal : embedding}
    (stops : branches.Stops service initial turns reached turn error final)
    (otherStops :
      branches.Stops service initial turns otherReached otherTurn otherError otherFinal) :
    reached = otherReached ∧ turn = otherTurn ∧ error = otherError ∧ final = otherFinal := by
  induction stops with
  | now fails =>
    cases otherStops with
    | now otherFails => exact ⟨rfl, rfl, fails.unique otherFails⟩
    | later moves _ => exact absurd moves fails.not_moves
  | later moves _ induction =>
    cases otherStops with
    | now fails => exact absurd moves fails.not_moves
    | later otherMoves otherStops =>
      obtain ⟨rfl, rfl⟩ := moves.unique otherMoves
      exact induction otherStops

theorem Stops.fails (stops : branches.Stops service initial turns reached turn error final) :
    ∃ middle, (reached.of turn).Fails service middle error final := by
  induction stops with
  | now fails => exact ⟨_, fails⟩
  | later _ _ induction => exact induction

theorem Stops.started
    (stops : branches.Stops service initial turns reached turn error final)
    (other : Turn)
    (started : (branches.of other).Started) :
    (reached.of other).Started := by
  induction stops with
  | now _ => exact started
  | later moves _ induction =>
    apply induction
    rw [of_set]
    split
    · exact moves.started
    · exact started

/-- Both branches of a run are idle until the statements have had their first turn. -/
theorem Stops.of_schedule
    {manifest : Manifest}
    {later : List Turn}
    (stops : (start manifest).Stops service initial (Turn.schedule later) reached turn error
      final) :
    reached = start manifest ∧ turn = .ddl ∨ reached.ddl.Started := by
  cases stops with
  | now _ => exact .inl ⟨rfl, rfl⟩
  | later moves stops => exact .inr (stops.started .ddl moves.started)

end Branches

theorem Turn.part_replace (contents : Contents × Contents) (rows : Contents) (turn other : Turn) :
    other.part (turn.replace contents rows) =
      if other = turn then rows else other.part contents := by
  cases turn <;> cases other <;> rfl

/-! ## Turns over tables -/

namespace StorePair

variable {pair : StorePair} {mode : SyncMode} {manifest : Manifest}
variable {before contents : Contents × Contents}
variable {service : Service embedding ticket} {initial final : embedding}
variable {branches reached : Branches ticket}

/-- A pair of stores as the collaborators of runs whose branches may wait. -/
def jointIndexer
    (pair : StorePair)
    (service : Service embedding ticket)
    (mode : SyncMode) : JointIndexer embedding ticket pair.State :=
  ⟨pair.targets mode, service⟩

/-- The contents of a pair of stores as the collaborators of runs whose branches may wait. -/
def jointModel
    (pair : StorePair)
    (service : Service embedding ticket)
    (mode : SyncMode) : JointIndexer embedding ticket (Contents × Contents) :=
  ⟨pair.modelTargets mode, service⟩

/-- A batch is committed to the table of its branch, prepared for it, and the other one is kept. -/
theorem perform_commit_of
    (swaps : pair.Swaps)
    (turn : Turn)
    {documents : List EmbeddedDocument}
    (numbered : Numbered documents)
    (cleared : mode = .clearThenWrite → turn.part contents = .empty) :
    (((pair.modelTargets mode).of turn).commit documents mode).perform contents =
      (.ok documents.length, turn.replace contents (.ofDocuments documents)) := by
  cases turn with
  | ddl =>
    have committed := Backend.commit_of_swaps swaps.1 numbered.distinct cleared
    change (pair.ddlBackend.model.onFirst.commit documents mode).perform contents = _
    rw [Store.commit_onFirst, Action.perform_onFirst]
    exact congrArg (fun outcome => (outcome.1, (outcome.2, contents.2))) committed
  | views =>
    have committed := Backend.commit_of_swaps swaps.2 numbered.distinct cleared
    change (pair.viewBackend.model.onSecond.commit documents mode).perform contents = _
    rw [Store.commit_onSecond, Action.perform_onSecond]
    exact congrArg (fun outcome => (outcome.1, (contents.1, outcome.2))) committed

/-- A turn that moves its branch on does so over its table, and changes no other. -/
theorem perform_advance_of_moves
    (swaps : pair.Swaps)
    (cleared : mode = .clearThenWrite → before = (.empty, .empty))
    {turn : Turn}
    {branch next : Branch ticket}
    (stands : branch.Stands (manifest.batch turn) (turn.part before) (turn.part contents))
    (moves : branch.Moves service initial next final) :
    ∃ rows,
      (branch.advance service ((pair.modelTargets mode).of turn) mode).perform
          (initial, contents) = (.ok next, (final, turn.replace contents rows)) ∧
        next.Stands (manifest.batch turn) (turn.part before) rows := by
  have unchanged : turn.replace contents (turn.part contents) = contents := by
    cases turn <;> rfl
  have clearedPart (clears : mode = .clearThenWrite) : turn.part before = .empty := by
    rw [cleared clears]
    cases turn <;> rfl
  rcases moves.perform_poll stands with
    ⟨sent, documents, polled, rfl, untouched, compiled, sameIds⟩ | ⟨polled, nextStands⟩
  · have numbered := numbered_of_sameIds sameIds (Manifest.ids_of_batch compiled)
    have committed := perform_commit_of swaps turn numbered (untouched.trans ∘ clearedPart)
    exact ⟨_, Branch.perform_advance_of_commit polled committed,
      .committed compiled sameIds (Contents.holds_ofDocuments numbered.distinct)⟩
  · refine ⟨turn.part contents, ?_, nextStands⟩
    rw [unchanged]
    exact Branch.perform_advance_of_stay polled _ mode contents

/-- A turn moves its branch on, or fails and leaves both tables alone. -/
theorem perform_take
    (swaps : pair.Swaps)
    (cleared : mode = .clearThenWrite → before = (.empty, .empty))
    (stand : branches.Stand manifest before contents)
    (turn : Turn)
    (service : Service embedding ticket)
    (initial : embedding) :
    (∃ error final,
        (branches.of turn).Fails service initial error final ∧
          ((pair.jointModel service mode).take branches turn).perform (initial, contents) =
            (.error error, (final, contents))) ∨
      ∃ next final after,
        (branches.of turn).Moves service initial next final ∧
          ((pair.jointModel service mode).take branches turn).perform (initial, contents) =
            (.ok (branches.set turn next), (final, after)) ∧
          (branches.set turn next).Stand manifest before after := by
  rcases (branches.of turn).fails_or_moves service initial with
    ⟨error, final, fails⟩ | ⟨next, final, moves⟩
  · have advanced := fails.perform_advance ((pair.modelTargets mode).of turn) mode contents
    exact .inl ⟨error, final, fails, Action.perform_bind_of_error advanced _⟩
  · rcases perform_advance_of_moves swaps cleared (stand turn) moves with
      ⟨rows, advanced, nextStands⟩
    refine .inr ⟨next, final, _, moves, Action.perform_bind_of_ok advanced _, ?_⟩
    intro other
    rw [Branches.of_set, Turn.part_replace]
    by_cases same : other = turn
    · subst same
      rw [if_pos rfl, if_pos rfl]
      exact nextStands
    · rw [if_neg same, if_neg same]
      exact stand other

/--
However often the branches take turns, every table is as it was before or holds exactly the batch
of its branch, also when a turn fails.
-/
theorem perform_turns
    (swaps : pair.Swaps)
    (cleared : mode = .clearThenWrite → before = (.empty, .empty))
    (stand : branches.Stand manifest before contents)
    (turns : List Turn)
    (service : Service embedding ticket)
    (initial : embedding) :
    (∃ reached turn error final after,
        branches.Stops service initial turns reached turn error final ∧
          (turns.foldlM (pair.jointModel service mode).take branches).perform
            (initial, contents) = (.error error, (final, after)) ∧
          reached.Stand manifest before after) ∨
      ∃ reached final after,
        branches.Reaches service initial turns reached final ∧
          (turns.foldlM (pair.jointModel service mode).take branches).perform
            (initial, contents) = (.ok reached, (final, after)) ∧
          reached.Stand manifest before after := by
  induction turns generalizing branches initial contents with
  | nil => exact .inr ⟨branches, initial, contents, .done, rfl, stand⟩
  | cons turn rest induction =>
    rw [List.foldlM_cons]
    rcases perform_take swaps cleared stand turn service initial with
      ⟨error, final, fails, took⟩ | ⟨next, middle, between, moves, took, nextStand⟩
    · exact .inl ⟨branches, turn, error, final, contents, .now fails,
        Action.perform_bind_of_error took _, stand⟩
    · rw [Action.perform_bind_of_ok took]
      rcases induction nextStand middle with
        ⟨reached, last, error, final, after, stops, folded, reachedStand⟩ |
          ⟨reached, final, after, reaches, folded, reachedStand⟩
      · exact .inl ⟨reached, last, error, final, after, .later moves stops, folded, reachedStand⟩
      · exact .inr ⟨reached, final, after, .turn moves reaches, folded, reachedStand⟩

end StorePair

end SemanticIndex
