import Mathlib.Data.List.Induction
import Mathlib.Data.List.Nodup
import SemanticIndex.Proofs.Store.Contents

/-!
# Batches that repeat ids

A batch may repeat ids and name ids that are taken.  Documents that are put in one after the other
leave the last one with each id, and documents that are put in where the id is free leave the first
one.  The ids that collide are those at the positions whose id is taken or stands earlier in the
batch.
-/

namespace SemanticIndex

/-- The first document of a batch with an id. -/
def firstWith? (id : String) (documents : List EmbeddedDocument) : Option EmbeddedDocument :=
  documents.find? (·.id = id)

/-- The last document of a batch with an id. -/
def lastWith? (id : String) (documents : List EmbeddedDocument) : Option EmbeddedDocument :=
  documents.reverse.find? (·.id = id)

theorem find?_id_of_mem
    {documents : List EmbeddedDocument}
    (distinct : (documents.map (·.id)).Nodup)
    {document : EmbeddedDocument}
    (inside : document ∈ documents) :
    documents.find? (·.id = document.id) = some document := by
  induction documents with
  | nil => exact nomatch inside
  | cons first rest induction =>
    rw [List.map_cons, List.nodup_cons] at distinct
    rcases List.mem_cons.mp inside with rfl | later
    · simp
    · have differs : first.id ≠ document.id := by
        intro same
        exact distinct.1 (same ▸ List.mem_map_of_mem later)
      rw [List.find?_cons_of_neg (by simpa using differs)]
      exact induction distinct.2 later

/-- Where ids do not repeat, every document is the last one with its id. -/
theorem lastWith?_of_mem
    {documents : List EmbeddedDocument}
    (distinct : (documents.map (·.id)).Nodup)
    {document : EmbeddedDocument}
    (inside : document ∈ documents) :
    lastWith? document.id documents = some document := by
  have reversedDistinct : (documents.reverse.map (·.id)).Nodup := by
    rw [List.map_reverse, List.nodup_reverse]
    exact distinct
  exact find?_id_of_mem reversedDistinct (List.mem_reverse.mpr inside)

theorem lastWith?_eq_none_iff
    {documents : List EmbeddedDocument}
    {id : String} :
    lastWith? id documents = none ↔ id ∉ documents.map (·.id) := by
  simp [lastWith?]

theorem id_of_lastWith?
    {documents : List EmbeddedDocument}
    {id : String}
    {document : EmbeddedDocument}
    (last : lastWith? id documents = some document) :
    document.id = id := by
  simpa using List.find?_some last

theorem id_of_firstWith?
    {documents : List EmbeddedDocument}
    {id : String}
    {document : EmbeddedDocument}
    (first : firstWith? id documents = some document) :
    document.id = id := by
  simpa using List.find?_some first

namespace Contents

theorem find?_put
    (contents : Contents)
    (document : EmbeddedDocument)
    (id : String) :
    (contents.put document).find? id =
      if id = document.id then some (.ofDocument document) else contents.find? id :=
  Table.find?_insert contents document.id id _

/-- The last document with an id is what a batch leaves of it. -/
theorem find?_foldl_put
    (documents : List EmbeddedDocument)
    (contents : Contents)
    (id : String) :
    (documents.foldl put contents).find? id =
      ((lastWith? id documents).map Row.ofDocument).or (contents.find? id) := by
  -- From the end, because a document hides what came before it.
  induction documents using List.reverseRecOn with
  | nil => rfl
  | append_singleton earlier document induction =>
    rw [List.foldl_append, List.foldl_cons, List.foldl_nil, find?_put, induction, lastWith?,
      lastWith?, List.reverse_append, List.reverse_singleton, List.singleton_append,
      List.find?_cons]
    by_cases same : id = document.id
    · simp [same]
    · simp [same, Ne.symm same]

theorem find?_putNew
    (contents : Contents)
    (document : EmbeddedDocument)
    (id : String) :
    (contents.putNew document).find? id =
      (contents.find? id).or (if id = document.id then some (.ofDocument document) else none) := by
  have taken : contents.contains document.id = (contents.find? document.id).isSome := by
    rw [Bool.eq_iff_iff, Table.contains_iff_mem_keys, Table.mem_keys_iff_isSome_find?]
  rw [putNew, taken]
  by_cases same : id = document.id
  · subst same
    cases found : contents.find? document.id with
    | some row => simp [found]
    | none => simp [find?_put]
  · split <;> simp [find?_put, same]

/-- The first document with a free id is what a batch adds of it. -/
theorem find?_foldl_putNew
    (documents : List EmbeddedDocument)
    (contents : Contents)
    (id : String) :
    (documents.foldl putNew contents).find? id =
      (contents.find? id).or ((firstWith? id documents).map Row.ofDocument) := by
  induction documents generalizing contents with
  | nil => simp [firstWith?]
  | cons document rest induction =>
    rw [List.foldl_cons, induction, find?_putNew, firstWith?, firstWith?, List.find?_cons,
      Option.or_assoc]
    by_cases same : id = document.id
    · simp [same]
    · simp [same, Ne.symm same]

theorem size_le_foldl_putNew
    (documents : List EmbeddedDocument)
    (contents : Contents) :
    contents.size ≤ (documents.foldl putNew contents).size := by
  induction documents generalizing contents with
  | nil => exact Nat.le_refl _
  | cons document rest induction =>
    have grown : contents.size ≤ (contents.putNew document).size := by
      rw [putNew, put, apply_ite Table.size, Table.size_insert]
      split <;> simp_all
    exact Nat.le_trans grown (induction _)

end Contents

/-! ## Colliding ids -/

/-- The ids of a batch at the positions whose id is taken or stands earlier in the batch. -/
def repeatedIds (taken : String → Prop) [DecidablePred taken] (ids : List String) : List String :=
  (ids.zipIdx.filter fun (id, position) => taken id ∨ id ∈ ids.take position).map Prod.fst

theorem repeatedIds_congr
    {taken other : String → Prop}
    [DecidablePred taken]
    [DecidablePred other]
    (same : ∀ id, taken id ↔ other id)
    (ids : List String) :
    repeatedIds taken ids = repeatedIds other ids := by
  simp only [repeatedIds, same]

theorem repeatedIds_append_singleton
    (taken : String → Prop)
    [DecidablePred taken]
    (ids : List String)
    (id : String) :
    repeatedIds taken (ids ++ [id]) =
      repeatedIds taken ids ++ if taken id ∨ id ∈ ids then [id] else [] := by
  have sameBefore :
      (ids.zipIdx.filter fun entry => taken entry.1 ∨ entry.1 ∈ (ids ++ [id]).take entry.2) =
        ids.zipIdx.filter fun entry => taken entry.1 ∨ entry.1 ∈ ids.take entry.2 := by
    apply List.filter_congr
    rintro ⟨earlier, position⟩ inside
    have before : position ≤ ids.length :=
      Nat.le_of_lt (by simpa using List.snd_lt_of_mem_zipIdx inside)
    rw [List.take_append_of_le_length before]
  have last : (ids ++ [id]).take ids.length = ids := List.take_left
  rw [repeatedIds, List.zipIdx_append, List.filter_append, sameBefore, List.map_append]
  congr 1
  simp only [List.zipIdx_singleton, Nat.zero_add, List.filter_cons, List.filter_nil, last]
  by_cases collides : taken id ∨ id ∈ ids <;> simp [collides]

theorem collidingIds_append_singleton
    (taken : String → Bool)
    (seen ids : List String)
    (id : String) :
    collidingIds taken seen (ids ++ [id]) =
      collidingIds taken seen ids ++
        if id ∈ seen ∨ taken id ∨ id ∈ ids then [id] else [] := by
  induction ids generalizing seen with
  | nil => simp [collidingIds]
  | cons first rest induction =>
    have sameCondition : (id ∈ first :: seen ∨ taken id ∨ id ∈ rest) ↔
        (id ∈ seen ∨ taken id ∨ id ∈ first :: rest) := by
      grind
    rw [List.cons_append, collidingIds, collidingIds, induction, if_congr sameCondition rfl rfl]
    split <;> rfl

theorem collidingIds_eq_repeatedIds (taken : String → Bool) (ids : List String) :
    collidingIds taken [] ids = repeatedIds (taken · = true) ids := by
  -- From the end, so that what stands before the last id is the batch of the hypothesis.
  induction ids using List.reverseRecOn with
  | nil => rfl
  | append_singleton earlier id induction =>
    rw [collidingIds_append_singleton, repeatedIds_append_singleton, induction]
    simp

/-- Nothing collides exactly when the ids are distinct and free. -/
theorem repeatedIds_eq_nil_iff
    {taken : String → Prop}
    [DecidablePred taken]
    {ids : List String} :
    repeatedIds taken ids = [] ↔ ids.Nodup ∧ ∀ id ∈ ids, ¬ taken id := by
  induction ids using List.reverseRecOn with
  | nil => simp [repeatedIds]
  | append_singleton earlier id induction =>
    rw [repeatedIds_append_singleton, List.append_eq_nil_iff, induction, List.nodup_append]
    grind

end SemanticIndex
