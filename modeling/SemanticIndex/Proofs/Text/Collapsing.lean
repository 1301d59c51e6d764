import SemanticIndex.Proofs.Text.Trimming

/-!
# Collapsing blanks

Collapsing a text drops its leading blanks.  Behind a first character that is no blank it goes from
left to right: characters that are no blanks stay, and a run of blanks becomes one space unless the
text ends with it.
-/

namespace SemanticIndex.Text

/-- What collapsing leaves of a text that stands behind a character that is no blank. -/
def squeeze : List Char → List Char
  | [] => []
  | character :: rest =>
    if isBlank character then
      if rest.head?.any (!isBlank ·) then ' ' :: squeeze rest else squeeze rest
    else character :: squeeze rest

variable {character next : Char} {rest : List Char}

theorem squeeze_cons (mark : isBlank character = false) (rest : List Char) :
    squeeze (character :: rest) = character :: squeeze rest := by
  simp [squeeze, mark]

theorem squeeze_blank_cons_blank
    (blank : isBlank character = true)
    (again : isBlank next = true)
    (rest : List Char) :
    squeeze (character :: next :: rest) = squeeze (next :: rest) := by
  rw [squeeze, if_pos blank, if_neg (by simp [again])]

theorem squeeze_blank_cons_mark
    (blank : isBlank character = true)
    (mark : isBlank next = false)
    (rest : List Char) :
    squeeze (character :: next :: rest) = ' ' :: squeeze (next :: rest) := by
  rw [squeeze, if_pos blank, if_pos (by simp [mark])]

theorem squeeze_append
    {front : List Char}
    (marks : ∀ character ∈ front, isBlank character = false)
    (rest : List Char) :
    squeeze (front ++ rest) = front ++ squeeze rest := by
  induction front with
  | nil => rfl
  | cons first front induction =>
    rw [List.cons_append, squeeze_cons (marks first List.mem_cons_self),
      induction fun character inside => marks character (.tail _ inside), List.cons_append]

/-- A text loses the blanks at its end. -/
theorem squeeze_of_allBlank {blanks : List Char} (all : AllBlank blanks) : squeeze blanks = [] := by
  induction blanks with
  | nil => rfl
  | cons first blanks induction =>
    obtain ⟨blank, all⟩ := List.forall_mem_cons.mp all
    have noMark : blanks.head?.any (!isBlank ·) = false := by
      cases blanks with
      | nil => rfl
      | cons second blanks => simp [all second List.mem_cons_self]
    rw [squeeze, if_pos blank, noMark, if_neg Bool.false_ne_true, induction all]

/-! ## Words -/

theorem words_cons_of_blank
    (blank : isBlank character = true)
    (rest : List Char) :
    words (character :: rest) = words rest :=
  (words.eq_def _).trans (if_pos blank)

theorem words_append_left
    {front : List Char}
    (blanks : AllBlank front)
    (rest : List Char) :
    words (front ++ rest) = words rest := by
  induction front with
  | nil => rfl
  | cons first front induction =>
    obtain ⟨blank, blanks⟩ := List.forall_mem_cons.mp blanks
    rw [List.cons_append, words_cons_of_blank blank, induction blanks]

/-- A character before a blank is a word of its own. -/
theorem words_cons_cons_blank
    (mark : isBlank character = false)
    (blank : isBlank next = true)
    (rest : List Char) :
    words (character :: next :: rest) = [character] :: words rest := by
  refine (words.eq_def _).trans ((if_neg (by simp [mark])).trans ?_)
  rw [words_cons_of_blank blank]
  cases words rest with
  | nil => rfl
  | cons first others => exact if_pos blank

/-- A character before another belongs to its word. -/
theorem words_cons_cons_mark
    (mark : isBlank character = false)
    (also : isBlank next = false)
    (rest : List Char) :
    ∃ first others, words (next :: rest) = first :: others ∧
      words (character :: next :: rest) = (character :: first) :: others := by
  have nonempty : words (next :: rest) ≠ [] := by
    rw [words.eq_def]
    dsimp only
    rw [if_neg (by simp [also])]
    split
    · split <;> exact List.cons_ne_nil _ _
    · exact List.cons_ne_nil _ _
  obtain ⟨first, others, cut⟩ := List.exists_cons_of_ne_nil nonempty
  refine ⟨first, others, cut, ?_⟩
  refine (words.eq_def _).trans ((if_neg (by simp [mark])).trans ?_)
  rw [cut]
  exact if_neg (by simp [also])

/-! ## Collapsing from the left -/

theorem collapse_append_left
    {front : List Char}
    (blanks : AllBlank front)
    (rest : List Char) :
    collapse (front ++ rest) = collapse rest := by
  rw [collapse, words_append_left blanks, collapse]

theorem collapse_cons_cons_mark
    (mark : isBlank character = false)
    (also : isBlank next = false)
    (rest : List Char) :
    collapse (character :: next :: rest) = character :: collapse (next :: rest) := by
  obtain ⟨first, others, cut, longer⟩ := words_cons_cons_mark mark also rest
  rw [collapse, collapse, cut, longer]
  cases others <;> rfl

/-- Behind its first character that is no blank, collapsing a text is squeezing it. -/
theorem collapse_cons
    (mark : isBlank character = false)
    (rest : List Char) :
    collapse (character :: rest) = character :: squeeze rest := by
  induction rest generalizing character with
  | nil =>
    have word : words [character] = [[character]] :=
      (words.eq_def _).trans (if_neg (by simp [mark]))
    rw [collapse, word]
    rfl
  | cons next rest induction =>
    cases blank : isBlank next with
    | false => rw [collapse_cons_cons_mark mark blank, induction blank, squeeze_cons blank]
    | true =>
      cases rest with
      | nil =>
        rw [collapse, words_cons_cons_blank mark blank, squeeze, if_pos blank]
        rfl
      | cons second rest =>
        cases again : isBlank second with
        | true =>
          -- Of two blanks the first one makes no difference.
          rw [squeeze_blank_cons_blank blank again, ← induction mark, collapse, collapse,
            words_cons_cons_blank mark blank, words_cons_cons_blank mark again,
            words_cons_of_blank again]
        | false =>
          have word : collapse (second :: rest) = squeeze (second :: rest) := by
            have both := induction mark
            rw [collapse_cons_cons_mark mark again] at both
            exact (List.cons.inj both).2
          obtain ⟨first, others, cut, -⟩ := words_cons_cons_mark mark again rest
          rw [squeeze_blank_cons_mark blank again, ← word, collapse, collapse,
            words_cons_cons_blank mark blank, cut]
          rfl

end SemanticIndex.Text
