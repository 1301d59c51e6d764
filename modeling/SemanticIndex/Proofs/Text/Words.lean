import SemanticIndex.Proofs.Text.Collapsing

/-!
# Words and the blanks between them

A text is made of words with blanks around them, in one way only.  Its words are therefore known
from any such reading of it, and do not depend on how many blanks stand where, or which ones.
-/

namespace SemanticIndex.Text

/-- A word has characters, and none of them is a blank. -/
structure IsWord (word : List Char) : Prop where
  nonempty : word ≠ []
  noBlank : ∀ character ∈ word, isBlank character = false

/-- Words with blanks around them, at least one between any two, make up a text. -/
inductive Spaced : List (List Char) → List Char → Prop where
  | none
      {blanks : List Char}
      (all : AllBlank blanks) :
      Spaced [] blanks
  | word
      {front word rest : List Char}
      {words : List (List Char)}
      (leading : AllBlank front)
      (isWord : IsWord word)
      (apart : ∀ next ∈ rest.head?, isBlank next = true)
      (others : Spaced words rest) :
      Spaced (word :: words) (front ++ (word ++ rest))

variable {character next : Char} {word rest characters : List Char} {words : List (List Char)}

/-! ## Reading words -/

theorem words_append_of_isWord
    (isWord : IsWord word)
    (apart : ∀ next ∈ rest.head?, isBlank next = true) :
    Text.words (word ++ rest) = word :: Text.words rest := by
  obtain ⟨nonempty, noBlank⟩ := isWord
  induction word with
  | nil => exact (nonempty rfl).elim
  | cons first word induction =>
    obtain ⟨mark, noBlank⟩ := List.forall_mem_cons.mp noBlank
    cases word with
    | nil =>
      cases rest with
      | nil => exact (Text.words.eq_def _).trans (if_neg (by simp [mark]))
      | cons next rest =>
        have blank : isBlank next = true := apart next rfl
        rw [List.cons_append, List.nil_append, words_cons_cons_blank mark blank,
          words_cons_of_blank blank]
    | cons second word =>
      have also : isBlank second = false := noBlank second List.mem_cons_self
      obtain ⟨found, others, cut, longer⟩ := words_cons_cons_mark mark also (word ++ rest)
      have shorter := induction (List.cons_ne_nil _ _) noBlank
      rw [List.cons_append, cut] at shorter
      rw [List.cons_append, List.cons_append, longer]
      rw [(List.cons.inj shorter).1, (List.cons.inj shorter).2]

theorem Spaced.words_eq (spaced : Spaced words characters) : Text.words characters = words := by
  induction spaced with
  | @none blanks all =>
    rw [← List.append_nil blanks, words_append_left all]
    rfl
  | word leading isWord apart others induction =>
    rw [words_append_left leading, words_append_of_isWord isWord apart, induction]

/-! ## Texts as words -/

theorem Spaced.cons_blank
    (blank : isBlank character = true)
    (spaced : Spaced words characters) :
    Spaced words (character :: characters) := by
  cases spaced with
  | none all => exact .none (List.forall_mem_cons.mpr ⟨blank, all⟩)
  | word leading isWord apart others =>
    exact .word (List.forall_mem_cons.mpr ⟨blank, leading⟩) isWord apart others

/-- A character in front of a word belongs to the word. -/
theorem Spaced.cons_mark
    (mark : isBlank character = false)
    (also : isBlank next = false)
    (spaced : Spaced (word :: words) (next :: rest)) :
    Spaced ((character :: word) :: words) (character :: next :: rest) := by
  generalize same : next :: rest = text at spaced
  cases spaced with
  | @word front _ back _ leading isWord apart others =>
    cases front with
    | nil =>
      have longer : IsWord (character :: word) :=
        ⟨List.cons_ne_nil _ _, List.forall_mem_cons.mpr ⟨mark, isWord.noBlank⟩⟩
      exact .word allBlank_nil longer apart others
    | cons first front =>
      obtain ⟨rfl, -⟩ := List.cons.inj same
      exact absurd (leading next List.mem_cons_self) (by simp [also])

theorem spaced_words (characters : List Char) : Spaced (Text.words characters) characters := by
  induction characters with
  | nil => exact .none allBlank_nil
  | cons character rest induction =>
    cases blank : isBlank character with
    | true =>
      rw [words_cons_of_blank blank]
      exact induction.cons_blank blank
    | false =>
      have alone : IsWord [character] :=
        ⟨List.cons_ne_nil _ _, List.forall_mem_singleton.mpr blank⟩
      cases rest with
      | nil =>
        have word : Text.words ([character] ++ []) = [[character]] :=
          words_append_of_isWord alone nofun
        rw [List.append_nil] at word
        rw [word]
        exact .word allBlank_nil alone nofun induction
      | cons next rest =>
        cases blankNext : isBlank next with
        | true =>
          rw [words_cons_cons_blank blank blankNext, ← words_cons_of_blank blankNext]
          exact .word allBlank_nil alone (by simp [blankNext]) induction
        | false =>
          obtain ⟨first, others, cut, longer⟩ := words_cons_cons_mark blank blankNext rest
          rw [cut] at induction
          rw [longer]
          exact induction.cons_mark blank blankNext

/-- A text is made of its words with blanks around them, and of no other words. -/
theorem words_eq_iff_spaced : Text.words characters = words ↔ Spaced words characters := by
  constructor
  · rintro rfl
    exact spaced_words characters
  · exact Spaced.words_eq

end SemanticIndex.Text
