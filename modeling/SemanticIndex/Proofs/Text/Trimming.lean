import Mathlib.Data.List.DropRight
import SemanticIndex.Text.Blank
import SemanticIndex.Text.Cut

/-!
# Cutting and trimming

A text that has a mark is cut at the first one, and in no other way.  Trimming finds the one part
of a text that neither starts nor ends with a blank and has only blanks around it.
-/

namespace SemanticIndex.Text

/-! ## Cutting -/

section Cutting

variable {mark : Char} {characters front back : List Char}

theorem cutAt?_append
    (outside : mark ∉ front)
    (back : List Char) :
    cutAt? mark (front ++ mark :: back) = some (front, back) := by
  have others : ∀ character ∈ front, (character != mark) = true := by
    intro character inside
    exact bne_iff_ne.mpr (ne_of_mem_of_not_mem inside outside)
  simp [cutAt?, List.dropWhile_append_of_pos others, List.takeWhile_append_of_pos others]

theorem cutAt?_eq_none_iff : cutAt? mark characters = none ↔ mark ∉ characters := by
  unfold cutAt?
  constructor
  · split
    · exact fun cut => nomatch cut
    · rename_i nothing
      intro _ inside
      simpa using List.dropWhile_eq_nil_iff.mp nothing mark inside
  · intro absent
    have nothing : characters.dropWhile (· != mark) = [] :=
      List.dropWhile_eq_nil_iff.mpr fun character inside =>
        bne_iff_ne.mpr (ne_of_mem_of_not_mem inside absent)
    rw [nothing]

/-- No text is cut at its first mark in two ways. -/
theorem append_mark_inj
    {otherFront otherBack : List Char}
    (same : front ++ mark :: back = otherFront ++ mark :: otherBack)
    (outside : mark ∉ front)
    (otherOutside : mark ∉ otherFront) :
    front = otherFront ∧ back = otherBack := by
  have cut := cutAt?_append outside back
  rw [same, cutAt?_append otherOutside] at cut
  exact (Prod.mk.inj (Option.some.inj cut)).imp Eq.symm Eq.symm

end Cutting

/-! ## Trimming -/

/-- A text without any other character than blanks. -/
def AllBlank (characters : List Char) : Prop :=
  ∀ character ∈ characters, isBlank character = true

theorem allBlank_nil : AllBlank [] :=
  List.forall_mem_nil _

/-- A text that neither starts nor ends with a blank. -/
structure IsTrimmed (characters : List Char) : Prop where
  first : ∀ first ∈ characters.head?, isBlank first = false
  last : ∀ last ∈ characters.getLast?, isBlank last = false

/-- A text has a core with nothing but blanks around it. -/
def Padded (core characters : List Char) : Prop :=
  ∃ front back, AllBlank front ∧ AllBlank back ∧ characters = front ++ (core ++ back)

variable {core characters : List Char}

theorem Padded.append_left
    (padded : Padded core characters)
    {front : List Char}
    (leading : AllBlank front) :
    Padded core (front ++ characters) := by
  obtain ⟨inner, back, innerBlank, trailing, rfl⟩ := padded
  exact ⟨front ++ inner, back, List.forall_mem_append.mpr ⟨leading, innerBlank⟩, trailing,
    by simp⟩

theorem Padded.append_right
    (padded : Padded core characters)
    {back : List Char}
    (trailing : AllBlank back) :
    Padded core (characters ++ back) := by
  obtain ⟨front, inner, leading, innerBlank, rfl⟩ := padded
  exact ⟨front, inner ++ back, leading, List.forall_mem_append.mpr ⟨innerBlank, trailing⟩,
    by simp⟩

/-- Blanks around a core add no other characters. -/
theorem Padded.count_eq
    (padded : Padded core characters)
    {character : Char}
    (mark : isBlank character = false) :
    characters.count character = core.count character := by
  obtain ⟨front, back, leading, trailing, rfl⟩ := padded
  have absent {blanks : List Char} (all : AllBlank blanks) : blanks.count character = 0 :=
    List.count_eq_zero.mpr fun inside => absurd (all character inside) (by simp [mark])
  rw [List.count_append, List.count_append, absent leading, absent trailing]
  omega

theorem Padded.mem_iff
    (padded : Padded core characters)
    {character : Char}
    (mark : isBlank character = false) :
    character ∈ characters ↔ character ∈ core := by
  rw [← List.count_pos_iff, padded.count_eq mark, List.count_pos_iff]

theorem trim_eq (characters : List Char) :
    trim characters = (characters.dropWhile isBlank).rdropWhile isBlank :=
  rfl

theorem padded_trim (characters : List Char) : Padded (trim characters) characters := by
  have leading : AllBlank (characters.takeWhile isBlank) :=
    fun _ inside => List.mem_takeWhile_imp inside
  have trailing : AllBlank ((characters.dropWhile isBlank).rtakeWhile isBlank) :=
    fun _ inside => List.mem_rtakeWhile_imp inside
  refine ⟨_, _, leading, trailing, ?_⟩
  rw [trim_eq, List.rdropWhile_append_rtakeWhile, List.takeWhile_append_dropWhile]

theorem isTrimmed_trim (characters : List Char) : IsTrimmed (trim characters) where
  first first inside := by
    obtain ⟨dropped, split⟩ := List.rdropWhile_prefix isBlank (characters.dropWhile isBlank)
    rw [trim_eq, Option.mem_def] at inside
    have kept : (characters.dropWhile isBlank).head? = some first := by
      rw [← split, List.head?_append, inside]
      rfl
    have notBlank := List.head?_dropWhile_not isBlank characters
    rw [kept] at notBlank
    simpa using notBlank
  last last inside := by
    obtain ⟨nonempty, rfl⟩ := List.mem_getLast?_eq_getLast inside
    simpa [trim_eq] using List.rdropWhile_last_not isBlank _ nonempty

/-- Only one part of a text is trimmed and has nothing but blanks around it. -/
theorem trim_eq_iff : trim characters = core ↔ IsTrimmed core ∧ Padded core characters := by
  constructor
  · rintro rfl
    exact ⟨isTrimmed_trim characters, padded_trim characters⟩
  · rintro ⟨trimmed, front, back, leading, trailing, rfl⟩
    rw [trim, List.dropWhile_append_of_pos leading]
    cases core with
    | nil => simp [List.dropWhile_eq_nil_iff.mpr trailing]
    | cons first rest =>
      obtain ⟨others, last, split⟩ :=
        (first :: rest).eq_nil_or_concat.resolve_left (List.cons_ne_nil _ _)
      have firstKept : isBlank first = false := trimmed.first first rfl
      have lastKept : isBlank last = false := trimmed.last last (by simp [split])
      have reversed : ∀ character ∈ back.reverse, isBlank character = true :=
        fun character inside => trailing character (List.mem_reverse.mp inside)
      rw [List.cons_append, List.dropWhile_cons_of_neg (by simp [firstKept]), ← List.cons_append,
        List.reverse_append, List.dropWhile_append_of_pos reversed, split]
      simp [lastKept]

theorem trim_append_left
    {front : List Char}
    (leading : AllBlank front)
    (characters : List Char) :
    trim (front ++ characters) = trim characters :=
  trim_eq_iff.mpr ⟨isTrimmed_trim characters, (padded_trim characters).append_left leading⟩

theorem trim_append_right
    {back : List Char}
    (trailing : AllBlank back)
    (characters : List Char) :
    trim (characters ++ back) = trim characters :=
  trim_eq_iff.mpr ⟨isTrimmed_trim characters, (padded_trim characters).append_right trailing⟩

end SemanticIndex.Text
