import SemanticIndex.Text.Blank

/-!
# Lines and block comments

A text is cut into lines at its line breaks, and a block comment is read up to the first mark that
ends it.  Both are told apart by what stands in the text: a text without line breaks is one line,
and a comment ends where it was meant to exactly when its inside does not have the mark.
-/

namespace SemanticIndex.Text

/-! ## Lines -/

/-- The lines of a text, without the line breaks between them. -/
def lines (characters : List Char) : List (List Char) :=
  characters.splitOn '\n'

theorem lines_append_break (front back : List Char) :
    lines (front ++ '\n' :: back) = lines front ++ lines back :=
  List.splitOn_append_cons_self front back

/-- A text that leaves no line open. -/
def EndsLine (characters : List Char) : Prop :=
  characters = [] ∨ ∃ front, characters = front ++ ['\n']

theorem lines_append_of_endsLine
    {front : List Char}
    (ends : EndsLine front)
    (back : List Char) :
    lines (front ++ back) = (lines front).dropLast ++ lines back := by
  rcases ends with rfl | ⟨front, rfl⟩
  · rfl
  · have last : lines [] = [[]] := rfl
    rw [List.append_assoc, List.singleton_append, lines_append_break, lines_append_break, last,
      List.dropLast_concat]

theorem lines_of_not_mem
    {line : List Char}
    (single : '\n' ∉ line) :
    lines line = [line] :=
  List.splitOn_eq_singleton single

/-- A first line is what stands in front of the first break. -/
theorem lines_line_break
    {line : List Char}
    (single : '\n' ∉ line)
    (back : List Char) :
    lines (line ++ '\n' :: back) = line :: lines back := by
  rw [lines_append_break, lines_of_not_mem single, List.singleton_append]

/-- What stands in front of a text without a line break belongs to its first line. -/
theorem lines_append_of_not_mem
    {front : List Char}
    (single : '\n' ∉ front)
    (back : List Char) :
    ∃ first rest, lines back = first :: rest ∧ lines (front ++ back) = (front ++ first) :: rest := by
  obtain ⟨first, rest, split⟩ := List.exists_cons_of_ne_nil (List.splitOn_ne_nil '\n' back)
  refine ⟨first, rest, split, ?_⟩
  induction front with
  | nil => exact split
  | cons next front induction =>
    rw [List.mem_cons, not_or] at single
    have joined := induction single.2
    unfold lines at joined ⊢
    rw [List.cons_append, List.splitOn_cons_eq_if_modifyHead, joined]
    simp [Ne.symm single.1]

/-! ## Block comments -/

/-- A text has the mark that ends a block comment. -/
def EndsComment (characters : List Char) : Prop :=
  ['*', '/'] <:+: characters

/-- The inside of a block comment, read from behind the mark that opens it. -/
def commentInside? : List Char → Option (List Char)
  | [] => none
  | [_] => none
  | first :: second :: rest =>
    if first = '*' ∧ second = '/' then some []
    else (commentInside? (second :: rest)).map (first :: ·)

/-- The inside of the block comment that a text starts with, behind blanks. -/
def leadingComment? (characters : List Char) : Option (List Char) :=
  match characters.dropWhile isBlank with
  | '/' :: '*' :: rest => commentInside? rest
  | _ => none

theorem endsComment_cons_iff
    {first : Char}
    {rest : List Char} :
    EndsComment (first :: rest) ↔
      (first = '*' ∧ rest.head? = some '/') ∨ EndsComment rest := by
  unfold EndsComment
  rw [List.infix_cons_iff, List.cons_prefix_cons, eq_comm (a := '*')]
  cases rest with
  | nil => simp
  | cons second rest => simp [eq_comm (a := '/')]

theorem not_endsComment_nil : ¬EndsComment [] := by
  simp [EndsComment]

theorem not_endsComment_of_not_mem
    {characters : List Char}
    (noStar : '*' ∉ characters) :
    ¬EndsComment characters :=
  fun ends => noStar (ends.subset List.mem_cons_self)

theorem endsComment_cons_of_ne
    {first : Char}
    (notStar : first ≠ '*')
    (rest : List Char) :
    EndsComment (first :: rest) ↔ EndsComment rest := by
  simp [endsComment_cons_iff, notStar]

theorem endsComment_append_of_not_mem
    {front : List Char}
    (noStar : '*' ∉ front)
    (back : List Char) :
    EndsComment (front ++ back) ↔ EndsComment back := by
  induction front with
  | nil => rfl
  | cons first front induction =>
    rw [List.mem_cons, not_or] at noStar
    rw [List.cons_append, endsComment_cons_of_ne (Ne.symm noStar.1), induction noStar.2]

/-- A mark does not stand across two parts when the second one does not start in its middle. -/
theorem endsComment_append_iff
    {one other : List Char}
    (apart : other.head? ≠ some '/') :
    EndsComment (one ++ other) ↔ EndsComment one ∨ EndsComment other := by
  induction one with
  | nil => simp [not_endsComment_nil]
  | cons first rest induction =>
    rw [List.cons_append, endsComment_cons_iff, endsComment_cons_iff, induction, or_assoc]
    cases rest with
    | nil => simp [apart]
    | cons second rest => simp

/-- A comment ends at its own mark exactly when its inside has none. -/
theorem commentInside?_append_iff
    {inside rest : List Char} :
    commentInside? (inside ++ '*' :: '/' :: rest) = some inside ↔ ¬EndsComment inside := by
  induction inside with
  | nil => simp [commentInside?, not_endsComment_nil]
  | cons first inside induction =>
    rw [endsComment_cons_iff]
    cases inside with
    | nil => simp [commentInside?, not_endsComment_nil]
    | cons second inside =>
      rw [List.cons_append, List.cons_append, commentInside?]
      by_cases mark : first = '*' ∧ second = '/'
      · simp [mark]
      · rw [if_neg mark, ← List.cons_append, Option.map_eq_some_iff]
        simp [← induction, mark]

end SemanticIndex.Text
