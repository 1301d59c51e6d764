import SemanticIndex.Proofs.Json.Numerals
import SemanticIndex.Proofs.Text.Lines

/-!
# Characters of written values

A value is written without control characters, so its text is one line whatever the strings in it
are.  No other character is taken out of a string: the text has the mark that ends a block comment
exactly when a string or a key in the value has it.
-/

namespace SemanticIndex.Json

open Text

/-! ## Strings in a value -/

/-- A text stands in a value, at any depth, as a string or as a key. -/
inductive Mentions : Json → String → Prop where
  | string {text} : Mentions (.string text) text
  | element {elements element text} :
    element ∈ elements → Mentions element text → Mentions (.array elements) text
  | key {fields : Properties} {key value} :
    (key, value) ∈ fields → Mentions (.object fields) key
  | value {fields : Properties} {key value text} :
    (key, value) ∈ fields → Mentions value text → Mentions (.object fields) text

/-- A text in a value has the mark that ends a block comment. -/
def MentionsCommentEnd (value : Json) : Prop :=
  ∃ text, value.Mentions text ∧ EndsComment text.toList

theorem mentions_string_iff {text mentioned : String} :
    (Json.string text).Mentions mentioned ↔ mentioned = text := by
  constructor
  · rintro ⟨⟩
    rfl
  · rintro rfl
    exact .string

theorem mentions_array_iff
    {elements : List Json}
    {text : String} :
    (array elements).Mentions text ↔ ∃ element ∈ elements, element.Mentions text := by
  constructor
  · rintro (_ | ⟨inside, mentions⟩)
    exact ⟨_, inside, mentions⟩
  · rintro ⟨_, inside, mentions⟩
    exact .element inside mentions

theorem mentions_object_iff
    {fields : Properties}
    {text : String} :
    (object fields).Mentions text ↔ ∃ field ∈ fields, text = field.1 ∨ field.2.Mentions text := by
  constructor
  · rintro (_ | _ | inside | ⟨inside, mentions⟩)
    · exact ⟨_, inside, .inl rfl⟩
    · exact ⟨_, inside, .inr mentions⟩
  · rintro ⟨⟨key, value⟩, inside, rfl | mentions⟩
    · exact .key inside
    · exact .value inside mentions

theorem mentionsCommentEnd_string_iff {text : String} :
    (Json.string text).MentionsCommentEnd ↔ EndsComment text.toList := by
  simp [MentionsCommentEnd, mentions_string_iff]

theorem not_mentionsCommentEnd_array_nil : ¬(array []).MentionsCommentEnd := by
  simp [MentionsCommentEnd, mentions_array_iff]

theorem not_mentionsCommentEnd_object_nil : ¬(object []).MentionsCommentEnd := by
  simp [MentionsCommentEnd, mentions_object_iff]

theorem mentionsCommentEnd_array_cons_iff
    {first : Json}
    {rest : List Json} :
    (array (first :: rest)).MentionsCommentEnd ↔
      first.MentionsCommentEnd ∨ (array rest).MentionsCommentEnd := by
  simp only [MentionsCommentEnd, mentions_array_iff, List.mem_cons, or_and_right, exists_or,
    exists_eq_left]

theorem mentionsCommentEnd_object_cons_iff
    {key : String}
    {value : Json}
    {rest : Properties} :
    (object ((key, value) :: rest)).MentionsCommentEnd ↔
      EndsComment key.toList ∨ value.MentionsCommentEnd ∨ (object rest).MentionsCommentEnd := by
  simp only [MentionsCommentEnd, mentions_object_iff, List.mem_cons, or_and_right, exists_or,
    exists_eq_left, or_assoc]

/-! ## Numbers -/

theorem isNumeralCharacter_of_mem_writeDecimal
    {digits : List Char}
    (inside : ∀ digit ∈ digits, digit.isDigit = true)
    {power : Int}
    {character : Char}
    (written : character ∈ writeDecimal digits power) :
    isNumeralCharacter character = true := by
  have digit (known : character ∈ digits) : isNumeralCharacter character = true :=
    isNumeralCharacter_of_isDigit (inside character known)
  have taken {count : Nat} (known : character ∈ digits.take count) :=
    digit (List.mem_of_mem_take known)
  have dropped {count : Nat} (known : character ∈ digits.drop count) :=
    digit (List.mem_of_mem_drop known)
  have zero {count : Nat} (known : character ∈ List.replicate count '0') :
      isNumeralCharacter character = true := by
    rw [List.eq_of_mem_replicate known]
    rfl
  have exponent {number : Nat} (known : character ∈ Nat.toDigits 10 number) :=
    isNumeralCharacter_of_isDigit (isDigit_of_mem_toDigits known)
  unfold writeDecimal at written
  dsimp only at written
  split at written
  · split at written
    · simp only [List.mem_append, List.mem_cons, List.not_mem_nil, or_false] at written
      rcases written with (known | known) | rfl | rfl
      exacts [digit known, zero known, rfl, rfl]
    · split at written
      · simp only [List.mem_append, List.mem_cons] at written
        rcases written with known | rfl | known
        exacts [taken known, rfl, dropped known]
      · simp only [List.mem_append, List.mem_cons, List.not_mem_nil, or_false] at written
        rcases written with ((rfl | rfl) | known) | known
        exacts [rfl, rfl, zero known, digit known]
  · simp only [List.mem_append, List.mem_cons, List.not_mem_nil, or_false] at written
    rcases written with ((known | point) | rfl | rfl) | known
    · exact taken known
    · split at point
      · cases point
      · rcases List.mem_cons.mp point with rfl | known
        exacts [rfl, dropped known]
    · rfl
    · split <;> rfl
    · exact exponent known

theorem isNumeralCharacter_of_mem_writeInteger
    {value : Int}
    {character : Char}
    (written : character ∈ writeInteger value) :
    isNumeralCharacter character = true := by
  rw [writeInteger_eq, List.mem_append] at written
  rcases written with signed | written
  · exact isNumeralCharacter_of_mem_sign signed
  · exact isNumeralCharacter_of_mem_characters (integerLiteral_plain value) written

theorem isNumeralCharacter_of_mem_writeFraction
    {value : Binary64}
    {character : Char}
    (written : character ∈ writeFraction value) :
    isNumeralCharacter character = true := by
  have zeros : ['0', '.', '0'].all isNumeralCharacter = true := rfl
  unfold writeFraction at written
  dsimp only at written
  split at written
  · rcases List.mem_append.mp written with signed | zero
    · exact isNumeralCharacter_of_mem_sign signed
    · exact List.all_eq_true.mp zeros character zero
  · rcases List.mem_append.mp written with signed | written
    · exact isNumeralCharacter_of_mem_sign signed
    · exact isNumeralCharacter_of_mem_writeDecimal (fun _ => isDigit_of_mem_toDigits) written

theorem of_isNumeralCharacter
    {character : Char}
    (numeral : isNumeralCharacter character = true) :
    0x20 ≤ character.toNat ∧ character ≠ '*' := by
  simp only [isNumeralCharacter, Bool.or_eq_true, beq_iff_eq] at numeral
  rcases numeral with ((((digit | rfl) | rfl) | rfl) | rfl) | rfl
  · have code : 48 ≤ character.toNat := (Char.isDigit_iff_toNat.mp digit).1
    refine ⟨by omega, ?_⟩
    rintro rfl
    cases digit
  all_goals decide

theorem not_endsComment_of_numeral
    {characters : List Char}
    (numeral : ∀ character ∈ characters, isNumeralCharacter character = true) :
    ¬EndsComment characters :=
  not_endsComment_of_not_mem fun star => (of_isNumeralCharacter (numeral _ star)).2 rfl

/-! ## Strings -/

theorem le_toNat_of_all
    {characters : List Char}
    (all : characters.all (0x20 ≤ ·.toNat) = true)
    {character : Char}
    (inside : character ∈ characters) :
    0x20 ≤ character.toNat :=
  of_decide_eq_true (List.all_eq_true.mp all character inside)

theorem le_toNat_of_mem_escape
    {character written : Char}
    (inside : written ∈ escape character) :
    0x20 ≤ written.toNat := by
  have digit : ∀ number < 16, 0x20 ≤ (Nat.digitChar number).toNat := by decide
  unfold escape at inside
  split at inside
  iterate 7
    · simp only [List.mem_cons, List.not_mem_nil, or_false] at inside
      rcases inside with rfl | rfl <;> decide
  · split at inside
    · simp only [List.mem_cons, List.not_mem_nil, or_false] at inside
      rcases inside with rfl | rfl | rfl | rfl | rfl | rfl
      iterate 4 decide
      · exact digit _ (by omega)
      · exact digit _ (by omega)
    · rw [List.mem_singleton.mp inside]
      omega

/-- A character is written as it is or behind a backslash; the latter hides no comment mark. -/
theorem escape_eq_or (character : Char) :
    escape character = [character] ∨
      ∃ rest, escape character = '\\' :: rest ∧ '*' ∉ rest ∧ character ≠ '*' ∧ character ≠ '/' := by
  have digit : ∀ number < 16, '*' ≠ Nat.digitChar number := by decide
  unfold escape
  split
  iterate 7
    · exact .inr ⟨_, rfl, by decide⟩
  · split
    · rename_i control
      refine .inr ⟨_, rfl, ?_, ?_, ?_⟩
      · simp [digit _ (show character.toNat / 16 < 16 by omega),
          digit _ (show character.toNat % 16 < 16 by omega)]
      · rintro rfl
        exact absurd control (by decide)
      · rintro rfl
        exact absurd control (by decide)
    · exact .inl rfl

theorem head?_flatMap_escape_iff (characters : List Char) :
    (characters.flatMap escape).head? = some '/' ↔ characters.head? = some '/' := by
  cases characters with
  | nil => rfl
  | cons first rest =>
    rw [List.flatMap_cons]
    rcases escape_eq_or first with plain | ⟨_, escaped, _, _, notSlash⟩
    · simp [plain]
    · simp [escaped, notSlash]

theorem endsComment_flatMap_escape_iff (characters : List Char) :
    EndsComment (characters.flatMap escape) ↔ EndsComment characters := by
  induction characters with
  | nil => rfl
  | cons first rest induction =>
    rw [List.flatMap_cons]
    rcases escape_eq_or first with plain | ⟨more, escaped, noStar, notStar, _⟩
    · rw [plain, List.singleton_append, endsComment_cons_iff, endsComment_cons_iff, induction,
        head?_flatMap_escape_iff]
    · have hidden : '*' ∉ escape first := by simp [escaped, noStar]
      rw [endsComment_append_of_not_mem hidden, endsComment_cons_of_ne notStar, induction]

theorem endsComment_writeString_iff (text : String) :
    EndsComment (writeString text) ↔ EndsComment text.toList := by
  rw [writeString, endsComment_cons_of_ne (by decide), endsComment_append_iff (by decide),
    endsComment_flatMap_escape_iff]
  simp [not_endsComment_of_not_mem]

theorem le_toNat_of_mem_writeString
    {text : String}
    {character : Char}
    (inside : character ∈ writeString text) :
    0x20 ≤ character.toNat := by
  simp only [writeString, List.mem_cons, List.mem_append, List.mem_flatMap, List.not_mem_nil,
    or_false] at inside
  rcases inside with rfl | ⟨_, _, written⟩ | rfl
  · decide
  · exact le_toNat_of_mem_escape written
  · decide

/-! ## Values -/

theorem head?_writeElements_ne_slash (elements : List Json) :
    (writeElements elements).head? ≠ some '/' := by
  cases elements <;> simp [writeElements]

theorem head?_writeFields_ne_slash (fields : Properties) :
    (writeFields fields).head? ≠ some '/' := by
  rcases fields with _ | ⟨⟨_, _⟩, _⟩ <;> simp [writeFields]

mutual

/-- A written value has the mark that ends a block comment exactly if a text in it has one. -/
theorem endsComment_write_iff (value : Json) :
    EndsComment (write value) ↔ value.MentionsCommentEnd := by
  match value with
  | .null | .bool true | .bool false =>
    exact iff_of_false (not_endsComment_of_not_mem (by decide)) (by rintro ⟨_, ⟨⟩, _⟩)
  | .integer number =>
    exact iff_of_false
      (not_endsComment_of_numeral fun _ => isNumeralCharacter_of_mem_writeInteger)
      (by rintro ⟨_, ⟨⟩, _⟩)
  | .fraction number =>
    exact iff_of_false
      (not_endsComment_of_numeral fun _ => isNumeralCharacter_of_mem_writeFraction)
      (by rintro ⟨_, ⟨⟩, _⟩)
  | .string text =>
    rw [write, endsComment_writeString_iff, mentionsCommentEnd_string_iff]
  | .array [] =>
    exact iff_of_false (not_endsComment_of_not_mem (by decide)) not_mentionsCommentEnd_array_nil
  | .array (first :: rest) =>
    -- A bracket or a comma stands behind every part, so that no mark spans two of them.
    rw [write, endsComment_cons_of_ne (by decide),
      endsComment_append_iff (head?_writeElements_ne_slash rest), endsComment_write_iff first,
      endsComment_writeElements_iff rest, mentionsCommentEnd_array_cons_iff]
  | .object [] =>
    exact iff_of_false (not_endsComment_of_not_mem (by decide)) not_mentionsCommentEnd_object_nil
  | .object ((key, first) :: rest) =>
    rw [write, endsComment_cons_of_ne (by decide), endsComment_append_iff (by simp),
      endsComment_writeString_iff, endsComment_cons_of_ne (by decide),
      endsComment_append_iff (head?_writeFields_ne_slash rest), endsComment_write_iff first,
      endsComment_writeFields_iff rest, mentionsCommentEnd_object_cons_iff]

theorem endsComment_writeElements_iff (elements : List Json) :
    EndsComment (writeElements elements) ↔ (array elements).MentionsCommentEnd := by
  match elements with
  | [] =>
    exact iff_of_false (not_endsComment_of_not_mem (by decide)) not_mentionsCommentEnd_array_nil
  | first :: rest =>
    rw [writeElements, endsComment_cons_of_ne (by decide),
      endsComment_append_iff (head?_writeElements_ne_slash rest), endsComment_write_iff first,
      endsComment_writeElements_iff rest, mentionsCommentEnd_array_cons_iff]

theorem endsComment_writeFields_iff (fields : Properties) :
    EndsComment (writeFields fields) ↔ (object fields).MentionsCommentEnd := by
  match fields with
  | [] =>
    exact iff_of_false (not_endsComment_of_not_mem (by decide)) not_mentionsCommentEnd_object_nil
  | (key, first) :: rest =>
    rw [writeFields, endsComment_cons_of_ne (by decide), endsComment_append_iff (by simp),
      endsComment_writeString_iff, endsComment_cons_of_ne (by decide),
      endsComment_append_iff (head?_writeFields_ne_slash rest), endsComment_write_iff first,
      endsComment_writeFields_iff rest, mentionsCommentEnd_object_cons_iff]

end

mutual

/-- The text of a value has no control characters. -/
theorem le_toNat_of_mem_write
    {value : Json}
    {character : Char}
    (written : character ∈ write value) :
    0x20 ≤ character.toNat := by
  match value with
  | .null | .bool true | .bool false | .array [] | .object [] =>
    exact le_toNat_of_all rfl written
  | .integer number =>
    exact (of_isNumeralCharacter (isNumeralCharacter_of_mem_writeInteger written)).1
  | .fraction number =>
    exact (of_isNumeralCharacter (isNumeralCharacter_of_mem_writeFraction written)).1
  | .string text => exact le_toNat_of_mem_writeString written
  | .array (first :: rest) =>
    simp only [write, List.mem_cons, List.mem_append] at written
    rcases written with rfl | element | elements
    · decide
    · exact le_toNat_of_mem_write element
    · exact le_toNat_of_mem_writeElements elements
  | .object ((key, first) :: rest) =>
    simp only [write, List.mem_cons, List.mem_append] at written
    rcases written with rfl | key | rfl | value | fields
    · decide
    · exact le_toNat_of_mem_writeString key
    · decide
    · exact le_toNat_of_mem_write value
    · exact le_toNat_of_mem_writeFields fields

theorem le_toNat_of_mem_writeElements
    {elements : List Json}
    {character : Char}
    (written : character ∈ writeElements elements) :
    0x20 ≤ character.toNat := by
  match elements with
  | [] => exact le_toNat_of_all rfl written
  | first :: rest =>
    simp only [writeElements, List.mem_cons, List.mem_append] at written
    rcases written with rfl | element | elements
    · decide
    · exact le_toNat_of_mem_write element
    · exact le_toNat_of_mem_writeElements elements

theorem le_toNat_of_mem_writeFields
    {fields : Properties}
    {character : Char}
    (written : character ∈ writeFields fields) :
    0x20 ≤ character.toNat := by
  match fields with
  | [] => exact le_toNat_of_all rfl written
  | (key, first) :: rest =>
    simp only [writeFields, List.mem_cons, List.mem_append] at written
    rcases written with rfl | key | rfl | value | fields
    · decide
    · exact le_toNat_of_mem_writeString key
    · decide
    · exact le_toNat_of_mem_write value
    · exact le_toNat_of_mem_writeFields fields

end

/-- The text of a value is one line. -/
theorem break_not_mem_write (value : Json) : '\n' ∉ write value :=
  fun written => absurd (le_toNat_of_mem_write written) (by decide)

end SemanticIndex.Json
