import SemanticIndex.Proofs.Json.Glyphs
import SemanticIndex.Proofs.Json.NumberTexts

/-!
# Texts with blanks anywhere

A grammar of JSON texts in which any blanks may stand between tokens, and also for themselves in
string literals.  Once its blanks are collapsed, every such text is read as the tokens of a form.
-/

namespace SemanticIndex.Json

open Text

/-! ## Values -/

/-- Texts between commas with any blanks around each of them, up to a closing mark. -/
inductive Items (close : Char) : List (List Char) → List Char → Prop where
  | none {blanks} : AllBlank blanks → Items close [] (blanks ++ [close])
  | last {front item back} :
    AllBlank front → AllBlank back → Items close [item] (front ++ (item ++ (back ++ [close])))
  | more {front item back items rest} :
    AllBlank front → AllBlank back → items ≠ [] → Items close items rest →
      Items close (item :: items) (front ++ (item ++ (back ++ ',' :: rest)))

/-- A key and the text of its value, with the blanks around the colon. -/
structure Field where
  key : List Glyph
  front : List Char
  back : List Char
  value : List Char
  front_blank : AllBlank front
  back_blank : AllBlank back

namespace Field

def text (field : Field) : List Char :=
  quoted field.key ++ (field.front ++ ':' :: (field.back ++ field.value))

def name (field : Field) : String :=
  glyphText field.key

end Field

/-- A text of any JSON value; its strings may have units of UTF-16 that are no characters. -/
inductive IsValue : List Char → Prop where
  | null : IsValue ['n', 'u', 'l', 'l']
  | true : IsValue ['t', 'r', 'u', 'e']
  | false : IsValue ['f', 'a', 'l', 's', 'e']
  | number {characters} : IsNumber characters → IsValue characters
  | string {glyphs} : IsValue (quoted glyphs)
  | array {items body} :
    Items ']' items body → (∀ item ∈ items, IsValue item) → IsValue ('[' :: body)
  | object {fields : List Field} {body} :
    Items '}' (fields.map Field.text) body → (∀ field ∈ fields, IsValue field.value) →
      IsValue ('{' :: body)

/-! ## Reading collapsed texts -/

/-- Before a rest, and with blanks collapsed, the characters are read as the tokens. -/
def Scans (characters : List Char) (tokens : List Token) (rest : List Char) : Prop :=
  tokens? (squeeze (characters ++ rest)) = (tokens? (squeeze rest)).map (tokens ++ ·)

theorem Scans.append
    {one other rest : List Char}
    {first second : List Token}
    (scans : Scans one first (other ++ rest))
    (others : Scans other second rest) :
    Scans (one ++ other) (first ++ second) rest := by
  unfold Scans at *
  rw [List.append_assoc, scans, others, Option.map_map]
  congr 1
  funext tokens
  exact (List.append_assoc first second tokens).symm

theorem scans_of_reads
    {characters collapsed rest : List Char}
    {tokens : List Token}
    (squeezed : squeeze (characters ++ rest) = collapsed ++ squeeze rest)
    (reads : Reads collapsed tokens (squeeze rest)) :
    Scans characters tokens rest := by
  unfold Scans
  rw [squeezed]
  exact reads

theorem scans_blanks
    {blanks : List Char}
    (all : AllBlank blanks)
    (rest : List Char) :
    Scans blanks [] rest := by
  have space : ∀ character ∈ [' '], isSpace character = true := by simp [isSpace]
  unfold Scans
  rw [show (([] : List Token) ++ ·) = id from rfl, Option.map_id]
  induction blanks with
  | nil => rfl
  | cons first blanks induction =>
    obtain ⟨blank, all⟩ := List.forall_mem_cons.mp all
    rw [List.cons_append, ← id_eq (tokens? (squeeze rest)), ← induction all, squeeze, if_pos blank]
    split
    · exact (reads_spaces space _).trans Option.map_id'
    · rfl

theorem plain_of_mark?
    {mark : Char}
    {token : Token}
    (known : mark? mark = some token) :
    isBlank mark = false ∧ isNumeralCharacter mark = false ∧ mark.isAlpha = false := by
  unfold mark? at known
  split at known
  all_goals first
    | exact ⟨rfl, rfl, rfl⟩
    | cases known

theorem scans_mark
    {mark : Char}
    {token : Token}
    (known : mark? mark = some token)
    (rest : List Char) :
    Scans [mark] [token] rest :=
  @scans_of_reads [mark] [mark] rest [token] (squeeze_cons (plain_of_mark? known).1 rest)
    (reads_mark known _)

theorem scans_quoted (glyphs : List Glyph) (rest : List Char) :
    Scans (quoted glyphs) [.string ((collapseBlanks glyphs).flatMap Glyph.pieces)] rest :=
  scans_of_reads (squeeze_quoted glyphs rest)
    (reads_quoted (fun _ => settled_of_mem_collapseBlanks) _)

/-! ## Numbers and words -/

theorem not_isBlank_of_isNumeralCharacter
    {character : Char}
    (numeral : isNumeralCharacter character = true) :
    isBlank character = false := by
  simp only [isNumeralCharacter, Bool.or_eq_true, beq_iff_eq] at numeral
  rcases numeral with ((((digit | rfl) | rfl) | rfl) | rfl) | rfl
  · have code : 48 ≤ character.toNat ∧ character.toNat ≤ 57 := Char.isDigit_iff_toNat.mp digit
    simp only [isBlank, Bool.or_eq_false_iff, Bool.and_eq_false_iff, beq_eq_false_iff_ne,
      decide_eq_false_iff_not]
    omega
  all_goals rfl

theorem not_isBlank_of_isAlpha
    {character : Char}
    (letter : character.isAlpha = true) :
    isBlank character = false := by
  have cased : (decide (character.val ≥ 'A'.val ∧ character.val ≤ 'Z'.val) ||
      (decide (character.val ≥ 'a'.val) && decide (character.val ≤ 'z'.val))) = true := letter
  have code : 65 ≤ character.toNat ∧ character.toNat ≤ 90 ∨
      97 ≤ character.toNat ∧ character.toNat ≤ 122 := by
    simpa [UInt32.le_iff_toNat_le] using cased
  simp only [isBlank, Bool.or_eq_false_iff, Bool.and_eq_false_iff, beq_eq_false_iff_ne,
    decide_eq_false_iff_not]
  omega

theorem separated_nil : Separated [] := by
  simp [Separated]

theorem separated_of_isBlank
    {first : Char}
    (blank : isBlank first = true)
    (rest : List Char) :
    Separated (first :: rest) := by
  apply separated_cons
  · cases numeral : isNumeralCharacter first with
    | false => rfl
    | true => exact absurd blank (by simp [not_isBlank_of_isNumeralCharacter numeral])
  · cases letter : first.isAlpha with
    | false => rfl
    | true => exact absurd blank (by simp [not_isBlank_of_isAlpha letter])

theorem separated_blanks_append
    {blanks rest : List Char}
    (all : AllBlank blanks)
    (separated : Separated rest) :
    Separated (blanks ++ rest) := by
  cases blanks with
  | nil => exact separated
  | cons first blanks => exact separated_of_isBlank (all first List.mem_cons_self) _

theorem separated_squeeze
    {rest : List Char}
    (separated : Separated rest) :
    Separated (squeeze rest) := by
  induction rest with
  | nil => exact separated
  | cons first rest induction =>
    cases blank : isBlank first with
    | false =>
      rw [squeeze_cons blank]
      exact separated
    | true =>
      rw [squeeze, if_pos blank]
      split
      · exact separated_cons rfl rfl
      · rename_i stays
        cases rest with
        | nil => exact separated_nil
        | cons next rest =>
          have again : isBlank next = true := by simpa using stays
          exact induction (separated_of_isBlank again rest)

/-- Before anything that goes on with neither a number nor a word, a text is read as a form. -/
def Writes (characters : List Char) (form : Form) : Prop :=
  ∀ rest, Separated rest → Scans characters form.tokens rest

theorem writes_of_reads
    {characters : List Char}
    {form : Form}
    (marks : ∀ character ∈ characters, isBlank character = false)
    (reads : ∀ rest, Separated rest → Reads characters form.tokens rest) :
    Writes characters form :=
  fun rest separated =>
    scans_of_reads (squeeze_append marks rest) (reads _ (separated_squeeze separated))

theorem writes_word
    {word : List Char}
    {form : Form}
    {token : Token}
    (spelled : form.tokens = [token])
    (known : word? word = some token) :
    Writes word form := by
  apply writes_of_reads
  · unfold word? at known
    split at known
    · simp [isBlank]
    · simp [isBlank]
    · simp [isBlank]
    · cases known
  · rw [spelled]
    exact fun rest => reads_word known

theorem writes_number
    {characters : List Char}
    {numeral : Numeral}
    (spells : Spells characters numeral) :
    Writes characters (.number numeral) :=
  writes_of_reads
    (fun character inside => not_isBlank_of_isNumeralCharacter (spells.inside character inside))
    (fun _ => reads_spells spells)

theorem writes_quoted (glyphs : List Glyph) :
    Writes (quoted glyphs) (.string ((collapseBlanks glyphs).flatMap Glyph.pieces)) :=
  fun rest _ => scans_quoted glyphs rest

/-! ## Arrays and objects -/

/-- The tokens of items with commas between them, and a closing token. -/
def itemTokens (close : Token) : List (List Token) → List Token
  | [] => [close]
  | [tokens] => tokens ++ [close]
  | tokens :: rest => tokens ++ .comma :: itemTokens close rest

theorem itemTokens_cons_cons (close : Token) (first second : List Token) (rest : List (List Token)) :
    itemTokens close (first :: second :: rest) =
      first ++ .comma :: itemTokens close (second :: rest) :=
  rfl

theorem scans_items
    {mark : Char}
    {close : Token}
    (known : mark? mark = some close)
    {items : List (List Char)}
    {body : List Char}
    {tokens : List (List Token)}
    (spelled : Items mark items body)
    (scans : List.Forall₂ (fun item tokens => ∀ rest, Separated rest → Scans item tokens rest)
      items tokens)
    (rest : List Char) :
    Scans body (itemTokens close tokens) rest := by
  have closes : Separated (mark :: rest) :=
    separated_cons (plain_of_mark? known).2.1 (plain_of_mark? known).2.2
  have comma {after : List Char} : Separated (',' :: after) := separated_cons rfl rfl
  induction spelled generalizing tokens with
  | none blanks =>
    cases scans
    exact (scans_blanks blanks _).append (scans_mark known rest)
  | last front back =>
    cases scans with
    | cons here none =>
      cases none
      apply (scans_blanks front _).append
      apply (here _ _).append
      · exact (scans_blanks back _).append (scans_mark known rest)
      · rw [List.append_assoc]
        exact separated_blanks_append back closes
  | more front back nonempty _ induction =>
    cases scans with
    | cons here later =>
      cases later with
      | nil => exact absurd rfl nonempty
      | cons next others =>
        rw [itemTokens_cons_cons]
        apply (scans_blanks front _).append
        apply (here _ _).append
        · apply (scans_blanks back _).append
          exact (scans_mark rfl _).append (induction (.cons next others))
        · rw [List.append_assoc]
          exact separated_blanks_append back comma

theorem tokens_array (elements : List Form) :
    (Form.array elements).tokens =
      .openArray :: itemTokens .closeArray (elements.map Form.tokens) := by
  have items (first : Form) (rest : List Form) :
      first.tokens ++ Form.elementTokens rest =
        itemTokens .closeArray ((first :: rest).map Form.tokens) := by
    induction rest generalizing first with
    | nil => rfl
    | cons second rest induction => rw [Form.elementTokens, induction]; rfl
  cases elements with
  | nil => rfl
  | cons first rest => rw [Form.tokens, items]

theorem tokens_object (fields : List (List Piece × Form)) :
    (Form.object fields).tokens =
      .openObject :: itemTokens .closeObject
        (fields.map fun field => .string field.1 :: .colon :: field.2.tokens) := by
  have items (first : List Piece × Form) (rest : List (List Piece × Form)) :
      .string first.1 :: .colon :: (first.2.tokens ++ Form.fieldTokens rest) =
        itemTokens .closeObject
          ((first :: rest).map fun field => .string field.1 :: .colon :: field.2.tokens) := by
    induction rest generalizing first with
    | nil => rfl
    | cons second rest induction => rw [Form.fieldTokens, induction]; rfl
  cases fields with
  | nil => rfl
  | cons first rest => rw [Form.tokens, items]

theorem writes_array
    {items : List (List Char)}
    {body : List Char}
    {forms : List Form}
    (spelled : Items ']' items body)
    (writes : List.Forall₂ Writes items forms) :
    Writes ('[' :: body) (.array forms) := by
  intro rest _
  rw [tokens_array]
  apply (@scans_mark '[' .openArray rfl _).append
  apply scans_items rfl spelled
  rw [List.forall₂_map_right_iff]
  exact writes

/-- The pieces as which a key is read when its blanks are collapsed. -/
def Field.keyPieces (field : Field) : List Piece :=
  (collapseBlanks field.key).flatMap Glyph.pieces

theorem scans_field
    {field : Field}
    {form : Form}
    (writes : Writes field.value form)
    {rest : List Char}
    (separated : Separated rest) :
    Scans field.text (.string field.keyPieces :: .colon :: form.tokens) rest := by
  apply (scans_quoted field.key _).append
  apply (scans_blanks field.front_blank _).append
  apply (@scans_mark ':' .colon rfl _).append
  exact (scans_blanks field.back_blank _).append (writes rest separated)

theorem writes_object
    {fields : List Field}
    {body : List Char}
    {form : Field → Form}
    (spelled : Items '}' (fields.map Field.text) body)
    (writes : ∀ field ∈ fields, Writes field.value (form field)) :
    Writes ('{' :: body) (.object (fields.map fun field => (field.keyPieces, form field))) := by
  intro rest _
  rw [tokens_object, List.map_map]
  apply (@scans_mark '{' .openObject rfl _).append
  apply scans_items rfl spelled
  rw [List.forall₂_map_left_iff, List.forall₂_map_right_iff, List.forall₂_same]
  exact fun field inside _ => scans_field (writes field inside)

/-- Every text of a value is read as some form. -/
theorem IsValue.writes {characters : List Char} (value : IsValue characters) :
    ∃ form, Writes characters form := by
  induction value with
  | null => exact ⟨.null, writes_word rfl rfl⟩
  | true => exact ⟨.bool Bool.true, writes_word rfl rfl⟩
  | false => exact ⟨.bool Bool.false, writes_word rfl rfl⟩
  | number isNumber =>
    obtain ⟨numeral, spells⟩ := isNumber.spells
    exact ⟨_, writes_number spells⟩
  | string => exact ⟨_, writes_quoted _⟩
  | array spelled _ induction =>
    choose! form writes using induction
    apply Exists.intro
    apply writes_array spelled
    rw [List.forall₂_map_right_iff, List.forall₂_same]
    exact writes
  | object spelled _ induction =>
    choose! form writes using induction
    exact ⟨_, writes_object spelled writes⟩

/-- A text with blanks around it is read as its form when its blanks are collapsed. -/
theorem ofText?_collapse
    {front back : List Char}
    {first : Char}
    {rest : List Char}
    {form : Form}
    (leading : AllBlank front)
    (trailing : AllBlank back)
    (mark : isBlank first = false)
    (writes : Writes (first :: rest) form) :
    Form.ofText? none (collapse (front ++ (first :: rest ++ back))) = some form := by
  have separated : Separated back := by
    rw [← List.append_nil back]
    exact separated_blanks_append trailing separated_nil
  have nothing : tokens? [] = some [] := by
    rw [tokens?_eq]
    rfl
  have scans := writes back separated
  unfold Scans at scans
  rw [squeeze_of_allBlank trailing, nothing, Option.map_some, List.append_nil, List.cons_append,
    squeeze_cons mark] at scans
  rw [collapse_append_left leading, List.cons_append, collapse_cons mark, Form.ofText?, scans]
  exact Form.ofTokens?_none_tokens form

end SemanticIndex.Json
