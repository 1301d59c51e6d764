import SemanticIndex.Proofs.Json.RoundTrip
import SemanticIndex.Proofs.Text.Collapsing

/-!
# Strings as they are written

A string literal is written glyph by glyph: characters stand for themselves or are spelled by an
escape.  When blanks are collapsed, every maximal run of blanks that stand for themselves becomes
one space, and escapes stay as they are; the quotes keep the text around a literal apart from it.
-/

namespace SemanticIndex.Json

open Text

/-! ## Glyphs -/

/-- The unit of UTF-16 that four hexadecimal digits spell. -/
def unit? (first second third fourth : Char) : Option Nat := do
  some (4096 * (← hexDigit? first) + 256 * (← hexDigit? second) + 16 * (← hexDigit? third) +
    (← hexDigit? fourth))

/-- Four hexadecimal digits and the unit of UTF-16 that they spell. -/
structure HexUnit where
  first : Char
  second : Char
  third : Char
  fourth : Char
  value : Nat
  spelled : unit? first second third fourth = some value

/-- A character that may stand for itself in a string literal, where blanks may be controls. -/
structure StandsRaw (character : Char) : Prop where
  notQuote : character ≠ '"'
  notBackslash : character ≠ '\\'
  notControl : 0x20 ≤ character.toNat ∨ isBlank character = true

instance (character : Char) : Decidable (StandsRaw character) :=
  decidable_of_iff (character ≠ '"' ∧ character ≠ '\\' ∧
      (0x20 ≤ character.toNat ∨ isBlank character = true))
    ⟨fun ⟨notQuote, notBackslash, notControl⟩ => ⟨notQuote, notBackslash, notControl⟩,
      fun legal => ⟨legal.notQuote, legal.notBackslash, legal.notControl⟩⟩

/-- A character of a string literal as it is written. -/
inductive Glyph where
  /-- A character that stands for itself. -/
  | raw (character : Char) (legal : StandsRaw character)
  /-- A backslash with the mark of a character. -/
  | short (mark character : Char) (known : escaped? mark = some character)
  /-- A unit of UTF-16 that is a character. -/
  | unit (code : HexUnit) (single : ¬(0xD800 ≤ code.value ∧ code.value ≤ 0xDFFF))
  /-- Two units of UTF-16 that are a character together. -/
  | pair (high low : HexUnit)
    (leads : 0xD800 ≤ high.value ∧ high.value ≤ 0xDBFF)
    (trails : 0xDC00 ≤ low.value ∧ low.value ≤ 0xDFFF)
  /-- A unit of UTF-16 for which no character is meant. -/
  | lone (code : HexUnit)

def HexUnit.spelling (code : HexUnit) : List Char :=
  ['\\', 'u', code.first, code.second, code.third, code.fourth]

namespace Glyph

def spelling : Glyph → List Char
  | raw character _ => [character]
  | short mark _ _ => ['\\', mark]
  | unit code _ => code.spelling
  | pair high low _ _ => high.spelling ++ low.spelling
  | lone code => code.spelling

/-- The character that a glyph stands for. -/
def character? : Glyph → Option Char
  | raw character _ => some character
  | short _ character _ => some character
  | unit code _ => some (Char.ofNat code.value)
  | pair high low _ _ =>
    some (Char.ofNat (0x10000 + 0x400 * (high.value - 0xD800) + (low.value - 0xDC00)))
  | lone _ => none

/-- The pieces as which a glyph is read. -/
def pieces : Glyph → List Piece
  | raw character _ => [.character character]
  | short _ character _ => [.character character]
  | unit code _ => [.unit code.value]
  | pair high low _ _ => [.unit high.value, .unit low.value]
  | lone code => [.unit code.value]

/-- Decide whether a glyph is a blank that stands for itself. -/
def isBlank : Glyph → Bool
  | raw character _ => Text.isBlank character
  | _ => false

/-- A space that stands for itself. -/
def space : Glyph :=
  raw ' ' ⟨by decide, by decide, .inr rfl⟩

end Glyph

/-- A string literal with its quotes. -/
def quoted (glyphs : List Glyph) : List Char :=
  '"' :: (glyphs.flatMap Glyph.spelling ++ ['"'])

/-- Write one space for every maximal run of blanks that stand for themselves. -/
def collapseBlanks : List Glyph → List Glyph
  | [] => []
  | glyph :: rest =>
    if glyph.isBlank then
      -- The last blank of a run is written as the space.
      if rest.head?.any Glyph.isBlank then collapseBlanks rest else .space :: collapseBlanks rest
    else glyph :: collapseBlanks rest

/-- What collapsing leaves of the glyphs is a space or no blank. -/
theorem mem_of_mem_collapseBlanks
    {glyphs : List Glyph}
    {glyph : Glyph}
    (inside : glyph ∈ collapseBlanks glyphs) :
    glyph = .space ∨ glyph ∈ glyphs ∧ glyph.isBlank = false := by
  induction glyphs with
  | nil => cases inside
  | cons first glyphs induction =>
    have later (inside : glyph ∈ collapseBlanks glyphs) :
        glyph = .space ∨ glyph ∈ first :: glyphs ∧ glyph.isBlank = false :=
      (induction inside).imp_right (And.imp_left (List.mem_cons_of_mem first))
    unfold collapseBlanks at inside
    split at inside
    · split at inside
      · exact later inside
      · exact (List.mem_cons.mp inside).elim Or.inl later
    · rename_i mark
      rcases List.mem_cons.mp inside with rfl | inside
      · exact Or.inr ⟨List.mem_cons_self, by simpa using mark⟩
      · exact later inside

/-! ## Literals of texts -/

/-- The characters that glyphs stand for, in a row. -/
def glyphText (glyphs : List Glyph) : String :=
  String.ofList (glyphs.filterMap Glyph.character?)

/-- The glyphs of a string literal in which every glyph stands for a character. -/
structure StringLiteral where
  glyphs : List Glyph
  whole : ∀ glyph ∈ glyphs, glyph.character? ≠ none

namespace StringLiteral

def text (literal : StringLiteral) : String :=
  glyphText literal.glyphs

/-- A literal with its blanks collapsed. -/
def collapsed (literal : StringLiteral) : StringLiteral where
  glyphs := collapseBlanks literal.glyphs
  whole := by
    intro glyph inside
    rcases mem_of_mem_collapseBlanks inside with rfl | ⟨inside, _⟩
    · exact Option.some_ne_none _
    · exact literal.whole glyph inside

end StringLiteral

/-! ## The text of glyphs -/

theorem pieceText?_single
    {value : Nat}
    (single : ¬(0xD800 ≤ value ∧ value ≤ 0xDFFF))
    (rest : List Piece) :
    pieceText? (.unit value :: rest) = (pieceText? rest).map (Char.ofNat value :: ·) := by
  have alone : (decide (0xD800 ≤ value) && decide (value ≤ 0xDFFF)) = false := by
    simpa using single
  have notHigh : ¬(0xD800 ≤ value ∧ value ≤ 0xDBFF) := by omega
  have notLow : ¬(0xDC00 ≤ value ∧ value ≤ 0xDFFF) := by omega
  rcases rest with _ | ⟨_ | low, rest⟩
  · simp [pieceText?, alone]
  · simp [pieceText?, alone]
  · rw [pieceText?, if_neg (by simpa using notHigh), if_neg (by simpa using notLow)]

theorem pieceText?_pieces_append
    {glyph : Glyph}
    {character : Char}
    (stands : glyph.character? = some character)
    (rest : List Piece) :
    pieceText? (glyph.pieces ++ rest) = (pieceText? rest).map (character :: ·) := by
  cases glyph with
  | lone _ => cases stands
  | raw own _ =>
    obtain rfl := Option.some.inj stands
    rfl
  | short _ own _ =>
    obtain rfl := Option.some.inj stands
    rfl
  | unit code single =>
    obtain rfl := Option.some.inj stands
    exact pieceText?_single single rest
  | pair high low leads trails =>
    obtain rfl := Option.some.inj stands
    show pieceText? (.unit high.value :: .unit low.value :: rest) = _
    rw [pieceText?, if_pos (by simpa using leads), if_pos (by simpa using trails)]

/-- The pieces of a literal are read as its text. -/
theorem StringLiteral.stringOf?_pieces (literal : StringLiteral) :
    stringOf? (literal.glyphs.flatMap Glyph.pieces) = some literal.text := by
  obtain ⟨glyphs, whole⟩ := literal
  have text : pieceText? (glyphs.flatMap Glyph.pieces) =
      some (glyphs.filterMap Glyph.character?) := by
    induction glyphs with
    | nil => rfl
    | cons first glyphs induction =>
      obtain ⟨stands, whole⟩ := List.forall_mem_cons.mp whole
      obtain ⟨character, stands⟩ := Option.ne_none_iff_exists'.mp stands
      rw [List.flatMap_cons, pieceText?_pieces_append stands, induction whole,
        List.filterMap_cons_some stands]
      rfl
  rw [stringOf?, text]
  rfl

/-! ## Reading glyphs -/

/-- A glyph that a literal may have as it is: no control stands for itself. -/
def Glyph.Settled : Glyph → Prop
  | raw character _ => 0x20 ≤ character.toNat
  | _ => True

theorem readPieces?_hexUnit (code : HexUnit) (rest : List Char) :
    readPieces? (code.spelling ++ rest) =
      (readPieces? rest).map fun read => (.unit code.value :: read.1, read.2) := by
  have spelled := code.spelled
  simp only [unit?, Option.bind_eq_bind, Option.bind_eq_some_iff] at spelled
  obtain ⟨first, readFirst, second, readSecond, third, readThird, fourth, readFourth, value⟩ :=
    spelled
  simp only [HexUnit.spelling, List.cons_append, List.nil_append, readPieces?, readFirst,
    readSecond, readThird, readFourth, Option.bind_eq_bind, Option.bind_some]
  rw [← Option.some.inj value, Option.map_eq_bind]
  rfl

theorem readPieces?_glyph
    {glyph : Glyph}
    (settled : glyph.Settled)
    (rest : List Char) :
    readPieces? (glyph.spelling ++ rest) =
      (readPieces? rest).map fun read => (glyph.pieces ++ read.1, read.2) := by
  cases glyph with
  | raw character legal => exact readPieces?_raw legal.notQuote legal.notBackslash settled rest
  | short mark character known =>
    have notUnit : mark ≠ 'u' := by
      rintro rfl
      cases known
    exact readPieces?_mark known notUnit rest
  | unit code _ => exact readPieces?_hexUnit code rest
  | lone code => exact readPieces?_hexUnit code rest
  | pair high low _ _ =>
    rw [Glyph.spelling, List.append_assoc, readPieces?_hexUnit, readPieces?_hexUnit,
      Option.map_map]
    rfl

theorem reads_quoted
    {glyphs : List Glyph}
    (settled : ∀ glyph ∈ glyphs, glyph.Settled)
    (rest : List Char) :
    Reads (quoted glyphs) [.string (glyphs.flatMap Glyph.pieces)] rest := by
  have inside : readPieces? (glyphs.flatMap Glyph.spelling ++ '"' :: rest) =
      some (glyphs.flatMap Glyph.pieces, rest) := by
    induction glyphs with
    | nil => rfl
    | cons first glyphs induction =>
      obtain ⟨here, settled⟩ := List.forall_mem_cons.mp settled
      rw [List.flatMap_cons, List.append_assoc, readPieces?_glyph here, induction settled]
      rfl
  apply reads_token rfl
  rw [List.append_assoc]
  simp [token?, inside]

/-! ## Collapsing blanks in glyphs -/

theorem settled_of_mem_collapseBlanks
    {glyphs : List Glyph}
    {glyph : Glyph}
    (inside : glyph ∈ collapseBlanks glyphs) :
    glyph.Settled := by
  rcases mem_of_mem_collapseBlanks inside with rfl | ⟨_, mark⟩
  · show 0x20 ≤ ' '.toNat
    decide
  · cases glyph with
    | raw character legal =>
      exact legal.notControl.resolve_right (by simpa [Glyph.isBlank] using mark)
    | _ => trivial

theorem not_isBlank_of_hexDigit?
    {digit : Char}
    {value : Nat}
    (known : hexDigit? digit = some value) :
    isBlank digit = false := by
  simp only [hexDigit?, Bool.and_eq_true, decide_eq_true_eq] at known
  simp only [isBlank, Bool.or_eq_false_iff, Bool.and_eq_false_iff, beq_eq_false_iff_ne,
    decide_eq_false_iff_not]
  split at known
  · omega
  · split at known
    · omega
    · split at known
      · omega
      · cases known

theorem not_isBlank_of_mem_hexUnit
    {code : HexUnit}
    {character : Char}
    (inside : character ∈ code.spelling) :
    isBlank character = false := by
  have spelled := code.spelled
  simp only [unit?, Option.bind_eq_bind, Option.bind_eq_some_iff] at spelled
  obtain ⟨_, first, _, second, _, third, _, fourth, _⟩ := spelled
  simp only [HexUnit.spelling, List.mem_cons, List.not_mem_nil, or_false] at inside
  rcases inside with rfl | rfl | rfl | rfl | rfl | rfl
  · rfl
  · rfl
  · exact not_isBlank_of_hexDigit? first
  · exact not_isBlank_of_hexDigit? second
  · exact not_isBlank_of_hexDigit? third
  · exact not_isBlank_of_hexDigit? fourth

/-- Only a glyph that is a blank itself is spelled with a blank. -/
theorem not_isBlank_of_mem_spelling
    {glyph : Glyph}
    (mark : glyph.isBlank = false)
    {character : Char}
    (inside : character ∈ glyph.spelling) :
    isBlank character = false := by
  cases glyph with
  | raw own _ =>
    rw [List.mem_singleton.mp inside]
    exact mark
  | short own _ known =>
    simp only [Glyph.spelling, List.mem_cons, List.not_mem_nil, or_false] at inside
    rcases inside with rfl | rfl
    · rfl
    · unfold escaped? at known
      split at known
      all_goals first
        | rfl
        | cases known
  | unit code _ => exact not_isBlank_of_mem_hexUnit inside
  | lone code => exact not_isBlank_of_mem_hexUnit inside
  | pair high low _ _ =>
    exact (List.mem_append.mp inside).elim not_isBlank_of_mem_hexUnit not_isBlank_of_mem_hexUnit

theorem exists_spelling_cons (glyph : Glyph) : ∃ first rest, glyph.spelling = first :: rest := by
  cases glyph <;> exact ⟨_, _, rfl⟩

/-- A literal whose next glyph is no blank goes on with a character that is no blank. -/
theorem exists_literal_cons
    {glyphs : List Glyph}
    (mark : glyphs.head?.any Glyph.isBlank = false)
    (rest : List Char) :
    ∃ first tail, glyphs.flatMap Glyph.spelling ++ '"' :: rest = first :: tail ∧
      isBlank first = false := by
  cases glyphs with
  | nil => exact ⟨'"', rest, rfl, rfl⟩
  | cons glyph glyphs =>
    obtain ⟨first, tail, spelled⟩ := exists_spelling_cons glyph
    refine ⟨first, _, by rw [List.flatMap_cons, spelled]; rfl, ?_⟩
    exact not_isBlank_of_mem_spelling (by simpa using mark) (spelled ▸ List.mem_cons_self)

theorem squeeze_literal (glyphs : List Glyph) (rest : List Char) :
    squeeze (glyphs.flatMap Glyph.spelling ++ '"' :: rest) =
      (collapseBlanks glyphs).flatMap Glyph.spelling ++ '"' :: squeeze rest := by
  induction glyphs with
  | nil => exact squeeze_cons rfl rest
  | cons glyph glyphs induction =>
    rw [List.flatMap_cons, List.append_assoc]
    cases blank : glyph.isBlank with
    | false =>
      rw [squeeze_append fun _ => not_isBlank_of_mem_spelling blank, induction, collapseBlanks,
        blank, if_neg Bool.false_ne_true, List.flatMap_cons, List.append_assoc]
    | true =>
      obtain ⟨character, legal, rfl⟩ : ∃ character legal, glyph = .raw character legal := by
        cases glyph with
        | raw character legal => exact ⟨character, legal, rfl⟩
        | _ => cases blank
      rw [collapseBlanks, if_pos blank]
      show squeeze (character :: _) = _
      cases more : glyphs.head?.any Glyph.isBlank with
      | true =>
        obtain ⟨second, _, rfl⟩ : ∃ second others, glyphs = second :: others := by
          cases glyphs with
          | nil => cases more
          | cons second others => exact ⟨second, others, rfl⟩
        cases second with
        | raw next _ =>
          rw [if_pos rfl, ← induction]
          exact squeeze_blank_cons_blank blank more _
        | _ => cases more
      | false =>
        obtain ⟨first, tail, spelled, mark⟩ := exists_literal_cons more rest
        rw [if_neg Bool.false_ne_true, List.flatMap_cons, List.append_assoc, ← induction, spelled]
        exact squeeze_blank_cons_mark blank mark tail

/-- Nothing outside of a literal has a part in the collapsing of its blanks. -/
theorem squeeze_quoted (glyphs : List Glyph) (rest : List Char) :
    squeeze (quoted glyphs ++ rest) = quoted (collapseBlanks glyphs) ++ squeeze rest := by
  simp only [quoted, List.cons_append, List.append_assoc, List.nil_append]
  rw [squeeze_cons rfl, squeeze_literal]

/-! ## Texts without blanks -/

theorem collapseBlanks_eq_self
    {glyphs : List Glyph}
    (marks : ∀ glyph ∈ glyphs, glyph.isBlank = false) :
    collapseBlanks glyphs = glyphs := by
  induction glyphs with
  | nil => rfl
  | cons first glyphs induction =>
    obtain ⟨mark, marks⟩ := List.forall_mem_cons.mp marks
    rw [collapseBlanks, mark, if_neg Bool.false_ne_true, induction marks]

theorem space_mem_collapseBlanks
    {glyphs : List Glyph}
    (blank : glyphs.any Glyph.isBlank = true) :
    Glyph.space ∈ collapseBlanks glyphs := by
  induction glyphs with
  | nil => cases blank
  | cons first glyphs induction =>
    unfold collapseBlanks
    split
    · split
      · rename_i more
        cases glyphs with
        | nil => cases more
        | cons second others => exact induction (by simp [show second.isBlank = true from more])
      · exact List.mem_cons_self
    · rename_i mark
      have later : glyphs.any Glyph.isBlank = true := by simpa [mark] using blank
      exact List.mem_cons_of_mem _ (induction later)

/-- Collapsing the blanks of a literal neither makes nor hides a name without blanks. -/
theorem StringLiteral.text_collapsed_eq_iff
    {literal : StringLiteral}
    {name : String}
    (marks : ∀ character ∈ name.toList, isBlank character = false) :
    literal.collapsed.text = name ↔ literal.text = name := by
  have differ {other : StringLiteral} {glyph : Glyph} {character : Char}
      (inside : glyph ∈ other.glyphs)
      (stands : glyph.character? = some character)
      (blank : isBlank character = true) :
      other.text ≠ name := by
    rintro rfl
    have mark := marks character (by
      rw [StringLiteral.text, glyphText, String.toList_ofList]
      exact List.mem_filterMap.mpr ⟨glyph, inside, stands⟩)
    rw [blank] at mark
    cases mark
  cases blank : literal.glyphs.any Glyph.isBlank with
  | false =>
    have same : literal.collapsed.glyphs = literal.glyphs :=
      collapseBlanks_eq_self (by simpa using blank)
    rw [StringLiteral.text, StringLiteral.text, same]
  | true =>
    obtain ⟨glyph, inside, isBlank⟩ := List.any_eq_true.mp blank
    have changed : literal.collapsed.text ≠ name :=
      differ (space_mem_collapseBlanks blank) rfl rfl
    cases glyph with
    | raw character _ => exact iff_of_false changed (differ inside rfl isBlank)
    | _ => cases isBlank

theorem StringLiteral.text_collapsed_of_empty
    {literal : StringLiteral}
    (empty : literal.text = "") :
    "" = literal.collapsed.text :=
  ((literal.text_collapsed_eq_iff (by simp)).mpr empty).symm

/-! ## A literal for every text -/

def HexUnit.ofNat (value : Nat) (small : value < 0x10000) : HexUnit where
  first := Nat.digitChar (value / 4096)
  second := Nat.digitChar (value / 256 % 16)
  third := Nat.digitChar (value / 16 % 16)
  fourth := Nat.digitChar (value % 16)
  value := value
  spelled := by
    have first : value / 4096 < 16 := by omega
    have digit (number : Nat) : number % 16 < 16 := Nat.mod_lt number (by decide)
    simp only [unit?, hexDigit?_digitChar first, hexDigit?_digitChar (digit _),
      Option.bind_eq_bind, Option.bind_some, Option.some.injEq]
    omega

/-- Decide whether a character may stand for itself and is no blank. -/
def isOrdinary (character : Char) : Bool :=
  !isBlank character && character != '"' && character != '\\' && decide (0x20 ≤ character.toNat)

theorem isOrdinary_iff {character : Char} :
    isOrdinary character = true ↔ StandsRaw character ∧ isBlank character = false := by
  simp only [isOrdinary, Bool.and_eq_true, Bool.not_eq_true', bne_iff_ne, ne_eq,
    decide_eq_true_eq]
  constructor
  · rintro ⟨⟨⟨mark, notQuote⟩, notBackslash⟩, notControl⟩
    exact ⟨⟨notQuote, notBackslash, .inl notControl⟩, mark⟩
  · rintro ⟨legal, mark⟩
    exact ⟨⟨⟨mark, legal.notQuote⟩, legal.notBackslash⟩,
      legal.notControl.resolve_right (by simp [mark])⟩

theorem small_of_not_isOrdinary
    {character : Char}
    (special : ¬isOrdinary character = true) :
    character.toNat < 0x10000 := by
  by_cases quote : character = '"'
  · subst quote
    decide
  by_cases backslash : character = '\\'
  · subst backslash
    decide
  simp only [isOrdinary, isBlank, quote, backslash, Bool.and_eq_true, Bool.not_eq_true',
    Bool.or_eq_false_iff, Bool.and_eq_false_iff, beq_eq_false_iff_ne, decide_eq_false_iff_not,
    decide_eq_true_eq, bne_iff_ne, ne_eq, not_false_eq_true, and_true] at special
  omega

theorem not_surrogate (character : Char) :
    ¬(0xD800 ≤ character.toNat ∧ character.toNat ≤ 0xDFFF) := by
  have valid : character.toNat < 0xD800 ∨ 0xDFFF < character.toNat ∧ character.toNat < 0x110000 :=
    character.valid
  omega

/-- A character stands for itself if it may and is no blank, and is escaped otherwise. -/
def Glyph.ofChar (character : Char) : Glyph :=
  if ordinary : isOrdinary character = true then .raw character (isOrdinary_iff.mp ordinary).1
  else
    .unit (.ofNat character.toNat (small_of_not_isOrdinary ordinary)) (not_surrogate character)

theorem character?_ofChar (character : Char) :
    (Glyph.ofChar character).character? = some character := by
  unfold Glyph.ofChar
  split
  · rfl
  · exact congrArg some (Char.ofNat_toNat character)

theorem isBlank_ofChar (character : Char) : (Glyph.ofChar character).isBlank = false := by
  unfold Glyph.ofChar
  split
  · rename_i ordinary
    exact (isOrdinary_iff.mp ordinary).2
  · rfl

namespace StringLiteral

/-- A literal of a text in which no blank stands for itself. -/
def ofText (text : String) : StringLiteral where
  glyphs := text.toList.map .ofChar
  whole := by
    intro glyph inside
    obtain ⟨character, _, rfl⟩ := List.mem_map.mp inside
    simp [character?_ofChar]

@[simp]
theorem text_ofText (text : String) : (ofText text).text = text := by
  have characters : Glyph.character? ∘ Glyph.ofChar = some := funext character?_ofChar
  rw [StringLiteral.text, glyphText, ofText, List.filterMap_map, characters, List.filterMap_some,
    String.ofList_toList]

@[simp]
theorem text_collapsed_ofText (text : String) : (ofText text).collapsed.text = text := by
  have same : collapseBlanks (ofText text).glyphs = (ofText text).glyphs := by
    apply collapseBlanks_eq_self
    intro glyph inside
    obtain ⟨character, _, rfl⟩ := List.mem_map.mp inside
    exact isBlank_ofChar character
  exact (congrArg glyphText same).trans (text_ofText text)

end StringLiteral

end SemanticIndex.Json
