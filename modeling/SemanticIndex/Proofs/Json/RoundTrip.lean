import SemanticIndex.Proofs.Json.Values

/-!
# Written values read back

A value that fits is written as a text whose tokens spell its form, over one line or over many.
Reading that text therefore gives the value back, and spaces behind it change nothing.
-/

namespace SemanticIndex.Json

/-! ## Tokens of a text -/

/-- Before a rest, the characters are read as the tokens. -/
def Reads (characters : List Char) (tokens : List Token) (rest : List Char) : Prop :=
  tokens? (characters ++ rest) = (tokens? rest).map (tokens ++ ·)

/-- Neither a number nor a word goes on into the rest of a text. -/
def Separated (rest : List Char) : Prop :=
  ∀ first ∈ rest.head?, isNumeralCharacter first = false ∧ first.isAlpha = false

theorem Reads.append
    {one other rest : List Char}
    {first second : List Token}
    (reads : Reads one first (other ++ rest))
    (others : Reads other second rest) :
    Reads (one ++ other) (first ++ second) rest := by
  unfold Reads at *
  rw [List.append_assoc, reads, others, Option.map_map]
  congr 1
  funext tokens
  exact (List.append_assoc first second tokens).symm

theorem tokens?_eq (characters : List Char) :
    tokens? characters =
      match characters.dropWhile isSpace with
      | [] => some []
      | first :: tail => (token? (first :: tail)).bind fun read =>
        (tokens? read.2).map (read.1 :: ·) := by
  rw [tokens?]
  split
  · rename_i trimmed
    rw [trimmed]
  · rename_i trimmed
    rw [trimmed]
    split <;> rename_i read <;> simp only [read] <;> rfl

theorem reads_spaces
    {spaces : List Char}
    (blank : ∀ character ∈ spaces, isSpace character = true)
    (rest : List Char) :
    Reads spaces [] rest := by
  have trimmed : (spaces ++ rest).dropWhile isSpace = rest.dropWhile isSpace :=
    List.dropWhile_append_of_pos blank
  unfold Reads
  rw [tokens?_eq, trimmed, ← tokens?_eq]
  exact Option.map_id'.symm

theorem reads_token
    {first : Char}
    {tail rest : List Char}
    {token : Token}
    (start : isSpace first = false)
    (read : token? (first :: (tail ++ rest)) = some (token, rest)) :
    Reads (first :: tail) [token] rest := by
  have kept : (first :: (tail ++ rest)).dropWhile isSpace = first :: (tail ++ rest) := by
    simp [start]
  unfold Reads
  rw [tokens?_eq, List.cons_append, kept]
  simp only [read]
  rfl

theorem reads_mark
    {mark : Char}
    {token : Token}
    (known : mark? mark = some token)
    (rest : List Char) :
    Reads [mark] [token] rest := by
  unfold mark? at known
  split at known
  all_goals first
    | obtain rfl := Option.some.inj known
      exact reads_token rfl rfl
    | cases known

theorem reads_writeString
    (text : String)
    (rest : List Char) :
    Reads (writeString text) [.string (piecesOf text)] rest := by
  apply reads_token rfl
  rw [List.append_assoc]
  simp [token?, readPieces?_flatMap_escape, piecesOf]

/-- The characters at which neither a string nor a mark starts. -/
def isPlain (character : Char) : Bool :=
  !(['"', '[', ']', '{', '}', ':', ',', ' ', '\t', '\n', '\r'].contains character)

theorem isSpace_of_isPlain
    {character : Char}
    (plain : isPlain character = true) :
    isSpace character = false := by
  simp_all [isPlain, isSpace]

theorem mark?_of_isPlain
    {character : Char}
    (plain : isPlain character = true) :
    mark? character = none := by
  unfold mark?
  split <;> simp_all [isPlain]

theorem token?_of_isPlain
    {first : Char}
    (plain : isPlain first = true)
    (rest : List Char) :
    token? (first :: rest) =
      if first.isDigit || first == '-' then
        (Numeral.read? ((first :: rest).takeWhile isNumeralCharacter)).map fun numeral =>
          (.number numeral, (first :: rest).dropWhile isNumeralCharacter)
      else
        (word? ((first :: rest).takeWhile Char.isAlpha)).map fun token =>
          (token, (first :: rest).dropWhile Char.isAlpha) := by
  rw [token?]
  · rw [mark?_of_isPlain plain]
    simp only [Option.map_eq_bind]
    rfl
  · rintro rfl
    exact absurd plain (by decide)

theorem isPlain_of_isDigit
    {character : Char}
    (digit : character.isDigit = true) :
    isPlain character = true := by
  by_contra mark
  simp only [isPlain, Bool.not_eq_true, Bool.not_eq_false', List.contains_iff_mem,
    List.mem_cons, List.not_mem_nil, or_false] at mark
  rcases mark with rfl | rfl | rfl | rfl | rfl | rfl | rfl | rfl | rfl | rfl | rfl <;>
    exact absurd digit (by decide)

theorem reads_spells
    {characters rest : List Char}
    {numeral : Numeral}
    (spells : Spells characters numeral)
    (separated : Separated rest) :
    Reads characters [.number numeral] rest := by
  obtain ⟨first, tail, rfl, starts⟩ := spells.start
  have outside : ∀ next ∈ rest.head?, isNumeralCharacter next = false :=
    fun next inside => (separated next inside).1
  have kept := takeWhile_append_of_stop spells.inside outside
  have dropped := dropWhile_append_of_stop spells.inside outside
  have plain : isPlain first = true := by
    rcases Bool.or_eq_true_iff.mp starts with digit | minus
    · exact isPlain_of_isDigit digit
    · rw [eq_of_beq minus]
      rfl
  apply reads_token (isSpace_of_isPlain plain)
  rw [token?_of_isPlain plain, if_pos starts, ← List.cons_append, kept, dropped, spells.read]
  rfl

theorem reads_word
    {word rest : List Char}
    {token : Token}
    (known : word? word = some token)
    (separated : Separated rest) :
    Reads word [token] rest := by
  have outside : ∀ next ∈ rest.head?, next.isAlpha = false :=
    fun next inside => (separated next inside).2
  have reads {first : Char} {tail : List Char}
      (plain : isPlain first = true)
      (notNumber : (first.isDigit || first == '-') = false)
      (letters : (first :: tail).all Char.isAlpha = true)
      (known : word? (first :: tail) = some token) :
      Reads (first :: tail) [token] rest := by
    have kept := takeWhile_append_of_stop (List.all_eq_true.mp letters) outside
    have dropped := dropWhile_append_of_stop (List.all_eq_true.mp letters) outside
    apply reads_token (isSpace_of_isPlain plain)
    rw [token?_of_isPlain plain, notNumber, ← List.cons_append, kept, dropped, known]
    rfl
  unfold word? at known
  split at known
  all_goals first
    | exact reads rfl rfl rfl known
    | cases known

/-! ## Compact texts -/

theorem separated_cons
    {first : Char}
    {rest : List Char}
    (plain : isNumeralCharacter first = false)
    (notLetter : first.isAlpha = false) :
    Separated (first :: rest) := by
  intro next inside
  obtain rfl := Option.some.inj inside
  exact ⟨plain, notLetter⟩

theorem separated_writeElements (elements : List Json) (rest : List Char) :
    Separated (writeElements elements ++ rest) := by
  cases elements <;> exact separated_cons rfl rfl

theorem separated_writeFields (fields : Properties) (rest : List Char) :
    Separated (writeFields fields ++ rest) := by
  rcases fields with _ | ⟨⟨_, _⟩, _⟩ <;> exact separated_cons rfl rfl

theorem reads_integer
    (value : Int)
    {rest : List Char}
    (separated : Separated rest) :
    Reads (writeInteger value) (form (.integer value)).tokens rest := by
  rw [writeInteger_eq]
  exact reads_spells (spells_of_plain (integerLiteral_plain value) _) separated

theorem reads_fraction
    {value : Binary64}
    (canonical : value.Canonical)
    {rest : List Char}
    (separated : Separated rest) :
    Reads (writeFraction value) (form (.fraction value)).tokens rest := by
  exact reads_spells (spells_fraction canonical) separated

mutual

theorem reads_write
    {levels : Nat}
    {value : Json}
    {rest : List Char}
    (fits : value.Fits levels)
    (separated : Separated rest) :
    Reads (write value) value.form.tokens rest := by
  match value, fits with
  | .null, _ => exact reads_word rfl separated
  | .bool true, _ => exact reads_word rfl separated
  | .bool false, _ => exact reads_word rfl separated
  | .integer number, _ => exact reads_integer number separated
  | .fraction number, .fraction readsBack =>
    exact reads_fraction readsBack.canonical separated
  | .string text, _ => exact reads_writeString text rest
  | .array [], _ => exact (reads_mark rfl _).append (reads_mark rfl rest)
  | .array (first :: others), .array fits =>
    rw [write, form, elementForms, Form.tokens]
    apply (reads_mark rfl _).append
    apply (reads_write (fits first List.mem_cons_self) (separated_writeElements _ _)).append
    exact reads_writeElements (fun element inside => fits element (.tail _ inside)) rest
  | .object [], _ => exact (reads_mark rfl _).append (reads_mark rfl rest)
  | .object ((key, first) :: others), .object _ fits =>
    rw [write, form, fieldForms, Form.tokens]
    apply (reads_mark rfl _).append
    apply (reads_writeString key _).append
    apply (reads_mark rfl _).append
    apply (reads_write (fits (key, first) List.mem_cons_self) (separated_writeFields _ _)).append
    exact reads_writeFields (fun field inside => fits field (.tail _ inside)) rest

theorem reads_writeElements
    {levels : Nat}
    {elements : List Json}
    (fits : ∀ element ∈ elements, element.Fits levels)
    (rest : List Char) :
    Reads (writeElements elements) (Form.elementTokens (elementForms elements)) rest := by
  match elements with
  | [] => exact reads_mark rfl rest
  | first :: others =>
    rw [writeElements, elementForms, Form.elementTokens]
    apply (reads_mark rfl _).append
    apply (reads_write (fits first List.mem_cons_self) (separated_writeElements _ _)).append
    exact reads_writeElements (fun element inside => fits element (.tail _ inside)) rest

theorem reads_writeFields
    {levels : Nat}
    {fields : Properties}
    (fits : ∀ field ∈ fields, field.2.Fits levels)
    (rest : List Char) :
    Reads (writeFields fields) (Form.fieldTokens (fieldForms fields)) rest := by
  match fields with
  | [] => exact reads_mark rfl rest
  | (key, first) :: others =>
    rw [writeFields, fieldForms, Form.fieldTokens]
    apply (reads_mark rfl _).append
    apply (reads_writeString key _).append
    apply (reads_mark rfl _).append
    apply (reads_write (fits (key, first) List.mem_cons_self) (separated_writeFields _ _)).append
    exact reads_writeFields (fun field inside => fits field (.tail _ inside)) rest

end

/-! ## Texts over indented lines -/

theorem reads_lineBreak (level : Nat) (rest : List Char) : Reads (lineBreak level) [] rest := by
  apply reads_spaces
  intro character inside
  rcases List.mem_cons.mp inside with rfl | space
  · rfl
  · rw [List.eq_of_mem_replicate space]
    rfl

theorem reads_colonSpace (rest : List Char) : Reads [':', ' '] [.colon] rest := by
  have space : ∀ character ∈ [' '], isSpace character = true := by simp [isSpace]
  exact (reads_mark rfl _).append (reads_spaces space rest)

theorem separated_elementLines (level : Nat) (elements : List Json) (rest : List Char) :
    Separated (elementLines level elements ++ rest) := by
  cases elements <;> exact separated_cons rfl rfl

theorem separated_fieldLines (level : Nat) (fields : Properties) (rest : List Char) :
    Separated (fieldLines level fields ++ rest) := by
  rcases fields with _ | ⟨⟨_, _⟩, _⟩ <;> exact separated_cons rfl rfl

mutual

theorem reads_writeLines
    {levels : Nat}
    {value : Json}
    {rest : List Char}
    (level : Nat)
    (fits : value.Fits levels)
    (separated : Separated rest) :
    Reads (writeLines level value) value.form.tokens rest := by
  match value, fits with
  | .null, fits => exact reads_write fits separated
  | .bool _, fits => exact reads_write fits separated
  | .integer _, fits => exact reads_write fits separated
  | .fraction _, fits => exact reads_write fits separated
  | .string _, fits => exact reads_write fits separated
  | .array [], fits => exact reads_write fits separated
  | .array (first :: others), .array fits =>
    rw [writeLines, form, elementForms, Form.tokens, List.append_assoc]
    apply (reads_mark rfl _).append
    apply (reads_lineBreak _ _).append
    apply (reads_writeLines _ (fits first List.mem_cons_self)
      (separated_elementLines _ _ _)).append
    exact reads_elementLines level (fun element inside => fits element (.tail _ inside)) rest
  | .object [], fits => exact reads_write fits separated
  | .object ((key, first) :: others), .object _ fits =>
    rw [writeLines, form, fieldForms, Form.tokens, List.append_assoc, List.append_assoc,
      List.append_assoc]
    apply (reads_mark rfl _).append
    apply (reads_lineBreak _ _).append
    apply (reads_writeString key _).append
    apply (reads_colonSpace _).append
    apply (reads_writeLines _ (fits (key, first) List.mem_cons_self)
      (separated_fieldLines _ _ _)).append
    exact reads_fieldLines level (fun field inside => fits field (.tail _ inside)) rest

theorem reads_elementLines
    {levels : Nat}
    {elements : List Json}
    (level : Nat)
    (fits : ∀ element ∈ elements, element.Fits levels)
    (rest : List Char) :
    Reads (elementLines level elements) (Form.elementTokens (elementForms elements)) rest := by
  match elements with
  | [] => exact (reads_lineBreak level _).append (reads_mark rfl rest)
  | first :: others =>
    rw [elementLines, elementForms, Form.elementTokens, List.append_assoc]
    apply (reads_mark rfl _).append
    apply (reads_lineBreak _ _).append
    apply (reads_writeLines _ (fits first List.mem_cons_self)
      (separated_elementLines _ _ _)).append
    exact reads_elementLines level (fun element inside => fits element (.tail _ inside)) rest

theorem reads_fieldLines
    {levels : Nat}
    {fields : Properties}
    (level : Nat)
    (fits : ∀ field ∈ fields, field.2.Fits levels)
    (rest : List Char) :
    Reads (fieldLines level fields) (Form.fieldTokens (fieldForms fields)) rest := by
  match fields with
  | [] => exact (reads_lineBreak level _).append (reads_mark rfl rest)
  | (key, first) :: others =>
    rw [fieldLines, fieldForms, Form.fieldTokens, List.append_assoc, List.append_assoc,
      List.append_assoc]
    apply (reads_mark rfl _).append
    apply (reads_lineBreak _ _).append
    apply (reads_writeString key _).append
    apply (reads_colonSpace _).append
    apply (reads_writeLines _ (fits (key, first) List.mem_cons_self)
      (separated_fieldLines _ _ _)).append
    exact reads_fieldLines level (fun field inside => fits field (.tail _ inside)) rest

end

/-! ## Reading what was written -/

/-- Read a text in which no more than the given number of arrays and objects are nested. -/
def readWithin? (limit : Nat) (text : String) : Option Json := do
  ofForm? (← Form.ofText? (some limit) text.toList)

theorem readWithin?_of_reads
    {limit : Nat}
    {value : Json}
    {characters blank : List Char}
    (fits : value.Fits limit)
    (spaces : ∀ character ∈ blank, isSpace character = true)
    (reads : Reads characters value.form.tokens blank) :
    readWithin? limit (String.ofList (characters ++ blank)) = some value := by
  have nothing : tokens? blank = some [] := by
    have skipped := reads_spaces spaces []
    rw [Reads, List.append_nil] at skipped
    rw [skipped, tokens?_eq]
    rfl
  rw [readWithin?, String.toList_ofList, Form.ofText?, reads, nothing, Option.map_some,
    List.append_nil]
  show (Form.ofTokens? (some limit) value.form.tokens).bind ofForm? = _
  rw [Form.ofTokens?_tokens (within_form fits), Option.bind_some, ofForm?_form fits]

theorem separated_of_spaces
    {blank : List Char}
    (spaces : ∀ character ∈ blank, isSpace character = true) :
    Separated blank := by
  intro first inside
  have space := spaces first (List.mem_of_mem_head? inside)
  simp only [isSpace, Bool.or_eq_true, beq_iff_eq] at space
  rcases space with ((rfl | rfl) | rfl) | rfl <;> exact ⟨rfl, rfl⟩

/-- The compact text of a value reads as the value wherever its nesting is allowed. -/
theorem readWithin?_compact
    {limit : Nat}
    {value : Json}
    (fits : value.Fits limit) :
    readWithin? limit value.compact = some value := by
  have reads := reads_write fits (separated_of_spaces (List.forall_mem_nil _))
  rw [compact, ← List.append_nil (write value)]
  exact readWithin?_of_reads fits (List.forall_mem_nil _) reads

theorem read?_compact
    {value : Json}
    (fits : value.Fits nestingLimit) :
    read? value.compact = some value :=
  readWithin?_compact fits

/-- The text of a value over indented lines reads as the value, also with spaces behind it. -/
theorem read?_indented
    {value : Json}
    (fits : value.Fits nestingLimit)
    (blank : List Char)
    (spaces : ∀ character ∈ blank, isSpace character = true) :
    read? (value.indented ++ String.ofList blank) = some value := by
  have reads := reads_writeLines 0 fits (separated_of_spaces spaces)
  rw [indented, ← String.ofList_append]
  exact readWithin?_of_reads fits spaces reads

end SemanticIndex.Json
