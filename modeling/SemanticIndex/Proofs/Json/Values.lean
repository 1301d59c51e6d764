import SemanticIndex.Json.Reader
import SemanticIndex.Proofs.Json.Doubles
import SemanticIndex.Proofs.Json.Fields
import SemanticIndex.Proofs.Json.Forms
import SemanticIndex.Proofs.Json.Strings

/-!
# Values that can be read

A value that is read fits its own text: its integers lie in their range, its doubles are canonical,
its objects have distinct keys and its nesting is within the limit.  A value that fits has a form,
and giving that form a value gives the value back when its doubles are read back.
-/

namespace SemanticIndex.Json

/--
A value that a text with at most so many levels of nesting can have, with doubles of the given kind.
-/
inductive FitsWith (kind : Binary64 → Prop) : Nat → Json → Prop where
  | null {levels} : FitsWith kind levels .null
  | bool {levels value} : FitsWith kind levels (.bool value)
  | integer {levels value} :
    Int64.minValue.toInt ≤ value → value < UInt64.size → FitsWith kind levels (.integer value)
  | fraction {levels} {value : Binary64} : kind value → FitsWith kind levels (.fraction value)
  | string {levels value} : FitsWith kind levels (.string value)
  | array {levels elements} :
    (∀ element ∈ elements, FitsWith kind levels element) →
      FitsWith kind (levels + 1) (.array elements)
  | object {levels} {fields : Properties} :
    fields.keys.Nodup → (∀ field ∈ fields, FitsWith kind levels field.2) →
      FitsWith kind (levels + 1) (.object fields)

/-- A value that fits a text and whose doubles are read back. -/
abbrev Fits : Nat → Json → Prop := FitsWith Binary64.ReadsBack

section

variable {kind : Binary64 → Prop} {levels : Nat}

attribute [simp] FitsWith.null FitsWith.bool FitsWith.string

@[simp]
theorem fitsWith_integer_iff
    {value : Int} :
    FitsWith kind levels (.integer value) ↔
      Int64.minValue.toInt ≤ value ∧ value < UInt64.size := by
  constructor
  · rintro (_ | _ | ⟨least, greatest⟩)
    exact ⟨least, greatest⟩
  · rintro ⟨least, greatest⟩
    exact .integer least greatest

@[simp]
theorem fitsWith_array_iff
    {elements : List Json} :
    FitsWith kind (levels + 1) (.array elements) ↔
      ∀ element ∈ elements, FitsWith kind levels element := by
  constructor
  · rintro (_ | _ | _ | _ | _ | fits)
    exact fits
  · exact .array

@[simp]
theorem fitsWith_object_iff
    {fields : Properties} :
    FitsWith kind (levels + 1) (.object fields) ↔
      fields.keys.Nodup ∧ ∀ field ∈ fields, FitsWith kind levels field.2 := by
  constructor
  · rintro (_ | _ | _ | _ | _ | _ | ⟨distinct, fits⟩)
    exact ⟨distinct, fits⟩
  · rintro ⟨distinct, fits⟩
    exact .object distinct fits

end

/-! ## Doubles of values -/

mutual

/-- The doubles in a value, in order. -/
def doubles : Json → List Binary64
  | .fraction value => [value]
  | .array elements => elementDoubles elements
  | .object fields => fieldDoubles fields
  | _ => []

def elementDoubles : List Json → List Binary64
  | [] => []
  | element :: rest => element.doubles ++ elementDoubles rest

def fieldDoubles : List (String × Json) → List Binary64
  | [] => []
  | (_, value) :: rest => value.doubles ++ fieldDoubles rest

end

theorem elementDoubles_eq (elements : List Json) :
    elementDoubles elements = elements.flatMap doubles := by
  induction elements with
  | nil => rfl
  | cons first rest induction => rw [elementDoubles, induction, List.flatMap_cons]

theorem fieldDoubles_eq (fields : List (String × Json)) :
    fieldDoubles fields = fields.flatMap fun field => field.2.doubles := by
  induction fields with
  | nil => rfl
  | cons first rest induction => rw [fieldDoubles, induction, List.flatMap_cons]

theorem FitsWith.of_doubles
    {kind other : Binary64 → Prop}
    {levels : Nat}
    {value : Json}
    (fits : value.FitsWith kind levels)
    (numbers : ∀ number ∈ value.doubles, other number) :
    value.FitsWith other levels := by
  induction fits with
  | null => exact .null
  | bool => exact .bool
  | integer least greatest => exact .integer least greatest
  | fraction => exact .fraction (numbers _ (by simp [doubles]))
  | string => exact .string
  | array _ induction =>
    apply FitsWith.array
    intro element inside
    apply induction element inside
    intro number found
    apply numbers
    rw [doubles, elementDoubles_eq]
    exact List.mem_flatMap_of_mem inside found
  | object distinct _ induction =>
    apply FitsWith.object distinct
    intro field inside
    apply induction field inside
    intro number found
    apply numbers
    rw [doubles, fieldDoubles_eq]
    exact List.mem_flatMap_of_mem inside found

/-! ## Forms of values -/

mutual

/-- The form in which a value is written. -/
def form : Json → Form
  | .null => .null
  | .bool value => .bool value
  | .integer value => .number ((integerLiteral value).numeral (value < 0))
  | .fraction value => .number ((fractionLiteral value).numeral value.negative)
  | .string value => .string (piecesOf value)
  | .array elements => .array (elementForms elements)
  | .object fields => .object (fieldForms fields)

def elementForms : List Json → List Form
  | [] => []
  | element :: rest => element.form :: elementForms rest

def fieldForms : List (String × Json) → List (List Piece × Form)
  | [] => []
  | (key, value) :: rest => (piecesOf key, value.form) :: fieldForms rest

end

theorem elementForms_eq (elements : List Json) : elementForms elements = elements.map form := by
  induction elements with
  | nil => rfl
  | cons first rest induction => rw [elementForms, induction, List.map_cons]

theorem fieldForms_eq (fields : List (String × Json)) :
    fieldForms fields = fields.map fun field => (piecesOf field.1, field.2.form) := by
  induction fields with
  | nil => rfl
  | cons first rest induction => rw [fieldForms, induction, List.map_cons]

theorem within_form
    {kind : Binary64 → Prop}
    {levels : Nat}
    {value : Json}
    (fits : value.FitsWith kind levels) :
    value.form.Within levels := by
  induction fits with
  | null => exact .null
  | bool => exact .bool
  | integer => exact .number
  | fraction => exact .number
  | string => exact .string
  | array _ induction =>
    rw [form, elementForms_eq]
    apply Form.Within.array
    intro inner inside
    obtain ⟨element, found, rfl⟩ := List.mem_map.mp inside
    exact induction element found
  | object _ _ induction =>
    rw [form, fieldForms_eq]
    apply Form.Within.object
    intro inner inside
    obtain ⟨field, found, rfl⟩ := List.mem_map.mp inside
    exact induction field found

/-! ## Values of forms -/

theorem ofForms?_map
    {elements : List Json}
    (read : ∀ element ∈ elements, ofForm? element.form = some element) :
    ofForms? (elements.map form) = some elements := by
  induction elements with
  | nil => rfl
  | cons first rest induction =>
    rw [List.map_cons, ofForms?, read first List.mem_cons_self,
      induction fun element inside => read element (.tail _ inside)]
    rfl

theorem ofFields?_map
    {before fields : Properties}
    (distinct : (before ++ fields).keys.Nodup)
    (read : ∀ field ∈ fields, ofForm? field.2.form = some field.2) :
    ofFields? before (fields.map fun field => (piecesOf field.1, field.2.form)) =
      some (before ++ fields) := by
  induction fields generalizing before with
  | nil => rw [List.append_nil]; rfl
  | cons first rest induction =>
    have absent : first.1 ∉ before.keys := by
      intro present
      rw [Fields.keys, List.map_append, List.map_cons] at distinct
      exact (List.nodup_append.mp distinct).2.2 first.1 present first.1 List.mem_cons_self rfl
    rw [List.map_cons, ofFields?, stringOf?_piecesOf, read first List.mem_cons_self]
    show ofFields? (before.put first.1 first.2) _ = _
    rw [Fields.put_of_not_mem absent, induction, List.append_assoc]
    · rfl
    · rwa [List.append_assoc]
    · exact fun field inside => read field (.tail _ inside)

theorem ofForm?_form
    {levels : Nat}
    {value : Json}
    (fits : value.Fits levels) :
    ofForm? value.form = some value := by
  induction fits with
  | null => rfl
  | bool => rfl
  | integer least greatest => exact value?_integerLiteral least greatest
  | fraction readsBack => exact readsBack.value?_fractionLiteral
  | string => rw [form, ofForm?, stringOf?_piecesOf, Option.map_some]
  | array _ induction =>
    rw [form, elementForms_eq, ofForm?, ofForms?_map induction, Option.map_some]
  | object distinct _ induction =>
    rw [form, fieldForms_eq, ofForm?, @ofFields?_map [] _ distinct induction,
      Option.map_some, List.nil_append]

/-! ## Values that are read -/

theorem fitsWith_of_value?
    {levels : Nat}
    {numeral : Numeral}
    {value : Json}
    (read : numeral.value? = some value) :
    value.FitsWith Binary64.Canonical levels := by
  unfold Numeral.value? at read
  dsimp only at read
  split at read
  · rename_i natural
    obtain rfl := Option.some.inj read
    simp only [Bool.and_eq_true, decide_eq_true_eq] at natural
    have least : Int64.minValue.toInt ≤ 0 := by decide
    exact .integer (by omega) (by omega)
  · split at read
    · rename_i negative
      obtain rfl := Option.some.inj read
      simp only [Bool.and_eq_true, decide_eq_true_eq] at negative
      have size : 0 < UInt64.size := by decide
      exact .integer negative.2 (by omega)
    · obtain ⟨number, rounds, rfl⟩ := Option.map_eq_some_iff.mp read
      exact .fraction (canonical_of_double? rounds)

mutual

theorem fitsWith_of_ofForm?
    {levels : Nat}
    {form : Form}
    {value : Json}
    (within : form.Within levels)
    (read : ofForm? form = some value) :
    value.FitsWith Binary64.Canonical levels := by
  match form, within with
  | .null, _ =>
    obtain rfl := Option.some.inj read
    exact .null
  | .bool _, _ =>
    obtain rfl := Option.some.inj read
    exact .bool
  | .number _, _ => exact fitsWith_of_value? read
  | .string _, _ =>
    obtain ⟨_, _, rfl⟩ := Option.map_eq_some_iff.mp read
    exact .string
  | .array _, .array within =>
    obtain ⟨_, inner, rfl⟩ := Option.map_eq_some_iff.mp read
    exact .array (fitsWith_of_ofForms? within inner)
  | .object _, .object within =>
    obtain ⟨_, inner, rfl⟩ := Option.map_eq_some_iff.mp read
    have empty : (Fields.keys ([] : Properties)).Nodup := List.nodup_nil
    have ⟨distinct, fits⟩ := fitsWith_of_ofFields? within empty (by simp) inner
    exact .object distinct fits

theorem fitsWith_of_ofForms?
    {levels : Nat}
    {forms : List Form}
    {values : List Json}
    (within : ∀ form ∈ forms, form.Within levels)
    (read : ofForms? forms = some values) :
    ∀ value ∈ values, value.FitsWith Binary64.Canonical levels := by
  match forms with
  | [] =>
    obtain rfl := Option.some.inj read
    simp
  | first :: rest =>
    simp only [ofForms?, Option.bind_eq_bind, Option.bind_eq_some_iff] at read
    obtain ⟨value, readFirst, values, readRest, equal⟩ := read
    obtain rfl := Option.some.inj equal
    have fits := fitsWith_of_ofForm? (within first List.mem_cons_self) readFirst
    have others := fitsWith_of_ofForms? (fun form inside => within form (.tail _ inside)) readRest
    exact List.forall_mem_cons.mpr ⟨fits, others⟩

theorem fitsWith_of_ofFields?
    {levels : Nat}
    {forms : List (List Piece × Form)}
    {before fields : Properties}
    (within : ∀ form ∈ forms, form.2.Within levels)
    (distinct : before.keys.Nodup)
    (fits : ∀ field ∈ before, field.2.FitsWith Binary64.Canonical levels)
    (read : ofFields? before forms = some fields) :
    fields.keys.Nodup ∧ ∀ field ∈ fields, field.2.FitsWith Binary64.Canonical levels := by
  match forms with
  | [] =>
    obtain rfl := Option.some.inj read
    exact ⟨distinct, fits⟩
  | (pieces, form) :: rest =>
    simp only [ofFields?, Option.bind_eq_bind, Option.bind_eq_some_iff] at read
    obtain ⟨key, _, value, readFirst, readRest⟩ := read
    have first := fitsWith_of_ofForm? (within (pieces, form) List.mem_cons_self) readFirst
    apply fitsWith_of_ofFields? (fun form inside => within form (.tail _ inside))
      (Fields.nodup_keys_put distinct) _ readRest
    intro field inside
    rcases Fields.mem_put inside with rfl | old
    · exact first
    · exact fits field old

end

/-- Every value that is read fits a text within the limit of nesting. -/
theorem fitsWith_of_read?
    {text : String}
    {value : Json}
    (read : read? text = some value) :
    value.FitsWith Binary64.Canonical nestingLimit := by
  simp only [read?, Form.ofText?, Option.bind_eq_bind, Option.bind_eq_some_iff] at read
  obtain ⟨form, ⟨tokens, _, read⟩, meaning⟩ := read
  exact fitsWith_of_ofForm? (Form.within_of_ofTokens? read) meaning

/-- Every double in the value of a text is read back. -/
def ReadsDoublesBack (text : String) : Prop :=
  ∀ value ∈ read? text, ∀ number ∈ value.doubles, number.ReadsBack

instance : DecidablePred ReadsDoublesBack :=
  fun text => inferInstanceAs (Decidable (∀ value ∈ read? text, _))

theorem ReadsDoublesBack.fits
    {text : String}
    {value : Json}
    (numbers : ReadsDoublesBack text)
    (read : read? text = some value) :
    value.Fits nestingLimit :=
  (fitsWith_of_read? read).of_doubles (numbers value read)

end SemanticIndex.Json
