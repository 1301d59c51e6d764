import SemanticIndex.Json.Form

/-!
# Forms and their tokens

A form is spelled by its tokens, and reading those tokens gives the form again as long as its
arrays and objects are nested no deeper than allowed.  Conversely a form that has been read is
nested no deeper than that.
-/

namespace SemanticIndex.Json

namespace Form

/-- At most so many arrays and objects are nested in a form. -/
inductive Within : Nat → Form → Prop where
  | null {levels} : Within levels .null
  | bool {levels value} : Within levels (.bool value)
  | number {levels numeral} : Within levels (.number numeral)
  | string {levels pieces} : Within levels (.string pieces)
  | array {levels elements} :
    (∀ element ∈ elements, Within levels element) → Within (levels + 1) (.array elements)
  | object {levels fields} :
    (∀ field ∈ fields, Within levels field.2) → Within (levels + 1) (.object fields)

mutual

/-- The tokens that spell a form. -/
def tokens : Form → List Token
  | .null => [.null]
  | .bool value => [.bool value]
  | .number numeral => [.number numeral]
  | .string pieces => [.string pieces]
  | .array [] => [.openArray, .closeArray]
  | .array (first :: rest) => .openArray :: (first.tokens ++ elementTokens rest)
  | .object [] => [.openObject, .closeObject]
  | .object ((key, form) :: rest) =>
    .openObject :: .string key :: .colon :: (form.tokens ++ fieldTokens rest)

/-- The tokens of the elements of an array after the first, with its end. -/
def elementTokens : List Form → List Token
  | [] => [.closeArray]
  | form :: rest => .comma :: (form.tokens ++ elementTokens rest)

/-- The tokens of the fields of an object after the first, with its end. -/
def fieldTokens : List (List Piece × Form) → List Token
  | [] => [.closeObject]
  | (key, form) :: rest => .comma :: .string key :: .colon :: (form.tokens ++ fieldTokens rest)

end

/-! ## Reading the tokens of a form -/

section Reading

variable {limit : Option Nat} {around : List Open}

/-- A form that may be read inside of the open arrays and objects. -/
def FitsInside (limit : Option Nat) (around : List Open) (form : Form) : Prop :=
  ∀ most, limit = some most → form.Within (most - around.length)

theorem FitsInside.elements
    {elements : List Form}
    (fits : FitsInside limit around (.array elements)) :
    limit.all (around.length < ·) = true ∧
      ∀ element ∈ elements, ∀ opened, element.FitsInside limit (opened :: around) := by
  cases limit with
  | none => exact ⟨rfl, fun _ _ _ _ none => nomatch none⟩
  | some most =>
    have within := fits most rfl
    generalize room : most - around.length = levels at within
    cases within with
    | @array levels _ within =>
      refine ⟨by simp; omega, ?_⟩
      rintro element inside opened _ ⟨⟩
      rw [List.length_cons, show most - (around.length + 1) = levels by omega]
      exact within element inside

theorem FitsInside.fields
    {fields : List (List Piece × Form)}
    (fits : FitsInside limit around (.object fields)) :
    limit.all (around.length < ·) = true ∧
      ∀ field ∈ fields, ∀ opened, field.2.FitsInside limit (opened :: around) := by
  cases limit with
  | none => exact ⟨rfl, fun _ _ _ _ none => nomatch none⟩
  | some most =>
    have within := fits most rfl
    generalize room : most - around.length = levels at within
    cases within with
    | @object levels _ within =>
      refine ⟨by simp; omega, ?_⟩
      rintro field inside opened _ ⟨⟩
      rw [List.length_cons, show most - (around.length + 1) = levels by omega]
      exact within field inside

/-- Where an array may end at once, an element is read as elsewhere. -/
theorem foldlM_firstElement
    (form : Form)
    (rest : List Token) :
    (form.tokens ++ rest).foldlM (Progress.step? limit) ⟨around, .firstElement⟩ =
      (form.tokens ++ rest).foldlM (Progress.step? limit) ⟨.array [] :: around, .value⟩ := by
  rcases form with _ | _ | _ | _ | (_ | _) | (_ | _) <;> rfl

theorem step?_openArray (room : limit.all (around.length < ·) = true) :
    Progress.step? limit ⟨around, .value⟩ .openArray = some ⟨around, .firstElement⟩ :=
  if_pos room

theorem step?_openObject (room : limit.all (around.length < ·) = true) :
    Progress.step? limit ⟨around, .value⟩ .openObject = some ⟨around, .firstKey⟩ :=
  if_pos room

mutual

theorem foldlM_tokens
    {around : List Open}
    {form : Form}
    (fits : form.FitsInside limit around) :
    form.tokens.foldlM (Progress.step? limit) ⟨around, .value⟩ =
      some (Progress.complete around form) := by
  match form with
  | .null => rfl
  | .bool _ => rfl
  | .number _ => rfl
  | .string _ => rfl
  | .array [] =>
    rw [tokens, List.foldlM_cons, step?_openArray fits.elements.1]
    rfl
  | .array (first :: rest) =>
    obtain ⟨room, within⟩ := fits.elements
    rw [tokens, List.foldlM_cons, step?_openArray room, Option.bind_eq_bind,
      Option.bind_some, foldlM_firstElement, List.foldlM_append,
      foldlM_tokens (within first List.mem_cons_self _)]
    exact foldlM_elementTokens [first] fun element inside => within element (.tail _ inside)
  | .object [] =>
    rw [tokens, List.foldlM_cons, step?_openObject fits.fields.1]
    rfl
  | .object ((key, value) :: rest) =>
    obtain ⟨room, within⟩ := fits.fields
    rw [tokens, List.foldlM_cons, step?_openObject room]
    show (value.tokens ++ fieldTokens rest).foldlM (Progress.step? limit)
      ⟨.object [] key :: around, .value⟩ = _
    rw [List.foldlM_append, foldlM_tokens (within (key, value) List.mem_cons_self _)]
    exact foldlM_fieldTokens [(key, value)] fun field inside => within field (.tail _ inside)

theorem foldlM_elementTokens
    {around : List Open}
    {elements : List Form}
    (before : List Form)
    (within : ∀ element ∈ elements, ∀ opened, element.FitsInside limit (opened :: around)) :
    (elementTokens elements).foldlM (Progress.step? limit) ⟨around, .nextElement before⟩ =
      some (Progress.complete around (.array (before.reverse ++ elements))) := by
  match elements, within with
  | [], _ =>
    rw [List.append_nil]
    rfl
  | first :: rest, within =>
    show (first.tokens ++ elementTokens rest).foldlM (Progress.step? limit)
      ⟨.array before :: around, .value⟩ = _
    rw [List.foldlM_append, foldlM_tokens (within first List.mem_cons_self _)]
    show (elementTokens rest).foldlM (Progress.step? limit)
      ⟨around, .nextElement (first :: before)⟩ = _
    rw [foldlM_elementTokens (first :: before)
      (fun element inside => within element (.tail _ inside)), List.reverse_cons,
      List.append_assoc]
    rfl

theorem foldlM_fieldTokens
    {around : List Open}
    {fields : List (List Piece × Form)}
    (before : List (List Piece × Form))
    (within : ∀ field ∈ fields, ∀ opened, field.2.FitsInside limit (opened :: around)) :
    (fieldTokens fields).foldlM (Progress.step? limit) ⟨around, .nextKey before⟩ =
      some (Progress.complete around (.object (before.reverse ++ fields))) := by
  match fields, within with
  | [], _ =>
    rw [List.append_nil]
    rfl
  | (key, value) :: rest, within =>
    show (value.tokens ++ fieldTokens rest).foldlM (Progress.step? limit)
      ⟨.object before key :: around, .value⟩ = _
    rw [List.foldlM_append, foldlM_tokens (within (key, value) List.mem_cons_self _)]
    show (fieldTokens rest).foldlM (Progress.step? limit)
      ⟨around, .nextKey ((key, value) :: before)⟩ = _
    rw [foldlM_fieldTokens ((key, value) :: before)
      (fun field inside => within field (.tail _ inside)), List.reverse_cons,
      List.append_assoc]
    rfl

end

theorem ofTokens?_of_fitsInside
    {form : Form}
    (fits : form.FitsInside limit []) :
    ofTokens? limit form.tokens = some form := by
  rw [ofTokens?, foldlM_tokens fits]
  rfl

theorem ofTokens?_tokens
    {limit : Nat}
    {form : Form}
    (within : form.Within limit) :
    ofTokens? (some limit) form.tokens = some form :=
  ofTokens?_of_fitsInside fun _ same => Option.some.inj same ▸ within

/-- Without a limit, every form is read from its tokens. -/
theorem ofTokens?_none_tokens (form : Form) : ofTokens? none form.tokens = some form :=
  ofTokens?_of_fitsInside fun _ none => nomatch none

end Reading

/-! ## The nesting of forms that are read -/

variable {limit levels : Nat} {around : List Open}

/-- The parts that an open array or object holds so far. -/
def Open.parts : Open → List Form
  | .array elements => elements
  | .object fields _ => fields.map Prod.snd

/-- The parts of the array or object that goes on next. -/
def Expectation.parts : Expectation → List Form
  | .nextElement elements => elements
  | .key fields => fields.map Prod.snd
  | .colon fields _ => fields.map Prod.snd
  | .nextKey fields => fields.map Prod.snd
  | _ => []

/-- An array or object at some depth may hold these parts. -/
structure Room (limit depth : Nat) (parts : List Form) : Prop where
  fits : depth < limit
  parts : ∀ form ∈ parts, form.Within (limit - (depth + 1))

/-- Every open array or object may hold its parts. -/
def Rooms (limit : Nat) : List Open → Prop
  | [] => True
  | first :: outer => Room limit outer.length first.parts ∧ Rooms limit outer

/-- What has been read is nested no deeper than allowed. -/
structure Progress.Bounded (limit : Nat) (progress : Progress) : Prop where
  around : Rooms limit progress.around
  expected :
    match progress.expected with
    | .value => True
    | .finish form => form.Within limit
    | inside => Room limit progress.around.length inside.parts

theorem Room.cons
    {depth : Nat}
    {parts : List Form}
    {form : Form}
    (room : Room limit depth parts)
    (within : form.Within (limit - (depth + 1))) :
    Room limit depth (form :: parts) where
  fits := room.fits
  parts := List.forall_mem_cons.mpr ⟨within, room.parts⟩

theorem Room.array
    {depth : Nat}
    {elements : List Form}
    (room : Room limit depth elements) :
    (Form.array elements.reverse).Within (limit - depth) := by
  have levels : limit - depth = limit - (depth + 1) + 1 := by
    have := room.fits
    omega
  rw [levels]
  apply Within.array
  intro element inside
  exact room.parts element (List.mem_reverse.mp inside)

theorem Room.object
    {depth : Nat}
    {fields : List (List Piece × Form)}
    (room : Room limit depth (fields.map Prod.snd)) :
    (Form.object fields.reverse).Within (limit - depth) := by
  have levels : limit - depth = limit - (depth + 1) + 1 := by
    have := room.fits
    omega
  rw [levels]
  apply Within.object
  intro field inside
  exact room.parts field.2 (List.mem_map_of_mem (List.mem_reverse.mp inside))

theorem bounded_complete
    {around : List Open}
    {form : Form}
    (rooms : Rooms limit around)
    (within : form.Within (limit - around.length)) :
    (Progress.complete around form).Bounded limit := by
  match around, rooms with
  | [], _ => exact ⟨trivial, within⟩
  | .array _ :: _, rooms => exact ⟨rooms.2, rooms.1.cons within⟩
  | .object _ _ :: _, rooms => exact ⟨rooms.2, rooms.1.cons within⟩

theorem bounded_value?
    {around : List Open}
    {token : Token}
    {next : Progress}
    (rooms : Rooms limit around)
    (read : Progress.value? (some limit) around token = some next) :
    next.Bounded limit := by
  unfold Progress.value? at read
  dsimp only at read
  split at read
  · obtain rfl := Option.some.inj read
    exact bounded_complete rooms .null
  · obtain rfl := Option.some.inj read
    exact bounded_complete rooms .bool
  · obtain rfl := Option.some.inj read
    exact bounded_complete rooms .number
  · obtain rfl := Option.some.inj read
    exact bounded_complete rooms .string
  · split at read
    · rename_i fits
      obtain rfl := Option.some.inj read
      exact ⟨rooms, by simpa using fits, by simp [Expectation.parts]⟩
    · cases read
  · split at read
    · rename_i fits
      obtain rfl := Option.some.inj read
      exact ⟨rooms, by simpa using fits, by simp [Expectation.parts]⟩
    · cases read
  · cases read

theorem bounded_step?
    {progress next : Progress}
    {token : Token}
    (bounded : progress.Bounded limit)
    (read : Progress.step? (some limit) progress token = some next) :
    next.Bounded limit := by
  obtain ⟨around, expected⟩ := progress
  obtain ⟨rooms, room⟩ := bounded
  unfold Progress.step? at read
  dsimp only at read
  split at read
  · exact bounded_value? rooms read
  · obtain rfl := Option.some.inj read
    exact bounded_complete rooms (Room.array room)
  · have rooms : Rooms limit (.array [] :: around) := ⟨room, rooms⟩
    exact bounded_value? rooms read
  · obtain rfl := Option.some.inj read
    exact bounded_complete rooms (Room.array room)
  · obtain rfl := Option.some.inj read
    exact ⟨⟨room, rooms⟩, trivial⟩
  · obtain rfl := Option.some.inj read
    exact bounded_complete rooms (@Room.object limit around.length [] room)
  · obtain rfl := Option.some.inj read
    exact ⟨rooms, room⟩
  · obtain rfl := Option.some.inj read
    exact ⟨rooms, room⟩
  · obtain rfl := Option.some.inj read
    exact ⟨⟨room, rooms⟩, trivial⟩
  · obtain rfl := Option.some.inj read
    exact bounded_complete rooms (Room.object room)
  · obtain rfl := Option.some.inj read
    exact ⟨rooms, room⟩
  · cases read

theorem bounded_foldlM
    {tokens : List Token}
    {progress final : Progress}
    (bounded : progress.Bounded limit)
    (read : tokens.foldlM (Progress.step? (some limit)) progress = some final) :
    final.Bounded limit := by
  induction tokens generalizing progress with
  | nil =>
    obtain rfl := Option.some.inj read
    exact bounded
  | cons token tokens induction =>
    rw [List.foldlM_cons, Option.bind_eq_bind, Option.bind_eq_some_iff] at read
    obtain ⟨next, step, rest⟩ := read
    exact induction (bounded_step? bounded step) rest

theorem within_of_ofTokens?
    {tokens : List Token}
    {form : Form}
    (read : ofTokens? (some limit) tokens = some form) :
    form.Within limit := by
  unfold ofTokens? at read
  rw [Option.bind_eq_bind, Option.bind_eq_some_iff] at read
  obtain ⟨final, folded, finished⟩ := read
  have start : Progress.Bounded limit ⟨[], .value⟩ := ⟨trivial, trivial⟩
  have bounded := (bounded_foldlM start folded).expected
  split at finished
  · rename_i finish
    obtain rfl := Option.some.inj finished
    rw [finish] at bounded
    exact bounded
  · cases finished

end Form

end SemanticIndex.Json
