import SemanticIndex.Json.Token
import SemanticIndex.Toml.Item

/-!
# TOML words

Booleans, numbers, dates and times are single words.  Underscores may stand between the digits of
numbers; integers fit the signed 64-bit range, and a positive number beyond the range of doubles
is refused.
-/

namespace SemanticIndex.Toml

/-- Decide whether a character is an ASCII letter. -/
def isLetter (character : Char) : Bool :=
  character.isAlpha

/-- Decide whether a character may stand in a bare key. -/
def isKeyCharacter (character : Char) : Bool :=
  isLetter character || character.isDigit || character == '-' || character == '_'

/-- Decide whether a character may stand in a boolean, a number, a date or a time. -/
def isWordCharacter (character : Char) : Bool :=
  isKeyCharacter character || character == '+' || character == '.' || character == ':'

/-- The digits of a number without the single underscores between them. -/
def plainDigits?
    (isDigit : Char → Bool)
    (characters : List Char) : Option (List Char) :=
  let groups := characters.splitOn '_'
  if groups.all fun group => !group.isEmpty && group.all isDigit then some groups.flatten
  else none

/-- The value of a digit in any base up to sixteen. -/
def digitValue (digit : Char) : Nat :=
  (Json.hexDigit? digit).getD 16

/-- The number that digits spell in a base. -/
def numberInBase? (base : Nat) (characters : List Char) : Option Nat := do
  let digits ← plainDigits? (fun digit => digitValue digit < base) characters
  some (digits.foldl (fun total digit => base * total + digitValue digit) 0)

/-- An integer within the signed 64-bit range. -/
def fitted? (value : Int) : Option Item :=
  if Int64.minValue.toInt ≤ value && value ≤ Int64.maxValue.toInt then some (.integer value) else none

/-- A sign, if there is one, and what follows it. -/
def splitSign (characters : List Char) : Bool × List Char :=
  match characters with
  | '-' :: rest => (true, rest)
  | '+' :: rest => (false, rest)
  | rest => (false, rest)

/-- The digits of a decimal integer, which has no superfluous leading zero. -/
def wholeDigits? (characters : List Char) : Option (List Char) := do
  let digits ← plainDigits? Char.isDigit characters
  if digits.head? == some '0' && characters.length != 1 then none else some digits

/-- An integer in base ten with a sign, or in base sixteen, eight or two behind a mark. -/
def integer? (characters : List Char) : Option Item :=
  match characters with
  | '0' :: 'x' :: digits => (numberInBase? 16 digits).bind fun value => fitted? value
  | '0' :: 'o' :: digits => (numberInBase? 8 digits).bind fun value => fitted? value
  | '0' :: 'b' :: digits => (numberInBase? 2 digits).bind fun value => fitted? value
  | _ => do
    let (negative, digits) := splitSign characters
    let whole ← wholeDigits? digits
    let value : Int := Json.digitsValue whole
    fitted? (if negative then -value else value)

/-- The exponent of a floating-point number; nothing counts as zero. -/
def power? (characters : List Char) : Option Int :=
  match characters with
  | [] => some 0
  | mark :: rest => do
    if mark != 'e' && mark != 'E' then none
    else
      let (negative, digits) := splitSign rest
      let digits ← plainDigits? Char.isDigit digits
      let value : Int := Json.digitsValue digits
      some (if negative then -value else value)

/-- The digits after the point of a floating-point number, and its exponent. -/
def fraction? (characters : List Char) : Option (List Char × Int) :=
  match characters with
  | '.' :: rest => do
    let isExponent (character : Char) := character == 'e' || character == 'E'
    let places ← plainDigits? Char.isDigit (rest.takeWhile (!isExponent ·))
    let power ← power? (rest.dropWhile (!isExponent ·))
    some (places, power)
  | _ => do
    let power ← power? characters
    some ([], power)

/-- A floating-point number in decimal digits with a point or an exponent. -/
def decimal? (characters : List Char) : Option Item := do
  let (negative, unsigned) := splitSign characters
  let isWhole (character : Char) := character.isDigit || character == '_'
  let whole ← wholeDigits? (unsigned.takeWhile isWhole)
  let tail := unsigned.dropWhile isWhole
  if tail.isEmpty then none
  else
    let (places, power) ← fraction? tail
    let value := Binary64.ofDecimal negative (Json.digitsValue (whole ++ places))
      (power - places.length)
    if value.isNone && !negative then none else some .float

/-- A floating-point number, infinities and not-a-number included. -/
def float? (characters : List Char) : Option Item :=
  let unsigned := (splitSign characters).2
  if unsigned = ['i', 'n', 'f'] || unsigned = ['n', 'a', 'n'] then some .float
  else decimal? characters

/-- A number of a fixed count of digits within bounds. -/
def bounded? (least greatest : Nat) (digits : List Char) : Option Nat :=
  let value := Json.digitsValue digits
  if digits.all Char.isDigit && least ≤ value && value ≤ greatest then some value else none

/-- The number of days of a month. -/
def daysOfMonth (year month : Nat) : Nat :=
  if month = 2 then
    if year % 4 = 0 && (year % 100 != 0 || year % 400 = 0) then 29 else 28
  else if month = 4 || month = 6 || month = 9 || month = 11 then 30
  else 31

/-- Read a date, and return what follows it. -/
def date? : List Char → Option (List Char)
  | y₁ :: y₂ :: y₃ :: y₄ :: '-' :: m₁ :: m₂ :: '-' :: d₁ :: d₂ :: rest => do
    let year ← bounded? 0 9999 [y₁, y₂, y₃, y₄]
    let month ← bounded? 1 12 [m₁, m₂]
    let _ ← bounded? 1 (daysOfMonth year month) [d₁, d₂]
    some rest
  | _ => none

/-- Read an hour and a minute with a colon between them, and return what follows. -/
def hourMinute? : List Char → Option (List Char)
  | h₁ :: h₂ :: ':' :: m₁ :: m₂ :: rest => do
    let _ ← bounded? 0 23 [h₁, h₂]
    let _ ← bounded? 0 59 [m₁, m₂]
    some rest
  | _ => none

/-- Read a time of day, and return what follows it. -/
def time? (characters : List Char) : Option (List Char) := do
  match ← hourMinute? characters with
  | ':' :: s₁ :: s₂ :: '.' :: rest => do
    let _ ← bounded? 0 60 [s₁, s₂]
    if (rest.takeWhile Char.isDigit).isEmpty then none else some (rest.dropWhile Char.isDigit)
  | ':' :: s₁ :: s₂ :: rest => do
    let _ ← bounded? 0 60 [s₁, s₂]
    some rest
  | _ => none

/-- Decide whether a text is an offset from universal time, or empty. -/
def isOffset : List Char → Bool
  | [] => true
  | ['Z'] => true
  | ['z'] => true
  | '+' :: rest => hourMinute? rest == some []
  | '-' :: rest => hourMinute? rest == some []
  | _ => false

/-- A date, a time, or a date with a time and perhaps an offset. -/
def moment? (characters : List Char) : Option Item :=
  match date? characters with
  | some [] => some .moment
  | some (mark :: rest) =>
    if mark == 'T' || mark == 't' || mark == ' ' then
      match time? rest with
      | some offset => if isOffset offset then some .moment else none
      | none => none
    else none
  | none => if time? characters == some [] then some .moment else none

/-- The value of a word. -/
def word? (characters : List Char) : Option Item :=
  if characters = ['t', 'r', 'u', 'e'] then some (.bool true)
  else if characters = ['f', 'a', 'l', 's', 'e'] then some (.bool false)
  else (moment? characters).or ((integer? characters).or (float? characters))

/-- Read a word; a date may be followed by a space and a time. -/
def readWord? (characters : List Char) : Option (Item × List Char) :=
  let word := characters.takeWhile isWordCharacter
  let rest := characters.dropWhile isWordCharacter
  match rest with
  | ' ' :: next :: tail =>
    if date? word == some [] && next.isDigit then
      let time := (next :: tail).takeWhile isWordCharacter
      (moment? (word ++ ' ' :: time)).map (·, (next :: tail).dropWhile isWordCharacter)
    else (word? word).map (·, rest)
  | _ => (word? word).map (·, rest)

end SemanticIndex.Toml
