import UrlTemplate.Toml.Value
import UrlTemplate.Text.Hex
import UrlTemplate.Toml.Layout

/-! # Unquoted TOML values

Booleans, numbers, dates and times. `scalar?` says what kind of value an
unquoted text is, if it is one.
-/

namespace UrlTemplate.Toml

/-- Digits with single underscores between them. -/
def isDigits (p : Char → Bool) : List Char → Bool
  | [] => false
  | [c] => p c
  | c :: '_' :: rest => p c && isDigits p rest
  | c :: rest => p c && isDigits p rest

/-- A text without its sign, if it has one. -/
def unsigned : List Char → List Char
  | '+' :: rest => rest
  | '-' :: rest => rest
  | text => text

/-- A decimal integer without a sign: no zero stands before other digits. -/
def isDecimal (text : List Char) : Bool :=
  isDigits Char.isDigit text && (text.head? ≠ some '0' || text.length = 1)

/-- An integer, decimal or in another base. -/
def isInteger (text : List Char) : Bool :=
  match text with
  | '0' :: 'x' :: digits => isDigits isHexDigit digits
  | '0' :: 'o' :: digits => isDigits (fun c => '0' ≤ c && c ≤ '7') digits
  | '0' :: 'b' :: digits => isDigits (fun c => c = '0' || c = '1') digits
  | _ => isDecimal (unsigned text)

/-- A number with a fraction, an exponent or both, or one that is not finite. -/
def isFloat (text : List Char) : Bool :=
  let body := unsigned text
  let isExponent := fun c => c = 'e' || c = 'E'
  let mantissa := body.takeWhile (!isExponent ·)
  let whole := mantissa.takeWhile (· ≠ '.')
  let hasExponent := body.any isExponent
  let hasFraction := mantissa.any (· = '.')
  body = ['i', 'n', 'f'] || body = ['n', 'a', 'n'] ||
    (isDecimal whole && (hasExponent || hasFraction) &&
      (!hasFraction || isDigits Char.isDigit (mantissa.drop (whole.length + 1))) &&
      (!hasExponent ||
        isDigits Char.isDigit (unsigned (body.drop (mantissa.length + 1)))))

/-! ## Dates and times -/

/-- The number that exactly `count` digits at the start write, and the rest. -/
def leadingNumber? (count : Nat) (text : List Char) : Option (Nat × List Char) :=
  let digits := text.take count
  if digits.length = count ∧ digits.all Char.isDigit then
    some (digitsValue 10 digits, text.drop count)
  else none

/-- The text after a given character at its start. -/
def after? (c : Char) : List Char → Option (List Char)
  | d :: rest => if d = c then some rest else none
  | [] => none

/-- How many days a month has. -/
def daysIn (year month : Nat) : Nat :=
  if month = 2 then
    if year % 4 = 0 ∧ (year % 100 ≠ 0 ∨ year % 400 = 0) then 29 else 28
  else if month = 4 ∨ month = 6 ∨ month = 9 ∨ month = 11 then 30
  else 31

/-- What follows a date at the start of a text. -/
def afterDate? (text : List Char) : Option (List Char) := do
  let (year, text) ← leadingNumber? 4 text
  let (month, text) ← leadingNumber? 2 (← after? '-' text)
  let (day, text) ← leadingNumber? 2 (← after? '-' text)
  if 1 ≤ month ∧ month ≤ 12 ∧ 1 ≤ day ∧ day ≤ daysIn year month then some text else none

/-- What follows a fraction of a second, which may be missing. -/
def afterFraction? (text : List Char) : Option (List Char) :=
  match text with
  | '.' :: rest =>
    if rest.head?.any Char.isDigit then some (rest.dropWhile Char.isDigit) else none
  | _ => some text

/-- What follows a time at the start of a text. The seconds may be missing. -/
def afterTime? (text : List Char) : Option (List Char) := do
  let (hour, text) ← leadingNumber? 2 text
  let (minute, text) ← leadingNumber? 2 (← after? ':' text)
  if 23 < hour ∨ 59 < minute then none
  else
    match after? ':' text with
    | none => some text
    | some rest =>
      let (second, text) ← leadingNumber? 2 rest
      if 60 < second then none else afterFraction? text

/-- The text is a distance from universal time. -/
def isOffset (text : List Char) : Bool :=
  match text with
  | ['Z'] | ['z'] => true
  | '+' :: rest | '-' :: rest =>
    match leadingNumber? 2 rest with
    | some (hour, ':' :: rest) =>
      match leadingNumber? 2 rest with
      | some (minute, []) => hour ≤ 23 && minute ≤ 59
      | _ => false
    | _ => false
  | _ => false

/-- The text is a date, a time, or both with or without an offset. -/
def isMoment (text : List Char) : Bool :=
  match afterDate? text with
  | some [] => true
  | some (separator :: rest) =>
    (separator = 'T' || separator = 't' || separator = ' ') &&
      match afterTime? rest with
      | some left => left.isEmpty || isOffset left
      | none => false
  | none => afterTime? text = some []

/-- The value that an unquoted text stands for. -/
def scalar? (text : List Char) : Option Value :=
  if text = ['t', 'r', 'u', 'e'] then some (.boolean true)
  else if text = ['f', 'a', 'l', 's', 'e'] then some (.boolean false)
  else if isInteger text || isFloat text then some (.number (String.ofList text))
  else if isMoment text then some (.moment (String.ofList text))
  else none

/-- A character that may stand in an unquoted value. -/
def isUnquoted (c : Char) : Bool :=
  c.isAlphanum || c = '_' || c = '-' || c = '+' || c = '.' || c = ':'

/-- Reads an unquoted value. A space may stand between a date and a time. -/
def scalar : Reader Value := do
  let read ← Reader.span isUnquoted
  let rest ← get
  let read ←
    if afterDate? read = some [] ∧ (after? ' ' rest).any (·.head?.any Char.isDigit) then do
      let _ ← Reader.next
      let time ← Reader.span isUnquoted
      pure (read ++ ' ' :: time)
    else pure read
  match scalar? read with
  | some value => pure value
  | none => Reader.fail

end UrlTemplate.Toml
