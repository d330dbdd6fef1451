import UrlTemplate.Text.Hex
import UrlTemplate.Toml.Scalar

/-! # The range of TOML numbers

A number can be written that no machine number holds. Integers have 128 bits,
with or without a sign, and other numbers are doubles.
-/

namespace UrlTemplate.Toml

/-- The integer that a text writes. -/
def integerValue (text : List Char) : Int :=
  match text with
  | '0' :: 'x' :: digits => digitsValue 16 digits
  | '0' :: 'o' :: digits => digitsValue 8 digits
  | '0' :: 'b' :: digits => digitsValue 2 digits
  | '-' :: digits => -(digitsValue 10 digits : Int)
  | '+' :: digits => digitsValue 10 digits
  | digits => digitsValue 10 digits

/-- The least number that is too large for a double: half a step above the
largest one. -/
def overflowBound : Nat := 1 <<< 1024 - 1 <<< 970

/-- The number `digits * 10 ^ exponent` is too large for a double. Only numbers
with as many places as the bound are compared with it in full. -/
def overflows (digits : Nat) (exponent : Int) : Bool :=
  if digits = 0 then false
  else
    let places : Int := (Nat.toDigits 10 digits).length + exponent
    if places < 309 then false
    else if 309 < places then true
    else if 0 ≤ exponent then decide (overflowBound ≤ digits * Nat.pow 10 exponent.toNat)
    else decide (overflowBound * Nat.pow 10 (-exponent).toNat ≤ digits)

/-- The text of a number that is no integer is too large for a double. -/
def floatOverflows (text : List Char) : Bool :=
  let body := unsigned text
  let mantissa := body.takeWhile fun c => c ≠ 'e' && c ≠ 'E'
  let whole := mantissa.takeWhile (· ≠ '.')
  let fraction := mantissa.drop (whole.length + 1)
  let exponent := body.drop (mantissa.length + 1)
  -- the texts that are no digits, inf and nan, name a number of their own
  body.any Char.isDigit && overflows (digitsValue 10 (whole ++ fraction))
    (integerValue exponent - (fraction.filter Char.isDigit).length)

/-- The text of a number stands for a machine number. -/
def inRange (text : List Char) : Bool :=
  if isInteger text then
    let n := integerValue text
    decide (n.natAbs < 1 <<< 128) && (decide (0 ≤ n) || decide (n.natAbs ≤ 1 <<< 127))
  else !floatOverflows text

mutual

/-- All numbers in a value are in range. -/
def Value.inRange : Value → Bool
  | .number text => Toml.inRange text.toList
  | .array items => Value.allInRange items
  | .table entries => Table.inRange entries
  | _ => true

/-- All numbers in an array are in range. -/
def Value.allInRange : List Value → Bool
  | [] => true
  | item :: items => item.inRange && Value.allInRange items

/-- All numbers in a table are in range. -/
def Table.inRange : List (String × Value) → Bool
  | [] => true
  | (_, value) :: entries => value.inRange && Table.inRange entries

end

end UrlTemplate.Toml
