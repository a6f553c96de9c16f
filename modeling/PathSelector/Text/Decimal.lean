import PathSelector.Text.Basic

/-!
# Decimal numerals

Integers are written in decimal, with a minus sign for the negative ones. A numeral as it is read
may carry either sign and leading zeros; it is valued only up to `Numeral.digitLimit` digits.

Main definitions:

* `Text.decimal`: an integer as text;
* `Numeral.read?`: the sign and digits of a text that is a numeral;
* `Numeral.value`: the integer a numeral stands for.
-/

namespace PathSelector

namespace Text

/-- An integer in decimal, without leading zeros. -/
def decimal : Int → Text
  | .ofNat n => Nat.toDigits 10 n
  | .negSucc n => '-' :: Nat.toDigits 10 (n + 1)

end Text

/-- A numeral: its sign and its digits, most significant first. -/
structure Numeral where
  negative : Bool
  digits : Text
deriving DecidableEq

/-- The refusal to value a numeral of too many digits. -/
structure DigitLimitExceeded where
  /-- The number of digits of the numeral, leading zeros included. -/
  count : Nat
deriving DecidableEq

namespace Numeral

/-- The most digits a numeral may have to be valued. -/
def digitLimit : Nat := 4300

/-- The numeral of the given sign whose digits are the text, if it is one or more digits. -/
def ofDigits? (negative : Bool) (digits : Text) : Option Numeral :=
  if digits ≠ [] ∧ digits.all Char.isDigit then some ⟨negative, digits⟩ else none

/-- A text as a numeral, if it is one: an optional sign and one or more digits. -/
def read? : Text → Option Numeral
  | '+' :: digits => ofDigits? false digits
  | '-' :: digits => ofDigits? true digits
  | text => ofDigits? false text

/-- The number that the digits stand for. -/
def magnitude (n : Numeral) : Nat := Nat.ofDigitChars 10 n.digits 0

/-- The integer that the numeral stands for. -/
def toInt (n : Numeral) : Int := if n.negative then -(n.magnitude : Int) else n.magnitude

/-- The integer that the numeral stands for, unless it has too many digits. -/
def value (n : Numeral) : Except DigitLimitExceeded Int :=
  if n.digits.length ≤ digitLimit then .ok n.toInt else .error ⟨n.digits.length⟩

end Numeral

/-- What the user is told about a numeral of too many digits. -/
def DigitLimitExceeded.message (e : DigitLimitExceeded) : Text :=
  "Exceeds the limit (4300 digits) for integer string conversion: value has ".toList ++
    Nat.toDigits 10 e.count ++
    " digits; use sys.set_int_max_str_digits() to increase the limit".toList

end PathSelector
