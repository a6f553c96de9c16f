import PathSelector.Text.Printable

/-!
# Quoted texts

A text shown in a message stands between quotes, on one line and with every character visible.
The quotes are single ones unless the text holds a single quote and no double quote. Inside,
a backslash and the enclosing quote are preceded by a backslash, line feed, carriage return and tab
have letters of their own, and any other unprintable character is written by its code point in
hexadecimal, with two, four or eight digits by size.
-/

namespace PathSelector

namespace Text

/-- The quote a text is shown in: the double quote for a text that holds a single quote and no
double quote, the single quote otherwise. -/
def enclosingQuote (text : Text) : Char :=
  if singleQuote ∈ text ∧ doubleQuote ∉ text then doubleQuote else singleQuote

/-- The hexadecimal digits, smallest first. -/
def hexDigits : Text := "0123456789abcdef".toList

/-- The last `width` hexadecimal digits of a number. -/
def hexadecimal : (width : Nat) → Nat → Text
  | 0, _ => []
  | width + 1, n => hexadecimal width (n / 16) ++ [hexDigits.getD (n % 16) '0']

/-- A character as it is shown between quotes `quote`. -/
def escaped (quote c : Char) : Text :=
  if c = quote ∨ c = '\\' then ['\\', c]
  else if c = '\n' then ['\\', 'n']
  else if c = '\r' then ['\\', 'r']
  else if c = '\t' then ['\\', 't']
  else if isPrintable c then [c]
  else if c.toNat < 0x100 then '\\' :: 'x' :: hexadecimal 2 c.toNat
  else if c.toNat < 0x10000 then '\\' :: 'u' :: hexadecimal 4 c.toNat
  else '\\' :: 'U' :: hexadecimal 8 c.toNat

/-- The text between quotes, with every character visible. -/
def quoted (text : Text) : Text :=
  let quote := enclosingQuote text
  [quote] ++ text.flatMap (escaped quote) ++ [quote]

@[simp]
theorem length_hexadecimal (width n : Nat) : (hexadecimal width n).length = width := by
  induction width generalizing n with
  | zero => rfl
  | succ width ih => simp [hexadecimal, ih]

end Text

end PathSelector
