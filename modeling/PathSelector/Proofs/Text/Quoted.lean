import Mathlib.Algebra.Group.Nat.Defs
import PathSelector.Text.Quoted

/-!
# Quoted characters

Between quotes every character is shown in its own way, so a message that quotes a character tells
which one it was. The proof reads the code point back from what is shown.

Main statements:

* `Text.hexValue_hexadecimal`: hexadecimal digits are read back up to their number;
* `Text.shownCode_escaped`: the code point of a character is read back from what is shown of it;
* `Text.quoted_singleton_inj`: different characters are quoted differently.
-/

namespace PathSelector

namespace Text

/-- The number that hexadecimal digits write. -/
def hexValue (digits : Text) : Nat :=
  digits.foldl (fun value digit => value * 16 + hexDigits.idxOf digit) 0

theorem idxOf_hexDigits : ∀ n < 16, hexDigits.idxOf (hexDigits.getD n '0') = n := by decide

/-- The last digits of a number write the number up to the power that they leave out. -/
theorem hexValue_hexadecimal (width n : Nat) :
    hexValue (hexadecimal width n) = n % 16 ^ width := by
  induction width generalizing n with
  | zero => simp [hexadecimal, hexValue, Nat.mod_one]
  | succ width ih =>
    have hdigit := idxOf_hexDigits (n % 16) (Nat.mod_lt n (by decide))
    have hfront := ih (n / 16)
    rw [hexValue] at hfront
    rw [hexadecimal, hexValue, List.foldl_append, hfront, List.foldl_cons, List.foldl_nil, hdigit,
      Nat.pow_succ', Nat.mod_mul]
    omega

/-- The code point of the character of which the text is shown between quotes: itself, a letter or a
mark behind a backslash, or digits behind a backslash and the letter for their number. -/
def shownCode : Text → Nat
  | [] => 0
  | [c] => c.toNat
  | [_, c] =>
    if c = 'n' then '\n'.toNat else if c = 'r' then '\r'.toNat else if c = 't' then '\t'.toNat
    else c.toNat
  | _ :: _ :: digits => hexValue digits

theorem shownCode_hexadecimal (mark : Char) {width n : Nat} (hwidth : width ≠ 0)
    (hn : n < 16 ^ width) : shownCode ('\\' :: mark :: hexadecimal width n) = n := by
  have hne : hexadecimal width n ≠ [] := by
    intro hnil
    have hlength := length_hexadecimal width n
    rw [hnil] at hlength
    exact hwidth hlength.symm
  obtain ⟨digit, rest, hdigits⟩ := List.exists_cons_of_ne_nil hne
  have hvalue := hexValue_hexadecimal width n
  rw [Nat.mod_eq_of_lt hn] at hvalue
  rw [hdigits] at hvalue ⊢
  simpa [shownCode] using hvalue

/-- The code point of a character is read back from what is shown of it between quotes. -/
theorem shownCode_escaped {quote : Char} (hquote : isQuote quote = true) (c : Char) :
    shownCode (escaped quote c) = c.toNat := by
  have hquotes : quote = singleQuote ∨ quote = doubleQuote := by simpa [isQuote] using hquote
  unfold escaped
  split
  · next h =>
    -- the letters that stand for a control character are neither quotes nor the backslash
    rcases h with rfl | rfl
    · rcases hquotes with rfl | rfl <;> rfl
    · rfl
  split
  · next h => rw [h]; rfl
  split
  · next h => rw [h]; rfl
  split
  · next h => rw [h]; rfl
  split
  · rfl
  split
  · next h => exact shownCode_hexadecimal _ (by decide) h
  split
  · next h => exact shownCode_hexadecimal _ (by decide) h
  · exact shownCode_hexadecimal _ (by decide) c.val.toNat_lt

theorem isQuote_enclosingQuote (text : Text) : isQuote (enclosingQuote text) = true := by
  unfold enclosingQuote
  split <;> decide

/-- Different characters are quoted differently. -/
theorem quoted_singleton_inj {c d : Char} (h : quoted [c] = quoted [d]) : c = d := by
  have hshape : ∀ c, quoted [c] =
      enclosingQuote [c] :: (escaped (enclosingQuote [c]) c ++ [enclosingQuote [c]]) := by
    simp [quoted]
  rw [hshape, hshape] at h
  obtain ⟨hquote, hshown⟩ := List.cons.inj h
  rw [hquote] at hshown
  have hcode := congrArg shownCode (List.append_inj_left' hshown rfl)
  rw [shownCode_escaped (isQuote_enclosingQuote [d]),
    shownCode_escaped (isQuote_enclosingQuote [d])] at hcode
  exact Char.toNat_inj.mp hcode

end Text

end PathSelector
