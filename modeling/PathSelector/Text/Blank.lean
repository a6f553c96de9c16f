import PathSelector.Text.CodeRange

/-!
# Blank characters and trimming

The blank characters are the space, the tab and line controls, the four information separators
and the space, line and paragraph separators of Unicode. Trimming drops them from the ends of a
text and leaves those inside it.

Main statement: a text that neither starts nor ends with a blank is its own trim
(`trim_eq_self`).
-/

namespace PathSelector

namespace Text

/-- The blank characters, as runs of code points. -/
def blankTable : List CodeRange :=
  [⟨0x09, 0x0D⟩, ⟨0x1C, 0x20⟩, ⟨0x85, 0x85⟩, ⟨0xA0, 0xA0⟩, ⟨0x1680, 0x1680⟩, ⟨0x2000, 0x200A⟩,
    ⟨0x2028, 0x2029⟩, ⟨0x202F, 0x202F⟩, ⟨0x205F, 0x205F⟩, ⟨0x3000, 0x3000⟩]

/-- Whether a character is blank. -/
def isBlank (c : Char) : Bool := CodeRange.covers blankTable c.toNat

theorem blankTable_ascending : CodeRange.Ascending blankTable := by decide

/-- A character is blank when its code point lies in a run of the table. -/
theorem isBlank_iff {c : Char} :
    isBlank c = true ↔ ∃ r ∈ blankTable, r.contains c.toNat = true :=
  CodeRange.covers_iff blankTable_ascending c.toNat

/-- The text from its first character that is not blank. -/
def trimStart (text : Text) : Text := text.dropWhile isBlank

/-- The text up to its last character that is not blank. -/
def trimEnd (text : Text) : Text := (text.reverse.dropWhile isBlank).reverse

/-- The text without the blank characters at its two ends. -/
def trim (text : Text) : Text := trimEnd (trimStart text)

/-- The number of blank characters in front of the text. -/
def indent (text : Text) : Nat := (text.takeWhile isBlank).length

/-- The leading blanks and what follows them make up the text. -/
theorem indent_add_length_trimStart (text : Text) :
    indent text + (trimStart text).length = text.length := by
  rw [indent, trimStart, ← List.length_append, List.takeWhile_append_dropWhile]

/-- A text with no blank character at either end is left as it is. -/
theorem trim_eq_self {text : Text} (hfirst : ∀ c, text.head? = some c → isBlank c = false)
    (hlast : ∀ c, text.getLast? = some c → isBlank c = false) : trim text = text := by
  have hstart : trimStart text = text := by
    cases text with
    | nil => rfl
    | cons c rest => simp [trimStart, hfirst c rfl]
  rw [trim, hstart, trimEnd]
  cases hrev : text.reverse with
  | nil => simpa using hrev.symm
  | cons c rest =>
    have hc : isBlank c = false := hlast c (by simp [List.getLast?_eq_head?_reverse, hrev])
    rw [List.dropWhile_cons_of_neg (by simp [hc]), ← hrev, List.reverse_reverse]

end Text

end PathSelector
