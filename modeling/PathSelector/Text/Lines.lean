import PathSelector.Text.CodeRange

/-!
# Lines of a text

A line ends at a line feed, a carriage return or the two together, and also at the vertical tab,
the form feed, three of the information separators, the next-line control and the line and
paragraph separators. A break at the very end does not open another, empty line.
-/

namespace PathSelector

namespace Text

/-- The text with each carriage return, and the line feed behind it if any, as one line feed. -/
def unifyNewlines : Text → Text
  | [] => []
  | '\r' :: '\n' :: rest => '\n' :: unifyNewlines rest
  | '\r' :: rest => '\n' :: unifyNewlines rest
  | c :: rest => c :: unifyNewlines rest

/-- The line breaks of a text without carriage returns, as runs of code points. -/
def lineBreakTable : List CodeRange :=
  [⟨0x0A, 0x0C⟩, ⟨0x1C, 0x1E⟩, ⟨0x85, 0x85⟩, ⟨0x2028, 0x2029⟩]

/-- Whether a line ends at the character. -/
def isLineBreak (c : Char) : Bool := CodeRange.covers lineBreakTable c.toNat

/-- The stretches between line breaks. -/
def splitLines : Text → List Text
  | [] => []
  | c :: rest =>
    if isLineBreak c then [] :: splitLines rest else consFirst c (splitLines rest)

/-- The lines of a text, without their breaks. -/
def lines (text : Text) : List Text := splitLines (unifyNewlines text)

end Text

end PathSelector
