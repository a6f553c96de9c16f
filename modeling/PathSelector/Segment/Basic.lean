import PathSelector.Text.Blank

/-!
# Segments

A segment is one level of a selector as it is written: its slashes, its name and its bracketed
texts. What these mean is settled when the level is built from them.
-/

namespace PathSelector

/-- The written parts of one level. -/
structure Segment where
  /-- The slashes in front. -/
  lead : Text
  /-- The name, possibly with a shorthand, or nothing. -/
  name : Text := []
  /-- The texts between the brackets, in order. -/
  bodies : List Text := []
deriving DecidableEq

namespace Segment

/-- A text between brackets. -/
def bracketed (body : Text) : Text := '[' :: body ++ [']']

/-- The segment as it is written. -/
def render (segment : Segment) : Text :=
  segment.lead ++ segment.name ++ segment.bodies.flatMap bracketed

/-- Whether a character may stand in a name: it is neither blank nor a slash or a bracket. -/
def isNameChar (c : Char) : Bool := !(c == '/' || c == '[' || c == ']' || Text.isBlank c)

end Segment

end PathSelector
