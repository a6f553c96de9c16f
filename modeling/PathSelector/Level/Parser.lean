import PathSelector.Level.Basic
import PathSelector.Modifiers
import PathSelector.Segment.Scanner

/-!
# Reading a level

A level is built from its segment: the slashes give the axis, the name gives the target and the
shorthand, and the bracketed texts give the conditions and the index. A shorthand that stands for
a condition comes before the bracketed conditions.

Main definitions:

* `LevelName.split`: a name without its shorthand, and the shorthand;
* `Target.ofPath`: the target of a name without its shorthand;
* `Level.ofSegment`: the level of a segment;
* `Level.parse`: the level written by a text;
* `Modifiers.parse`: the modifiers written by a text.
-/

namespace PathSelector

/-- The name of a level in its two parts. -/
structure LevelName where
  /-- What stands in front of the shorthand. -/
  path : Text
  /-- The shorthand with its value, if there is one. -/
  shorthand : Option (Shorthand × Text) := none
deriving DecidableEq

namespace LevelName

/-- The kinds of shorthand whose mark occurs in the name. -/
def marks (name : Text) : List Shorthand := Shorthand.all.filter (·.mark ∈ name)

/-- The value of a shorthand of the given kind in the name, from the first mark to the end. -/
def valueOf (kind : Shorthand) (name : Text) : Text := (Text.after? kind.mark name).getD []

/-- A name cut at its shorthand. The value becomes a quoted attribute value, unless it is a
reference, and then holds one kind of quote at most. -/
def split (name : Text) : Except Reason LevelName :=
  match marks name with
  | [] => .ok ⟨name, none⟩
  | [kind] =>
    let value := valueOf kind name
    if value.all Text.isBlank then .error (.emptyShorthand kind name)
    else if kind ≠ .reference ∧ Text.singleQuote ∈ value ∧ Text.doubleQuote ∈ value then
      .error (.mixedQuotes kind name)
    else .ok ⟨Text.upTo kind.mark name, some (kind, value)⟩
  | _ => .error .severalShorthands

/-- The condition that the shorthand stands for: the attribute it is named after equals its
value. -/
def conditions (name : LevelName) : List Condition :=
  match name.shorthand with
  | none | some (.reference, _) => []
  | some (kind, value) => [⟨kind.label, .equals, some value⟩]

/-- The fragment that the shorthand refers to. -/
def reference (name : LevelName) : Option Text :=
  match name.shorthand with
  | some (.reference, value) => some value
  | _ => none

end LevelName

namespace Target

/-- The name of elements that the part of a name in front of the shorthand gives, if any. -/
def pathName? (caseSensitive : Bool) (path : Text) : Option Text :=
  if path = textWord ∨ path.all Text.isBlank ∨ path = wildcard then none
  else some (Text.fold caseSensitive path)

/-- The target that the part of a name in front of the shorthand stands for. -/
def ofPath (caseSensitive : Bool) (path : Text) : Except TargetConflict Target :=
  ofParts (path = textWord) (pathName? caseSensitive path)

/-- The parts of a target do not conflict, as the word for text nodes names no elements. -/
theorem ofPath_eq (caseSensitive : Bool) (path : Text) :
    ofPath caseSensitive path = .ok
      (if path = textWord then .text
        else if path.all Text.isBlank ∨ path = wildcard then .any
        else .element (Text.fold caseSensitive path)) := by
  unfold ofPath pathName?
  by_cases htext : path = textWord
  · simp only [htext, true_or, if_true, decide_true, ofParts]
  · by_cases hany : path.all Text.isBlank ∨ path = wildcard <;>
      simp only [htext, hany, or_true, or_false, if_true, if_false, decide_false, ofParts]

end Target

namespace Level

/-- The level that a segment writes. -/
def ofSegment (caseSensitive : Bool) (segment : Segment) : Except Fault Level :=
  match Axis.ofLead? segment.lead with
  | none => .error (.malformed (.badLead segment.lead))
  | some axis =>
    if segment.name = [] ∧ segment.bodies = [] then .error (.malformed .emptyLevel)
    else
      match LevelName.split segment.name with
      | .error reason => .error (.malformed reason)
      | .ok name =>
        match Modifiers.ofBodies caseSensitive segment.bodies with
        | .error fault => .error fault
        | .ok modifiers =>
          match Target.ofPath caseSensitive name.path with
          | .error conflict => .error (.breakdown (.targetConflict conflict))
          | .ok target =>
            .ok
              { caseSensitive
                axis
                target
                reference := name.reference
                index := modifiers.index
                conditions := name.conditions ++ modifiers.conditions }

/-- The level that a text writes, blanks around it aside. -/
def parse (caseSensitive : Bool) (text : Text) : Except Fault Level :=
  match Segment.parse 0 (Text.trim text) with
  | .error reason => .error (.malformed reason)
  | .ok segment => ofSegment caseSensitive segment

end Level

/-- The modifiers that a text writes, blanks around it aside. -/
def Modifiers.parse (caseSensitive : Bool) (text : Text) : Except Fault Modifiers :=
  match Segment.parseBodies 0 (Text.trim text) with
  | .error reason => .error (.malformed reason)
  | .ok bodies => ofBodies caseSensitive bodies

end PathSelector
