import PathSelector.Condition.Parser
import PathSelector.Index.Parser

/-!
# Modifiers of a level

Each bracketed text of a level is read as an index first and, when it is none, as conditions. An
index stands last.

Main definitions:

* `Modifier`: what one bracketed text means;
* `Modifiers`: the conditions of all bracketed texts of a level, in order, and its index;
* `Modifiers.ofBodies`: the modifiers of a level from its bracketed texts.
-/

namespace PathSelector

/-- What one bracketed text means. -/
inductive Modifier where
  | index (position : Index)
  | conditions (tests : List Condition)
deriving DecidableEq

/-- What the bracketed texts of a level mean together. -/
structure Modifiers where
  conditions : List Condition := []
  index : Option Index := none
deriving DecidableEq

/-- One bracketed text, as an index if it is one and as conditions otherwise. -/
def Modifier.parse (caseSensitive : Bool) (body : Text) : Except Fault Modifier :=
  match Index.parse? body with
  | .error limit => .error (.breakdown (.digitLimit limit))
  | .ok (some position) => .ok (.index position)
  | .ok none =>
    match Condition.parseAll caseSensitive body with
    | .error fault => .error fault
    | .ok tests => .ok (.conditions tests)

/-- The bracketed texts of one level. -/
def Modifiers.ofBodies (caseSensitive : Bool) : List Text → Except Fault Modifiers
  | [] => .ok {}
  | body :: rest =>
    match Modifier.parse caseSensitive body with
    | .error fault => .error fault
    | .ok (.index position) =>
      if rest = [] then .ok ⟨[], some position⟩ else .error (.malformed (.indexNotLast body))
    | .ok (.conditions tests) =>
      match ofBodies caseSensitive rest with
      | .error fault => .error fault
      | .ok modifiers => .ok ⟨tests ++ modifiers.conditions, modifiers.index⟩

end PathSelector
