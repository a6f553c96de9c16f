import PathSelector.Condition.Basic
import PathSelector.Index.Basic

/-!
# Levels

A level is one step of a compiled selector: where to search, what to select there, and the
conditions a match has to meet.

Main definitions:

* `Axis`, `Target`: where a level searches and what it selects;
* `Level`: one step;
* `Level.render`: the canonical writing of a level.
-/

namespace PathSelector

/-- Where a level searches. -/
inductive Axis where
  /-- Among the direct children. -/
  | child
  /-- At any depth. -/
  | anyDepth
deriving DecidableEq

/-- What a level selects. -/
inductive Target where
  /-- Elements of every name. -/
  | any
  /-- Text nodes. -/
  | text
  /-- Elements of the given name. -/
  | element (name : Text)
deriving DecidableEq

/-- One step of a compiled selector. -/
structure Level where
  /-- Whether names are compared as written or in lowercase. -/
  caseSensitive : Bool := false
  axis : Axis := .child
  target : Target := .any
  /-- The fragment that the level refers to. -/
  reference : Option Text := none
  index : Option Index := none
  /-- The conditions that all have to hold, in the order they were written. -/
  conditions : List Condition := []
deriving DecidableEq

namespace Axis

/-- The slashes that write the axis. -/
def lead : Axis → Text
  | .child => ['/']
  | .anyDepth => ['/', '/']

/-- The axis that some slashes write. -/
def ofLead? : Text → Option Axis
  | ['/'] => some .child
  | ['/', '/'] => some .anyDepth
  | _ => none

@[simp]
theorem ofLead?_lead (axis : Axis) : ofLead? axis.lead = some axis := by cases axis <;> rfl

theorem ofLead?_eq_some_iff {lead : Text} {axis : Axis} :
    ofLead? lead = some axis ↔ lead = axis.lead := by
  constructor
  · intro h
    unfold ofLead? at h
    split at h <;> simp_all [Axis.lead]
    · subst h; rfl
    · subst h; rfl
  · rintro rfl
    exact ofLead?_lead axis

end Axis

/-- The refusal of a target that is both text nodes and elements of a name. -/
structure TargetConflict where
deriving DecidableEq

/-- What the user is told about a target that is both text nodes and elements of a name. -/
def TargetConflict.message (_ : TargetConflict) : Text :=
  "A text selector level cannot also name an element".toList

namespace Target

/-- The name that stands for text nodes. -/
def textWord : Text := "text()".toList

/-- The name that stands for elements of every name. -/
def wildcard : Text := ['*']

/-- The name that writes the target. -/
def render : Target → Text
  | .any => wildcard
  | .text => textWord
  | .element name => name

/-- The target given by whether text nodes are meant and by an element name. -/
def ofParts (isText : Bool) (name : Option Text) : Except TargetConflict Target :=
  match isText, name with
  | true, some _ => .error {}
  | true, none => .ok .text
  | false, some name => .ok (.element name)
  | false, none => .ok .any

/-- Whether text nodes are selected. -/
def isText (target : Target) : Bool := target = .text

/-- The name of the elements selected, if only those of one name are. -/
def elementName? : Target → Option Text
  | .element name => some name
  | _ => none

end Target

namespace Level

/-- Whether the level selects text nodes. -/
def isText (level : Level) : Bool := level.target.isText

/-- Whether the level selects elements of every name. -/
def isWildcard (level : Level) : Bool := level.target = .any

/-- Whether only elements that have attributes can meet the conditions. -/
def requiresAttributes (level : Level) : Bool := level.conditions.any (·.operator.requiresAttribute)

/-- The fragment reference as it is written. -/
def renderReference : Option Text → Text
  | none => []
  | some name => '%' :: name

/-- The conditions as they are written, all between one pair of brackets. -/
def renderConditions : List Condition → Text
  | [] => []
  | conditions => '[' :: List.intercalate Condition.joint (conditions.map Condition.render) ++ [']']

/-- The index as it is written. -/
def renderIndex : Option Index → Text
  | none => []
  | some index => index.render

/-- The canonical writing of a level. -/
def render (level : Level) : Text :=
  level.axis.lead ++ level.target.render ++ renderReference level.reference ++
    renderConditions level.conditions ++ renderIndex level.index

end Level

end PathSelector
