import PathSelector.Chain
import PathSelector.Lint.Diagnostic

/-!
# Findings

A finding is what a rule found at a level, before it is put into words. Its diagnostic adds the
wording, the severity and the hint.

Main definitions:

* `Rule`: the built-in rules, by the names that diagnostics give them;
* `Finding`: what a rule can find;
* `Finding.diagnostic`: a finding in words.
-/

namespace PathSelector

/-- The built-in rules. -/
inductive Rule where
  /-- An attribute whose presence is tested has a name that looks like an index. -/
  | indexShapedAttribute
  /-- Text nodes are selected by a level that is not the last. -/
  | textLevelLast
  /-- Text nodes are selected by a level that has conditions. -/
  | textLevelConditions
  /-- Conditions on one attribute can never hold together. -/
  | conflictingConditions
  /-- A condition is written twice. -/
  | duplicateConditions
deriving DecidableEq

namespace Rule

/-- The built-in rules, in the order in which they report. -/
def all : List Rule :=
  [.indexShapedAttribute, .textLevelLast, .textLevelConditions, .conflictingConditions,
    .duplicateConditions]

/-- The name of the rule in diagnostics. -/
def name : Rule → Text
  | .indexShapedAttribute => "check_index_shaped_attribute".toList
  | .textLevelLast => "check_text_selector_last".toList
  | .textLevelConditions => "check_text_selector_attributes".toList
  | .conflictingConditions => "check_conflicting_conditions".toList
  | .duplicateConditions => "check_duplicate_conditions".toList

/-- The severity of everything the rule reports: a repetition is harmless, whatever else is found
makes a level match nothing. -/
def severity : Rule → Severity
  | .duplicateConditions => .info
  | _ => .warning

/-- The hint that goes with everything the rule reports. -/
def fix : Rule → Text
  | .indexShapedAttribute => "Use an index between -2147483648 and 2147483647.".toList
  | .textLevelLast => "Move text() to the last level of the selector.".toList
  | .textLevelConditions => "Put the attribute conditions on the enclosing element level.".toList
  | .conflictingConditions => "Remove one of the conflicting conditions.".toList
  | .duplicateConditions => "Remove the repeated condition.".toList

end Rule

/-- Why conditions on one attribute can never hold together. -/
inductive Conflict where
  /-- The attribute has to be there and not to be there. -/
  | presence
  /-- The attribute has to equal several texts, which are given in order. -/
  | values (texts : List Text)
deriving DecidableEq

/-- The conflict in words. -/
def Conflict.text : Conflict → Text
  | .presence => "must both exist and not exist".toList
  | .values texts =>
    "must equal ".toList ++ List.intercalate " and ".toList (texts.map Text.quoted)

/-- What a rule found at a level. -/
inductive Finding where
  | indexShaped (name : Text)
  | textNotLast (level : Level)
  | textWithConditions (level : Level)
  | conflict (name : Text) (level : Level) (reason : Conflict)
  | repeated (condition : Condition) (level : Level)
deriving DecidableEq

namespace Finding

/-- The rule that makes such findings. -/
def rule : Finding → Rule
  | indexShaped _ => .indexShapedAttribute
  | textNotLast _ => .textLevelLast
  | textWithConditions _ => .textLevelConditions
  | conflict _ _ _ => .conflictingConditions
  | repeated _ _ => .duplicateConditions

/-- The finding in words. -/
def message : Finding → Text
  | indexShaped name =>
    "Modifier [".toList ++ name ++
      "] is not a valid index and was read as a test for an attribute named '".toList ++ name ++
      "'.".toList
  | textNotLast level =>
    "Level ".toList ++ level.render ++
      " selects text nodes but is followed by further levels.".toList
  | textWithConditions level =>
    "Level ".toList ++ level.render ++ " selects text nodes but has attribute conditions.".toList
  | conflict name level reason =>
    "Attribute '".toList ++ name ++ "' at level ".toList ++ level.render ++ [' '] ++ reason.text ++
      ['.']
  | repeated condition level =>
    "Condition ".toList ++ condition.render ++ " is repeated at level ".toList ++ level.render ++
      ['.']

/-- The diagnostic for a finding at the given position of a chain. -/
def diagnostic (position : Nat) (finding : Finding) : Diagnostic where
  rule := finding.rule.name
  severity := finding.rule.severity
  message := finding.message
  level := some position
  fix := some finding.rule.fix

end Finding

end PathSelector
