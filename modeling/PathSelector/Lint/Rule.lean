import PathSelector.Lint.Finding

/-!
# The built-in rules

Each rule looks at one level at a time and is told whether it is the last. What it finds in a
chain is what it finds at the levels, in order, with their positions.

Main definitions:

* `Rule.atLevel`: what a rule finds at one level;
* `Rule.findings`: what a rule finds in a chain;
* `Rule.check`: the diagnostics of a rule.
-/

namespace PathSelector

/-! ### Index-shaped names -/

/-- A name without the sign of comparison that may stand in front. -/
def Index.withoutSign : Text → Text
  | '<' :: bound | '>' :: bound => bound
  | text => text

/-- A text without the one line feed that may stand at its end. -/
def Index.withoutFinalNewline (text : Text) : Text :=
  if text.getLast? = some '\n' then text.dropLast else text

/-- Whether a name looks like a number or a bound: an optional sign of comparison, blanks and a
numeral, with one line feed behind it or none. -/
def Index.isShaped (name : Text) : Bool :=
  (Numeral.read? (withoutFinalNewline (Text.trimStart (withoutSign name)))).isSome

/-! ### Conflicting conditions -/

namespace Conflict

/-- The conditions on one attribute. -/
def conditionsOn (name : Text) (conditions : List Condition) : List Condition :=
  conditions.filter (·.name = name)

/-- The attributes of some conditions, each once, in the order of their first appearance. -/
def names (conditions : List Condition) : List Text := (conditions.map (·.name)).eraseDups

/-- Whether some condition asks for absence and another one needs the attribute. -/
def presenceClash (conditions : List Condition) : Bool :=
  conditions.any (·.operator = .absent) && conditions.any (·.operator.requiresAttribute)

/-- The values that the conditions ask the attribute to equal, each once. -/
def equalled (conditions : List Condition) : List (Option Text) :=
  ((conditions.filter (·.operator = .equals)).map (·.value)).eraseDups

/-- The conflict between conditions on one attribute, if they can never hold together. -/
def of? (conditions : List Condition) : Option Conflict :=
  if presenceClash conditions then some .presence
  else if 1 < (equalled conditions).length then
    some (.values (((equalled conditions).filterMap id).mergeSort Text.notBehind))
  else none

/-- Whether conditions on one attribute conflict over a value and over the lack of one, between
which there is no order. -/
def unordered (conditions : List Condition) : Bool :=
  !presenceClash conditions && decide (1 < (equalled conditions).length) &&
    decide (none ∈ equalled conditions)

end Conflict

/-! ### Repeated conditions -/

/-- The conditions that equal one before them or one of `seen`, in order. -/
def Condition.repetitions (seen : List Condition) : List Condition → List Condition
  | [] => []
  | condition :: rest =>
    if condition ∈ seen then condition :: repetitions (condition :: seen) rest
    else repetitions (condition :: seen) rest

/-! ### Rules -/

namespace Rule

/-- What a rule finds at a level that is the last of its chain or not. -/
def atLevel (rule : Rule) (level : Level) (isLast : Bool) : List Finding :=
  match rule with
  | indexShapedAttribute =>
    (level.conditions.filter fun c => c.operator = .present && Index.isShaped c.name).map
      fun c => .indexShaped c.name
  | textLevelLast => if level.isText && !isLast then [.textNotLast level] else []
  | textLevelConditions =>
    if level.isText && !level.conditions.isEmpty then [.textWithConditions level] else []
  | conflictingConditions =>
    (Conflict.names level.conditions).filterMap fun name =>
      (Conflict.of? (Conflict.conditionsOn name level.conditions)).map (.conflict name level)
  | duplicateConditions =>
    (Condition.repetitions [] level.conditions).map (.repeated · level)

/-- What a rule finds in a chain, the first level of which has the given position. -/
def findingsFrom (rule : Rule) : (position : Nat) → Chain → List (Nat × Finding)
  | _, [] => []
  | position, level :: rest =>
    (rule.atLevel level rest.isEmpty).map (position, ·) ++ findingsFrom rule (position + 1) rest

/-- What a rule finds in a chain, with the positions of the levels. -/
def findings (rule : Rule) (chain : Chain) : List (Nat × Finding) := rule.findingsFrom 0 chain

/-- The diagnostics of a rule. -/
def report (rule : Rule) (chain : Chain) : List Diagnostic :=
  (rule.findings chain).map fun (position, finding) => finding.diagnostic position

end Rule

/-- Whether a level asks an attribute to equal both a value and the lack of one, and nothing
worse is wrong with that attribute. -/
def Level.hasUnorderedConflict (level : Level) : Bool :=
  (Conflict.names level.conditions).any fun name =>
    Conflict.unordered (Conflict.conditionsOn name level.conditions)

/-- The refusal to put a value and the lack of one in order. -/
structure UnorderedValues where
deriving DecidableEq

/-- What the user is told about values without an order. -/
def UnorderedValues.message (_ : UnorderedValues) : Text :=
  "'<' not supported between instances of 'str' and 'NoneType'".toList

/-- The diagnostics of a rule, unless the values in a conflict it reports have no order. -/
def Rule.check (rule : Rule) (chain : Chain) : Except UnorderedValues (List Diagnostic) :=
  if rule = .conflictingConditions ∧ chain.any Level.hasUnorderedConflict then .error {}
  else .ok (rule.report chain)

end PathSelector
