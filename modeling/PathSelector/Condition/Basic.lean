import PathSelector.Text.Quoted

/-!
# Attribute conditions

A condition tests one attribute of an element: whether it is there, or how its value compares with
a given text.

Main definitions:

* `Operator`: the tests, with the token each is written by;
* `Condition`: an attribute name, a test and the text compared with;
* `Condition.render`: a condition as it is written between brackets.
-/

namespace PathSelector

/-- The tests on an attribute. -/
inductive Operator where
  | equals
  | notEquals
  | startsWith
  | endsWith
  | contains
  | present
  | absent
deriving DecidableEq

/-- The refusal of a token that writes no operator. -/
structure UnknownOperator where
  token : Text
deriving DecidableEq

/-- What the user is told about a token that writes no operator. -/
def UnknownOperator.message (e : UnknownOperator) : Text :=
  "Unknown operator: ".toList ++ Text.quoted e.token

namespace Operator

/-- Every operator. -/
def all : List Operator :=
  [.equals, .notEquals, .startsWith, .endsWith, .contains, .present, .absent]

/-- The token that writes the operator; presence is written by the name alone. -/
def token : Operator → Text
  | .equals => ['=']
  | .notEquals => ['!', '=']
  | .startsWith => ['^', '=']
  | .endsWith => ['$', '=']
  | .contains => ['*', '=']
  | .present => []
  | .absent => ['!']

/-- The name of the operator in reports. -/
def label : Operator → Text
  | .equals => "EQUALS".toList
  | .notEquals => "NOT_EQUALS".toList
  | .startsWith => "STARTS_WITH".toList
  | .endsWith => "ENDS_WITH".toList
  | .contains => "CONTAINS".toList
  | .present => "EXISTS".toList
  | .absent => "NOT_EXISTS".toList

/-- The operator that a token writes. -/
def ofToken (token : Text) : Except UnknownOperator Operator :=
  match all.find? (·.token = token) with
  | some operator => .ok operator
  | none => .error ⟨token⟩

/-- Whether the test fails on every element without attributes. -/
def requiresAttribute : Operator → Bool
  | .notEquals | .absent => false
  | _ => true

@[simp]
theorem ofToken_token (operator : Operator) : ofToken operator.token = .ok operator := by
  cases operator <;> rfl

/-- An operator is read from its token and from no other. -/
theorem ofToken_eq_ok_iff {token : Text} {operator : Operator} :
    ofToken token = .ok operator ↔ token = operator.token := by
  refine ⟨fun h => ?_, fun h => h ▸ ofToken_token operator⟩
  unfold ofToken at h
  split at h
  · next hfind =>
    obtain rfl := Except.ok.inj h
    have htoken := List.find?_some hfind
    exact (of_decide_eq_true htoken).symm
  · cases h

theorem token_inj {operator other : Operator} :
    operator.token = other.token ↔ operator = other := by
  rw [← ofToken_eq_ok_iff, ofToken_token, Except.ok.injEq]

end Operator

/-- A test on one attribute of an element. -/
structure Condition where
  /-- The attribute name, without the sign that introduces it. -/
  name : Text
  operator : Operator
  /-- The text compared with, without its quotes; tests of presence have none. -/
  value : Option Text := none
deriving DecidableEq

namespace Condition

/-- The word that joins two conditions, with the spaces around it. -/
def joint : Text := " and ".toList

/-- A value between quotes: double ones when it holds a single quote, single ones otherwise. -/
def enclose (value : Text) : Text :=
  let quote := if Text.singleQuote ∈ value then Text.doubleQuote else Text.singleQuote
  [quote] ++ value ++ [quote]

/-- The condition as it is written between brackets. -/
def render (c : Condition) : Text :=
  match c.operator, c.value with
  | .absent, _ => ['!', '@'] ++ c.name
  | _, none => ['@'] ++ c.name
  | operator, some value => ['@'] ++ c.name ++ operator.token ++ enclose value

end Condition

end PathSelector
