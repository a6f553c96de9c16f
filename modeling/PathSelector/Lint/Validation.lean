import PathSelector.Lint.Rule

/-!
# Checking a compiled selector

A chain is checked by the built-in rules and then by the rules the caller adds. The strict check
refuses a chain that has diagnostics of the severity of errors.
-/

namespace PathSelector

namespace Chain

/-- All diagnostics of the built-in rules, then those of the `extra` rules. -/
def validate (chain : Chain) (extra : List (Chain → List Diagnostic) := []) :
    Except UnorderedValues (List Diagnostic) :=
  match Rule.all.mapM (·.check chain) with
  | .error unordered => .error unordered
  | .ok reports => .ok (reports.flatten ++ extra.flatMap (· chain))

end Chain

/-- Why the strict check refuses a chain. -/
inductive ValidationError where
  /-- The values in a conflict have no order. -/
  | unordered (values : UnorderedValues)
  /-- There are diagnostics of the severity of errors, given in order. -/
  | failed (errors : List Diagnostic)
deriving DecidableEq

/-- What the user is told about a refused chain. -/
def ValidationError.message : ValidationError → Text
  | unordered e => e.message
  | failed errors =>
    Nat.toDigits 10 errors.length ++ " selector error(s): ".toList ++
      List.intercalate "; ".toList (errors.map fun d => d.rule ++ ": ".toList ++ d.message)

/-- All diagnostics of a chain, if none of them is an error. -/
def Chain.validateStrictly (chain : Chain) (extra : List (Chain → List Diagnostic) := []) :
    Except ValidationError (List Diagnostic) :=
  match chain.validate extra with
  | .error unordered => .error (.unordered unordered)
  | .ok diagnostics =>
    let errors := diagnostics.filter (·.severity = .error)
    if errors = [] then .ok diagnostics else .error (.failed errors)

end PathSelector
