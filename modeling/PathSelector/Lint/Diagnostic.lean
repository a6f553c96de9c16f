import PathSelector.Text.Decimal

/-!
# Diagnostics

A diagnostic is what a rule has to say about a compiled selector: how serious it is, which level
it is about, and how to mend it.
-/

namespace PathSelector

/-- How serious a diagnostic is. -/
inductive Severity where
  | error
  | warning
  | info
deriving DecidableEq

namespace Severity

/-- Every severity. -/
def all : List Severity := [.error, .warning, .info]

/-- The word for the severity in reports. -/
def label : Severity → Text
  | .error => "ERROR".toList
  | .warning => "WARNING".toList
  | .info => "INFO".toList

end Severity

/-- What a rule has to say about a compiled selector. -/
structure Diagnostic where
  /-- The name of the rule. -/
  rule : Text
  severity : Severity
  message : Text
  /-- The position of the level it is about, counted from zero. -/
  level : Option Int := none
  /-- A hint how to mend it. -/
  fix : Option Text := none
deriving DecidableEq

namespace Diagnostic

/-- The diagnostic as one line of a report. -/
def render (d : Diagnostic) : Text :=
  let place :=
    match d.level with
    | none => []
    | some level => " level ".toList ++ Text.decimal level
  d.severity.label ++ place ++ " (".toList ++ d.rule ++ "): ".toList ++ d.message

end Diagnostic

end PathSelector
