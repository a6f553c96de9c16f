import PathSelector.Config

/-!
# What a run of the program shows

A run writes lines to its two outputs and ends with an exit code. With logging on, each compiled
selector is logged on the error output.
-/

namespace PathSelector

/-- A line that the program writes. -/
inductive OutputLine where
  /-- A line of the standard output. -/
  | out (text : Text)
  /-- A line of the error output. -/
  | err (text : Text)
deriving DecidableEq

/-- What a run shows: its lines in order and its exit code. -/
structure Outcome where
  lines : List OutputLine := []
  exitCode : Nat := 0
deriving DecidableEq

/-- How a run compiles selectors. -/
structure Session where
  config : Config
  /-- Whether compiled selectors are logged. -/
  verbose : Bool := false
deriving DecidableEq

namespace Session

/-- The log of a selector that was compiled into a chain. -/
def log (session : Session) (selector : Text) (chain : Chain) : List OutputLine :=
  if session.verbose then
    [.err <|
      "DEBUG markupsel.compiler: Compiled selector ".toList ++ Text.quoted selector ++
        " (case_sensitive=".toList ++
        (if session.config.caseSensitive then "True" else "False").toList ++ ") into ".toList ++
        Nat.toDigits 10 chain.length ++ " level(s)".toList]
  else []

/-- The chain of a selector, or the reason why its form is refused. Only a breakdown is not taken
for an answer about the selector. -/
def compile (session : Session) (selector : Text) : Except Breakdown (Except Reason Chain) :=
  match Chain.parse session.config.caseSensitive selector with
  | .ok chain => .ok (.ok chain)
  | .error (.malformed reason) => .ok (.error reason)
  | .error (.breakdown cause) => .error cause

/-- The line about a selector whose form is refused. -/
def complaint (selector : Text) (reason : Reason) : OutputLine :=
  .err ("Syntax error: ".toList ++ SelectorError.malformedMessage selector reason)

end Session

end PathSelector
