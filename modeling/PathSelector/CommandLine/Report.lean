import PathSelector.CommandLine.Outcome
import PathSelector.Lint.Validation
import PathSelector.Text.Lines

/-!
# Checking a file of selectors

The `validate` command reads a file with one selector a line. Blank lines and lines that open with
a number sign do not count. Every other line is compiled and checked, and the report lists what is
wrong with its numbers.

Main definitions:

* `Report.selectors`: the lines that count, with their numbers;
* `Report.ofText`: the report on a text;
* `Report.count`: how many things of a severity it says;
* `Report.outcome`: the lines and the exit code.
-/

namespace PathSelector

/-- What is said about one selector. -/
inductive Verdict where
  /-- Its form is wrong. -/
  | refused (reason : Reason)
  /-- It compiles, and the rules have something to say about its chain. -/
  | compiled (chain : Chain) (diagnostics : List Diagnostic)
deriving DecidableEq

/-- One selector of a file, the number of its line, and what is said about it. -/
structure ReportEntry where
  line : Nat
  selector : Text
  verdict : Verdict
deriving DecidableEq

/-- What is said about the selectors of a file, in the order of their lines. -/
abbrev Report := List ReportEntry

/-- Why there is no report on a file. -/
inductive ReportError where
  /-- A selector could not be compiled. -/
  | breakdown (cause : Breakdown)
  /-- The values in a conflict have no order. -/
  | unordered (values : UnorderedValues)
deriving DecidableEq

namespace ReportEntry

/-- How serious each thing is that is said about the selector; a wrong form is an error. -/
def severities (entry : ReportEntry) : List Severity :=
  match entry.verdict with
  | .refused _ => [.error]
  | .compiled _ diagnostics => diagnostics.map (·.severity)

/-- What is said about the selector, one text for each line of the report. -/
def remarks (entry : ReportEntry) : List Text :=
  match entry.verdict with
  | .refused reason =>
    ["ERROR: ".toList ++ SelectorError.malformedMessage entry.selector reason]
  | .compiled _ diagnostics => diagnostics.map Diagnostic.render

/-- The lines of the report about the selector, each with the file and the number of the line. -/
def lines (file : Text) (entry : ReportEntry) : List Text :=
  entry.remarks.map fun remark =>
    file ++ [':'] ++ Nat.toDigits 10 entry.line ++ ": ".toList ++ remark

/-- The lines that a run writes about the selector. -/
def output (session : Session) (file : Text) (entry : ReportEntry) : List OutputLine :=
  (match entry.verdict with
    | .refused _ => []
    | .compiled chain _ => session.log entry.selector chain) ++
    (entry.lines file).map .out

end ReportEntry

namespace Report

/-- Whether a trimmed line holds a selector. -/
def counts (line : Text) : Bool := !line.isEmpty && line.head? != some '#'

/-- The lines of a text that hold selectors, trimmed, with their numbers counted from one. -/
def selectors (text : Text) : List (Nat × Text) :=
  (((Text.lines text).zipIdx 1).map fun (line, number) => (number, Text.trim line)).filter
    fun (_, line) => counts line

/-- What is said about the selector of a line. -/
def entry (session : Session) (line : Nat) (selector : Text) : Except ReportError ReportEntry :=
  match session.compile selector with
  | .error cause => .error (.breakdown cause)
  | .ok (.error reason) => .ok ⟨line, selector, .refused reason⟩
  | .ok (.ok chain) =>
    match chain.validate with
    | .error values => .error (.unordered values)
    | .ok diagnostics => .ok ⟨line, selector, .compiled chain diagnostics⟩

/-- The report on a text. -/
def ofText (session : Session) (text : Text) : Except ReportError Report :=
  (selectors text).mapM fun (line, selector) => entry session line selector

/-- The number of things of a severity in the whole report. -/
def count (severity : Severity) (report : Report) : Nat :=
  (report.flatMap ReportEntry.severities).count severity

/-- Whether there is nothing to say. -/
def isClean (report : Report) : Bool := (report.flatMap ReportEntry.severities).isEmpty

/-- The lines that end the output. -/
def closing (file : Text) (report : Report) : List Text :=
  let checked := Nat.toDigits 10 report.length
  if isClean report then
    ["OK: ".toList ++ file ++ " is valid (".toList ++ checked ++
      " selector(s), 0 diagnostics)".toList]
  else
    [[], "Summary: ".toList ++ checked ++ " selector(s), ".toList ++
      Nat.toDigits 10 (report.count .error) ++ " error(s), ".toList ++
      Nat.toDigits 10 (report.count .warning) ++ " warning(s), ".toList ++
      Nat.toDigits 10 (report.count .info) ++ " info".toList]

/-- What a run that checks a file shows. -/
def outcome (session : Session) (file : Text) (report : Report) : Outcome where
  lines := report.flatMap (·.output session file) ++ (closing file report).map .out
  exitCode := if report.count .error = 0 then 0 else 1

end Report

end PathSelector
