import PathSelector.CommandLine.Arguments
import PathSelector.CommandLine.Canonical
import PathSelector.CommandLine.Inspection
import PathSelector.CommandLine.Report

/-!
# Running the program

The first operand of the program is a command, and the arguments behind it belong to the command.
All commands share the options for the kind of markup and for case. Arguments are checked in a
fixed order: the options as they are written, the kind of markup, the operand, the environment,
and at last whether operands are left over.

Main definitions:

* `Environment`: what a run can see besides its arguments;
* `Program.run`: what a run shows.
-/

namespace PathSelector

/-- What stands at a path. -/
inductive PathEntry where
  | missing
  | directory
  | file (content : ByteArray)

/-- What a run can see besides its arguments. -/
structure Environment where
  /-- The environment variable for case sensitivity, if it is set. -/
  caseVariable : Option Text := none
  /-- What stands at each path. -/
  entry : Text → PathEntry := fun _ => .missing

/-- Why a run ends without an outcome. -/
inductive RunError where
  /-- The arguments are wrong. -/
  | usage (error : UsageError)
  /-- A selector could not be compiled. -/
  | breakdown (cause : Breakdown)
  /-- The values in a conflict have no order. -/
  | unordered (values : UnorderedValues)
  /-- A path holds the character zero, which no path can. -/
  | zeroInPath
  /-- A file is not encoded in UTF-8. -/
  | notUtf8
deriving DecidableEq

/-- What the user is told about a run that ends without an outcome, if there is a wording. -/
def RunError.message? : RunError → Option Text
  | usage error => some error.message
  | breakdown cause => some cause.message
  | unordered values => some values.message
  | zeroInPath => some "embedded null byte".toList
  | notUtf8 => none

namespace Program

/-- The line that tells the version. -/
def versionLine : Text := "markupsel, version 0.1.0".toList

/-! ### Options -/

/-- The settings in front of the command. -/
inductive GlobalSetting where
  | verbose
  | version
deriving DecidableEq

/-- The options in front of the command. -/
def globalOptions : OptionTable GlobalSetting where
  long := [("--version".toList, .flag .version), ("--verbose".toList, .flag .verbose)]
  short := [('v', .verbose)]
  interspersed := false

/-- The settings of a command. -/
inductive CommandSetting where
  | mode (word : Text)
  | caseSensitive (flag : Bool)
deriving DecidableEq

/-- The options of every command. -/
def commandOptions : OptionTable CommandSetting where
  long :=
    [("--mode".toList, .valued .mode), ("--case-sensitive".toList, .flag (.caseSensitive true)),
      ("--case-insensitive".toList, .flag (.caseSensitive false))]
  short := []
  interspersed := true

/-- The last kind of markup among the settings, which need not be one. -/
def lastMode? (settings : List CommandSetting) : Option Text :=
  settings.reverse.findSome? fun
    | .mode word => some word
    | .caseSensitive _ => none

/-- The last choice about case among the settings. -/
def lastCase? (settings : List CommandSetting) : Option Bool :=
  settings.reverse.findSome? fun
    | .caseSensitive flag => some flag
    | .mode _ => none

/-- The kind of markup that the settings choose. -/
def mode (settings : List CommandSetting) : Except UsageError MarkupMode :=
  match lastMode? settings with
  | none => .ok .html
  | some word => (MarkupMode.ofWord word).mapError fun _ => .badMode word

/-- The words for true. -/
def trueWords : List Text := ["1", "true", "t", "yes", "y", "on"].map String.toList

/-- The words for false; blanks alone mean false too. -/
def falseWords : List Text := ["", "0", "false", "f", "no", "n", "off"].map String.toList

/-- The choice about case that the environment makes; an empty variable makes none. -/
def environmentCase (setting : Option Text) : Except UsageError (Option Bool) :=
  match setting with
  | none | some [] => .ok none
  | some value =>
    let word := Text.lower (Text.trim value)
    if word ∈ trueWords then .ok (some true)
    else if word ∈ falseWords then .ok (some false)
    else .error (.badTruthValue value)

/-- The choice about case: that of the settings or else that of the environment. -/
def caseChoice (environment : Environment) (settings : List CommandSetting) :
    Except UsageError (Option Bool) :=
  match lastCase? settings with
  | some flag => .ok (some flag)
  | none => environmentCase environment.caseVariable

/-! ### Commands -/

/-- The commands of the program. -/
inductive Command where
  /-- Print canonical forms. -/
  | compile
  /-- Show the levels of a selector. -/
  | inspect
  /-- Check a file of selectors. -/
  | validate
deriving DecidableEq

namespace Command

/-- The name that calls a command. -/
def name : Command → Text
  | .compile => "compile".toList
  | .inspect => "inspect".toList
  | .validate => "validate".toList

/-- The command that a name calls. -/
def ofName? (name : Text) : Option Command :=
  [compile, inspect, validate].find? (·.name = name)

/-- The name of the operand in messages. -/
def operandName : Command → Text
  | .compile => "SELECTORS...".toList
  | .inspect => "SELECTOR".toList
  | .validate => "SELECTOR_FILE".toList

end Command

/-- The last component of a path. -/
def baseName (path : Text) : Text := (path.reverse.takeWhile (· ≠ '/')).reverse

/-- What the operands of a command ask for. -/
inductive Task where
  | print (selectors : List Text)
  | display (selector : Text)
  | check (path : Text) (content : ByteArray)

/-- The task of a command with at least one operand, and the operands left over. -/
def Command.task (environment : Environment) (first : Text) (others : List Text) :
    Command → Except RunError (Task × List Text)
  | .compile => .ok (.print (first :: others), [])
  | .inspect => .ok (.display first, others)
  | .validate =>
    if '\x00' ∈ first then .error .zeroInPath
    else
      match environment.entry first with
      | .missing => .error (.usage (.noSuchFile first))
      | .directory => .error (.usage (.isDirectory first))
      | .file content => .ok (.check first content, others)

/-- The text that some bytes encode in UTF-8. -/
def decode? (bytes : ByteArray) : Option Text := (String.fromUTF8? bytes).map String.toList

/-- What a run with a task shows. -/
def Task.outcome (session : Session) : Task → Except RunError Outcome
  | .print selectors => (Canonical.outcome session selectors).mapError .breakdown
  | .display selector => (Inspection.outcome session selector).mapError .breakdown
  | .check path content =>
    match decode? content with
    | none => .error .notUtf8
    | some text =>
      match Report.ofText session text with
      | .error (.breakdown cause) => .error (.breakdown cause)
      | .error (.unordered values) => .error (.unordered values)
      | .ok report => .ok (report.outcome session (baseName path))

/-- What a command shows when it is given some arguments. -/
def Command.run (environment : Environment) (verbose : Bool) (command : Command)
    (arguments : List Text) : Except RunError Outcome := do
  let ⟨settings, operands⟩ ← (Arguments.parse commandOptions arguments).mapError RunError.usage
  let mode ← (Program.mode settings).mapError RunError.usage
  let (task, others) ←
    match operands with
    | [] => .error (.usage (.missingArgument command.operandName))
    | first :: others => command.task environment first others
  let caseSensitive ← (caseChoice environment settings).mapError RunError.usage
  if others = [] then
    task.outcome ⟨Config.resolve mode caseSensitive, verbose⟩
  else .error (.usage (.extraArguments others))

/-! ### The program -/

/-- What a run shows that is asked for the version. -/
def versionOutcome : Outcome := ⟨[.out versionLine], 0⟩

/-- What a run shows when it is given a name that is no command. A name that looks like an option
is read as one once more. -/
def unknownCommand (name : Text) (arguments : List Text) : Except RunError Outcome :=
  let refusal := .error (.usage (.unknownCommand name))
  if name.head? = some '-' then
    match Arguments.parse globalOptions (name :: arguments) with
    | .error error => .error (.usage error)
    | .ok ⟨settings, _⟩ => if .version ∈ settings then .ok versionOutcome else refusal
  else refusal

/-- What a run of the program shows. -/
def run (environment : Environment) (arguments : List Text) : Except RunError Outcome :=
  match Arguments.parse globalOptions arguments with
  | .error error => .error (.usage error)
  | .ok ⟨settings, operands⟩ =>
    if .version ∈ settings then .ok versionOutcome
    else
      match operands with
      | [] => .error (.usage .missingCommand)
      | name :: rest =>
        match Command.ofName? name with
        | none => unknownCommand name rest
        | some command => command.run environment (.verbose ∈ settings) rest

/-- The path that a run looks at, if its arguments ask to check a file. -/
def pathOperand? (arguments : List Text) : Option Text :=
  match Arguments.parse globalOptions arguments with
  | .ok ⟨_, name :: rest⟩ =>
    match Command.ofName? name, Arguments.parse commandOptions rest with
    | some .validate, .ok ⟨_, path :: _⟩ => some path
    | _, _ => none
  | _ => none

end Program

end PathSelector
