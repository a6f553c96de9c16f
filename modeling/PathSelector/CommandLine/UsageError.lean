import PathSelector.Text.Quoted

/-!
# Wrong use of the command line

The ways in which the arguments of the program can be wrong, and their wording.
-/

namespace PathSelector

/-- Why the arguments of the program are refused. -/
inductive UsageError where
  /-- No command is given. -/
  | missingCommand
  | unknownCommand (name : Text)
  | unknownOption (name : Text)
  /-- An option that takes a value is the last argument. -/
  | missingValue (option : Text)
  /-- A value is given to an option that takes none. -/
  | unwantedValue (option : Text)
  /-- A required argument, given by the name that help texts use, is missing. -/
  | missingArgument (name : Text)
  /-- There are more arguments than the command takes; those left over are given. -/
  | extraArguments (arguments : List Text)
  /-- The value is no kind of markup. -/
  | badMode (value : Text)
  /-- The value of the environment variable for case sensitivity is no truth value. -/
  | badTruthValue (value : Text)
  | noSuchFile (path : Text)
  | isDirectory (path : Text)
deriving DecidableEq

namespace UsageError

/-- The beginning of the wording for a value that does not fit the parameter `name`. -/
def invalidValue (name : String) : Text :=
  "Invalid value for '".toList ++ name.toList ++ "': ".toList

/-- What the user is told about wrong arguments. -/
def message : UsageError → Text
  | missingCommand => "Missing command.".toList
  | unknownCommand name => "No such command ".toList ++ Text.quoted name ++ ['.']
  | unknownOption name => "No such option ".toList ++ Text.quoted name ++ ['.']
  | missingValue option => "Option ".toList ++ Text.quoted option ++ " requires an argument.".toList
  | unwantedValue option =>
    "Option ".toList ++ Text.quoted option ++ " does not take a value.".toList
  | missingArgument name => "Missing argument '".toList ++ name ++ "'.".toList
  | extraArguments arguments =>
    "Got unexpected extra argument".toList ++ (if arguments.length = 1 then [] else ['s']) ++
      " (".toList ++ List.intercalate [' '] arguments ++ [')']
  | badMode value =>
    invalidValue "--mode" ++ Text.quoted value ++ " is not one of 'html', 'xml'.".toList
  | badTruthValue value =>
    invalidValue "--case-sensitive" ++ Text.quoted value ++
      (" is not a valid boolean. Recognized values: " ++
        ", 0, 1, f, false, n, no, off, on, t, true, y, yes").toList
  | noSuchFile path =>
    invalidValue "SELECTOR_FILE" ++ "File ".toList ++ Text.quoted path ++ " does not exist.".toList
  | isDirectory path =>
    invalidValue "SELECTOR_FILE" ++ "File ".toList ++ Text.quoted path ++ " is a directory.".toList

end UsageError

end PathSelector
