import PathSelector.CommandLine.Run

/-!
# The command line program

Reads the arguments, the environment variable and the file to check, and shows the outcome.
-/

namespace PathSelector

namespace Program

/-- What stands at a path of the file system. -/
def lookUp (path : String) : IO PathEntry := do
  try
    return .file (← IO.FS.readBinFile path)
  catch error =>
    match error with
    | .inappropriateType .. => return .directory
    | _ => return .missing

/-- Writes lines in order. -/
def writeLines (lines : List OutputLine) : IO Unit :=
  lines.forM fun
    | .out text => IO.println (String.ofList text)
    | .err text => IO.eprintln (String.ofList text)

/-- Runs the program in the environment of the process. -/
def runProcess (arguments : List Text) : IO UInt32 := do
  let caseVariable := (← IO.getEnv "MARKUPSEL_CASE_SENSITIVE").map String.toList
  let entry ←
    match pathOperand? arguments with
    | some path => lookUp (String.ofList path)
    | none => pure .missing
  match run ⟨caseVariable, fun _ => entry⟩ arguments with
  | .ok outcome =>
    writeLines outcome.lines
    return outcome.exitCode.toUInt32
  | .error error =>
    if let some message := error.message? then
      IO.eprintln ("Error: " ++ String.ofList message)
    match error with
    | .usage _ => return 2
    | _ => return 1

end Program

end PathSelector

/-- Runs the program. -/
def main (arguments : List String) : IO UInt32 :=
  PathSelector.Program.runProcess (arguments.map String.toList)
