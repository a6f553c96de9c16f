import PathSelector.CommandLine.UsageError

/-!
# Options and operands

The arguments of a command are options, which open with a dash, and operands. A long option is
written by its name, a value given either behind an equals sign or as the next argument. Short
options without values may be written together behind one dash. The argument of two dashes alone
ends the options, and a dash alone is an operand.
-/

namespace PathSelector

/-- What an option means, and whether it takes a value. -/
inductive OptionMeaning (σ : Type) where
  | flag (setting : σ)
  | valued (setting : Text → σ)

/-- The options of a command. -/
structure OptionTable (σ : Type) where
  /-- The long options, dashes included. -/
  long : List (Text × OptionMeaning σ)
  /-- The short options, which take no value. -/
  short : List (Char × σ)
  /-- Whether options may stand behind the first operand. -/
  interspersed : Bool

/-- The settings and operands that some arguments give, both in order. -/
structure Arguments (σ : Type) where
  settings : List σ
  operands : List Text

namespace Arguments

variable {σ : Type}

/-- The argument that ends the options. -/
def terminator : Text := ['-', '-']

/-- Whether an argument is an option: it opens with a dash and is not a dash alone. -/
def isOption : Text → Bool
  | '-' :: _ :: _ => true
  | _ => false

/-- The arguments with one more setting in front. -/
def withSetting (setting : σ) (arguments : Arguments σ) : Arguments σ :=
  { arguments with settings := setting :: arguments.settings }

/-- The arguments with one more operand in front. -/
def withOperand (operand : Text) (arguments : Arguments σ) : Arguments σ :=
  { arguments with operands := operand :: arguments.operands }

/-- The settings of the short options written together. -/
def cluster (table : OptionTable σ) (letters : Text) : Except UsageError (List σ) :=
  letters.mapM fun letter =>
    match table.short.lookup letter with
    | some setting => .ok setting
    | none => .error (.unknownOption ['-', letter])

/-- The settings and operands of some arguments. -/
def parse (table : OptionTable σ) : List Text → Except UsageError (Arguments σ)
  | [] => .ok ⟨[], []⟩
  | argument :: rest =>
    if argument = terminator then .ok ⟨[], rest⟩
    else if !isOption argument then
      if table.interspersed then (parse table rest).map (withOperand argument)
      else .ok ⟨[], argument :: rest⟩
    else
      let name := Text.upTo '=' argument
      match table.long.lookup name, Text.after? '=' argument with
      | some (.flag setting), none => (parse table rest).map (withSetting setting)
      | some (.flag _), some _ => .error (.unwantedValue name)
      | some (.valued setting), some value => (parse table rest).map (withSetting (setting value))
      | some (.valued setting), none =>
        match rest with
        | [] => .error (.missingValue name)
        | value :: rest => (parse table rest).map (withSetting (setting value))
      | none, _ =>
        if terminator.isPrefixOf argument then .error (.unknownOption name)
        else
          match cluster table argument.tail with
          | .error unknown => .error unknown
          | .ok settings =>
            (parse table rest).map fun arguments =>
              { arguments with settings := settings ++ arguments.settings }

end Arguments

end PathSelector
