import PathSelector.CommandLine.Outcome

/-!
# Showing the levels of a selector

The `inspect` command shows where each level of a selector searches, what it selects and which
conditions it has. For a selector whose form is wrong it points at the place, if there is one.
-/

namespace PathSelector

namespace Inspection

/-- The words for an axis. -/
def axisWords : Axis → Text
  | .anyDepth => "any level".toList
  | .child => "direct child".toList

/-- The properties of a level, as one line. -/
def properties (level : Level) : Text :=
  List.intercalate "  ".toList <|
    ["      axis=".toList ++ axisWords level.axis, "target=".toList ++ level.target.render] ++
      (level.reference.map ("reference=".toList ++ ·)).toList ++
      (level.index.map fun index => "index=".toList ++ index.render).toList ++
      (if level.requiresAttributes then ["requires_attributes".toList] else [])

/-- A condition, as one line. -/
def condition (c : Condition) : Text :=
  "      - ".toList ++ c.name ++ [' '] ++ c.operator.label ++
    (match c.value with
      | none => []
      | some value => ' ' :: Text.quoted value)

/-- The lines about the level at a position. -/
def level (position : Nat) (level : Level) : List Text :=
  ["  [".toList ++ Nat.toDigits 10 position ++ "] ".toList ++ level.render, properties level] ++
    level.conditions.map condition

/-- The lines about a selector and its chain. -/
def lines (config : Config) (selector : Text) (chain : Chain) : List Text :=
  ["Selector: ".toList ++ selector,
    "Case sensitive: ".toList ++ (if config.caseSensitive then "yes" else "no").toList,
    "Levels: ".toList ++ Nat.toDigits 10 chain.length, []] ++
    chain.zipIdx.flatMap fun (step, position) => level position step

/-- The lines that point at a column of a selector. -/
def pointer (selector : Text) (column : Nat) : List Text :=
  ["  ".toList ++ selector, "  ".toList ++ List.replicate (column - 1) ' ' ++ ['^']]

/-- The outcome for a selector. -/
def outcome (session : Session) (selector : Text) : Except Breakdown Outcome :=
  match session.compile selector with
  | .error cause => .error cause
  | .ok (.error reason) =>
    let place := (reason.column?.map (pointer selector)).getD []
    .ok ⟨Session.complaint selector reason :: place.map .err, 1⟩
  | .ok (.ok chain) =>
    .ok ⟨session.log selector chain ++ (lines session.config selector chain).map .out, 0⟩

end Inspection

end PathSelector
