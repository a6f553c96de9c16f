import PathSelector.Proofs.Chain.Compile

/-!
# Compiling without regard to case

The case of letters is settled last: a name is put into lowercase after every test on the text it
stands in has been made. So compiling without regard to case is compiling with regard to it and
lowering the names of the chain. A selector is refused either way or neither way, and for one and
the same reason.

Main definitions:

* `Target.lowered`, `Condition.lowered`, `Level.lowered`: the same part of a chain with its names
  in lowercase.

Main statements:

* `Condition.parse_false`, `Modifiers.ofBodies_false`, `Level.ofSegment_false`, `Chain.parse_false`:
  each stage without regard to case is the stage with regard to it, lowered;
* `Chain.compile_false_eq_map_lowered`: the same for errors that cite the selector, together with
  what lowering a level leaves as it is.
-/

namespace PathSelector

/-! ### Lowered names -/

/-- The target with the name of its elements in lowercase. -/
def Target.lowered : Target → Target
  | .any => .any
  | .text => .text
  | .element name => .element (Text.lower name)

/-- The condition with its name in lowercase. -/
def Condition.lowered (c : Condition) : Condition := { c with name := Text.lower c.name }

/-- What a bracketed text means, with the names of its conditions in lowercase. -/
def Modifier.lowered : Modifier → Modifier
  | .index position => .index position
  | .conditions tests => .conditions (tests.map Condition.lowered)

/-- The modifiers with the names of their conditions in lowercase. -/
def Modifiers.lowered (modifiers : Modifiers) : Modifiers :=
  { modifiers with conditions := modifiers.conditions.map Condition.lowered }

/-- The level without regard to case: its element name and the names of its conditions are in
lowercase, and all else is as it was. -/
def Level.lowered (level : Level) : Level :=
  { level with
    caseSensitive := false
    target := level.target.lowered
    conditions := level.conditions.map Condition.lowered }

@[simp]
theorem Target.isText_lowered (target : Target) : target.lowered.isText = target.isText := by
  cases target <;> rfl

@[simp]
theorem Level.requiresAttributes_lowered (level : Level) :
    level.lowered.requiresAttributes = level.requiresAttributes := by
  simp only [requiresAttributes, lowered, List.any_map]
  rfl

/-! ### The stages -/

theorem Target.ofPath_false (path : Text) :
    ofPath false path = (ofPath true path).map lowered := by
  rw [ofPath_eq, ofPath_eq]
  split_ifs <;> rfl

theorem Condition.parse_false (text : Text) :
    parse false text = (parse true text).map lowered := by
  simp only [parse, Text.fold_true, Text.fold_false]
  split_ifs with hatom hname
  · rfl
  · rfl
  · cases Operator.ofToken (Fragment.split (Text.trim text)).token with
    | error unknown => rfl
    | ok operator =>
      cases (Fragment.split (Text.trim text)).value with
      | none => rfl
      | some written => cases hvalue : unquote? written <;> simp only [hvalue] <;> rfl

theorem Condition.parseAll_false (body : Text) :
    parseAll false body = (parseAll true body).map (List.map lowered) :=
  mapM_eq_map_mapM parse_false (atoms body)

theorem Modifier.parse_false (body : Text) :
    Modifier.parse false body = (Modifier.parse true body).map lowered := by
  unfold Modifier.parse
  rw [Condition.parseAll_false]
  -- whether a text is an index does not hang on the case of names
  cases Index.parse? body with
  | error limit => rfl
  | ok found =>
    cases found with
    | some position => rfl
    | none => cases Condition.parseAll true body <;> rfl

theorem Modifiers.ofBodies_false (bodies : List Text) :
    ofBodies false bodies = (ofBodies true bodies).map lowered := by
  induction bodies with
  | nil => rfl
  | cons body rest ih =>
    rw [ofBodies, ofBodies, Modifier.parse_false, ih]
    cases Modifier.parse true body with
    | error fault => rfl
    | ok modifier =>
      cases modifier with
      | index position => by_cases hrest : rest = [] <;> simp only [hrest] <;> rfl
      | conditions tests =>
        cases ofBodies true rest with
        | error fault => rfl
        | ok modifiers =>
          simp only [Except.map, Modifier.lowered, lowered, List.map_append]

/-- The condition that a shorthand stands for is named in lowercase. -/
theorem LevelName.map_lowered_conditions (name : LevelName) :
    name.conditions.map Condition.lowered = name.conditions := by
  have hlabel : ∀ kind : Shorthand, Text.lower kind.label = kind.label := by
    intro kind
    cases kind <;> decide
  unfold conditions
  split
  · rfl
  · rfl
  · simp only [List.map_cons, List.map_nil, Condition.lowered, hlabel]

theorem Level.ofSegment_false (segment : Segment) :
    ofSegment false segment = (ofSegment true segment).map lowered := by
  unfold ofSegment
  rw [Modifiers.ofBodies_false]
  cases Axis.ofLead? segment.lead with
  | none => rfl
  | some axis =>
    by_cases hempty : segment.name = [] ∧ segment.bodies = []
    · simp only [hempty]
      rfl
    · simp only [hempty, if_false]
      cases LevelName.split segment.name with
      | error reason => rfl
      | ok name =>
        simp only [Target.ofPath_false]
        cases Modifiers.ofBodies true segment.bodies with
        | error fault => rfl
        | ok modifiers =>
          cases Target.ofPath true name.path with
          | error conflict => rfl
          | ok target =>
            simp only [Except.map, lowered, List.map_append, LevelName.map_lowered_conditions,
              Modifiers.lowered]

namespace Chain

/-- Cutting a selector into segments takes no regard to case, and each level is built as it is with
regard to case, but for its names. -/
theorem parse_false (selector : Text) :
    parse false selector = (parse true selector).map (List.map Level.lowered) := by
  rw [parse_eq_bind, parse_eq_bind, ← cut]
  cases cut selector with
  | error reason => rfl
  | ok segments => exact mapM_eq_map_mapM Level.ofSegment_false segments

/-- **Case matters to names only.** Without regard to case a selector has the outcome it has with
regard to case: the same error, or the same chain with its names in lowercase, in which the same
levels select text nodes and the same levels require attributes. -/
theorem compile_false_eq_map_lowered (selector : Text) :
    compile false selector = (compile true selector).map (List.map Level.lowered) ∧
      ∀ level : Level, level.lowered.isText = level.isText ∧
        level.lowered.requiresAttributes = level.requiresAttributes := by
  refine ⟨?_, fun level => ⟨Target.isText_lowered _, Level.requiresAttributes_lowered level⟩⟩
  rw [compile, compile, parse_false]
  cases parse true selector <;> rfl

example :
    compile false "/Part%Ref[@ID='X' and !@TEXT()][EVEN()]".toList =
      .ok [{ target := .element "part".toList
             reference := some "Ref".toList
             index := some ⟨.even, -1⟩
             conditions :=
               [⟨"id".toList, .equals, some "X".toList⟩, ⟨"text()".toList, .absent, none⟩] }] := by
  decide +kernel

end Chain

end PathSelector
