import PathSelector.Proofs.Chain.Compile

/-!
# Selectors of one level

A level and the modifiers of a level can be read by themselves, each by a grammar rule of its own.
Both agree with compiling: a text that opens with a slash is a level exactly when it compiles to
that level alone, and a text that opens with a bracket is modifiers exactly when it compiles,
behind one slash, to a level of every name with these modifiers and nothing else.

Main statements:

* `Level.parse_eq_ok_iff`, `Modifiers.parse_eq_ok_iff`: what it takes for a text to be read as a
  level and as modifiers;
* `Chain.parse_eq_singleton_iff`: a selector that opens with a slash compiles to one level exactly
  when it is read as that level;
* `Level.parse_slash_bracket_iff`: behind a slash, a text that opens with a bracket is a level
  exactly when it is modifiers;
* `Chain.compile_eq_singleton_iff`: both agreements, for errors that cite any selector.
-/

namespace PathSelector

/-! ### Levels and modifiers by themselves -/

/-- A text is read as a level when its trim is the writing of a segment of that level. -/
theorem Level.parse_eq_ok_iff {caseSensitive : Bool} {text : Text} {level : Level} :
    parse caseSensitive text = .ok level ↔
      ∃ segment : Segment, segment.WellFormed ∧ Text.trim text = segment.render ∧
        ofSegment caseSensitive segment = .ok level := by
  have hstages : parse caseSensitive text = .ok level ↔
      ∃ segment, Segment.parse 0 (Text.trim text) = .ok segment ∧
        ofSegment caseSensitive segment = .ok level := by
    unfold parse
    cases Segment.parse 0 (Text.trim text) <;> simp
  simp only [hstages, Segment.parse_eq_ok_iff, and_assoc]

/-- A text is read as modifiers when its trim is the writing of their bracketed texts. -/
theorem Modifiers.parse_eq_ok_iff {caseSensitive : Bool} {text : Text} {modifiers : Modifiers} :
    parse caseSensitive text = .ok modifiers ↔
      ∃ bodies : List Text, bodies ≠ [] ∧ (∀ body ∈ bodies, Segment.IsBody body) ∧
        Text.trim text = bodies.flatMap Segment.bracketed ∧
          ofBodies caseSensitive bodies = .ok modifiers := by
  have hstages : parse caseSensitive text = .ok modifiers ↔
      ∃ bodies, Segment.parseBodies 0 (Text.trim text) = .ok bodies ∧
        ofBodies caseSensitive bodies = .ok modifiers := by
    unfold parse
    cases Segment.parseBodies 0 (Text.trim text) <;> simp
  simp only [hstages, Segment.parseBodies_eq_ok_iff, and_assoc]

/-! ### Levels of brackets alone -/

namespace Segment

/-- A segment that opens with one slash and a bracket is that slash and its bracketed texts. -/
theorem WellFormed.eq_of_render {segment : Segment} {rest : Text} (h : segment.WellFormed)
    (hrest : rest.head? = some '[') (heq : '/' :: rest = segment.render) :
    segment = ⟨['/'], [], segment.bodies⟩ ∧ rest = segment.bodies.flatMap bracketed := by
  obtain ⟨lead, name, bodies⟩ := segment
  obtain ⟨c, lead, rfl⟩ := List.exists_cons_of_ne_nil h.lead_ne_nil
  simp only [render, List.cons_append, List.cons.injEq, List.append_assoc] at heq
  obtain ⟨rfl, rfl⟩ := heq
  -- the bracket is neither a slash nor part of a name, so it belongs to the bracketed texts
  obtain rfl : lead = [] := by
    cases lead with
    | nil => rfl
    | cons d lead =>
      obtain rfl : d = '[' := Option.some.inj hrest
      exact absurd (h.lead_slash '[' (by simp)) (by decide)
  obtain rfl : name = [] := by
    cases name with
    | nil => rfl
    | cons d name =>
      obtain rfl : d = '[' := Option.some.inj hrest
      exact absurd rfl (h.name_chars '[' (by simp)).2.1
  exact ⟨rfl, rfl⟩

theorem wellFormed_of_bodies {bodies : List Text} (h : ∀ body ∈ bodies, IsBody body) :
    WellFormed ⟨['/'], [], bodies⟩ :=
  ⟨by simp, by simp, by simp, h⟩

end Segment

namespace Level

/-- The child level of every name with the given modifiers. -/
def ofModifiers (caseSensitive : Bool) (modifiers : Modifiers) : Level where
  caseSensitive := caseSensitive
  index := modifiers.index
  conditions := modifiers.conditions

/-- One slash and bracketed texts write a level of their modifiers. -/
theorem ofSegment_bodies (caseSensitive : Bool) {bodies : List Text} (hne : bodies ≠ []) :
    ofSegment caseSensitive ⟨['/'], [], bodies⟩ =
      (Modifiers.ofBodies caseSensitive bodies).map (ofModifiers caseSensitive) := by
  have haxis : Axis.ofLead? ['/'] = some .child := rfl
  have hname : LevelName.split [] = .ok ⟨[], none⟩ := rfl
  simp only [ofSegment, haxis, hname, hne, and_false, if_false]
  cases Modifiers.ofBodies caseSensitive bodies <;> rfl

/-- Behind a slash, a text that opens with a bracket is a level exactly when it is modifiers, which
are all the level has. -/
theorem parse_slash_bracket_iff {caseSensitive : Bool} {text : Text} {level : Level}
    (h : (Text.trim text).head? = some '[') :
    parse caseSensitive ('/' :: Text.trim text) = .ok level ↔
      ∃ modifiers, Modifiers.parse caseSensitive text = .ok modifiers ∧
        level = ofModifiers caseSensitive modifiers := by
  have htrim : Text.trim ('/' :: Text.trim text) = '/' :: Text.trim text :=
    ((Text.tight_trim text).cons (by decide)).trim_eq
  have hbuild : ∀ {bodies : List Text}, bodies ≠ [] →
      (ofSegment caseSensitive ⟨['/'], [], bodies⟩ = .ok level ↔
        ∃ modifiers, Modifiers.ofBodies caseSensitive bodies = .ok modifiers ∧
          level = ofModifiers caseSensitive modifiers) := by
    intro bodies hne
    rw [ofSegment_bodies caseSensitive hne]
    cases Modifiers.ofBodies caseSensitive bodies <;> simp [Except.map, eq_comm]
  simp only [parse_eq_ok_iff, Modifiers.parse_eq_ok_iff, htrim]
  constructor
  · rintro ⟨segment, hwf, htext, hlevel⟩
    obtain ⟨hsegment, hbodies⟩ := hwf.eq_of_render h htext
    have hne : segment.bodies ≠ [] := by
      intro hnil
      rw [hbodies, hnil] at h
      cases h
    rw [hsegment, hbuild hne] at hlevel
    obtain ⟨modifiers, hmodifiers, rfl⟩ := hlevel
    exact ⟨modifiers, ⟨segment.bodies, hne, hwf.isBody, hbodies, hmodifiers⟩, rfl⟩
  · rintro ⟨modifiers, ⟨bodies, hne, hisBody, htext, hmodifiers⟩, rfl⟩
    refine ⟨⟨['/'], [], bodies⟩, Segment.wellFormed_of_bodies hisBody, ?_, ?_⟩
    · rw [htext]
      rfl
    · exact (hbuild hne).mpr ⟨modifiers, hmodifiers, rfl⟩

end Level

namespace Chain

/-! ### Chains of one level -/

theorem ofSegments_eq_singleton_iff {caseSensitive : Bool} {segments : List Segment}
    {level : Level} :
    ofSegments caseSensitive segments = .ok [level] ↔
      ∃ segment, segments = [segment] ∧ Level.ofSegment caseSensitive segment = .ok level := by
  rw [ofSegments, mapM_eq_ok_iff, List.forall₂_cons_right_iff]
  constructor
  · rintro ⟨segment, rest, hlevel, hrest, rfl⟩
    rw [List.forall₂_nil_right_iff.mp hrest]
    exact ⟨segment, rfl, hlevel⟩
  · rintro ⟨segment, rfl, hlevel⟩
    exact ⟨segment, [], hlevel, .nil, rfl⟩

/-- A selector that opens with a slash compiles to one level exactly when it is read as that
level. -/
theorem parse_eq_singleton_iff {caseSensitive : Bool} {selector : Text} {level : Level}
    (h : (Text.trim selector).head? = some '/') :
    parse caseSensitive selector = .ok [level] ↔
      Level.parse caseSensitive selector = .ok level := by
  simp only [parse_eq_ok_iff, cut, complete_slash _ h, ofSegments_eq_singleton_iff,
    Segment.parseAll_eq_ok_iff, Level.parse_eq_ok_iff]
  constructor
  · rintro ⟨_, ⟨-, htext, hwf, -⟩, segment, rfl, hlevel⟩
    rw [List.flatMap_singleton] at htext
    exact ⟨segment, hwf segment (List.mem_singleton_self _), htext, hlevel⟩
  · rintro ⟨segment, hwf, htext, hlevel⟩
    refine ⟨[segment], ⟨by simp, ?_, by simpa using hwf, by simp⟩, segment, rfl, hlevel⟩
    rw [List.flatMap_singleton, htext]

/-- **Reading a part is compiling it alone.** A text that opens with a slash is read as a level
exactly when it compiles to that level alone. A text that opens with a bracket is read as modifiers
exactly when, behind one slash, it compiles to one level: a child of every name without a reference
that has these conditions and this index. The selector that errors cite does not matter. -/
theorem compile_eq_singleton_iff (caseSensitive : Bool) (cited text : Text) :
    ((Text.trim text).head? = some '/' → ∀ level,
      (Level.parse caseSensitive text).mapError (SelectorError.mk cited) = .ok level ↔
        compile caseSensitive text = .ok [level]) ∧
    ((Text.trim text).head? = some '[' → ∀ conditions index,
      (Modifiers.parse caseSensitive text).mapError (SelectorError.mk cited) =
          .ok ⟨conditions, index⟩ ↔
        ∃ level, compile caseSensitive ('/' :: Text.trim text) = .ok [level] ∧
          level.axis = .child ∧ level.isWildcard = true ∧ level.reference = none ∧
            level.conditions = conditions ∧ level.index = index) := by
  have hcited : ∀ {α : Type} {outcome : Except Fault α} {result : α},
      outcome.mapError (SelectorError.mk cited) = .ok result ↔ outcome = .ok result := by
    intro α outcome result
    cases outcome <;> simp [Except.mapError]
  simp only [hcited, compile_eq_ok_iff]
  refine ⟨fun hslash level => (parse_eq_singleton_iff hslash).symm, fun hbracket => ?_⟩
  intro conditions index
  have hopen : (Text.trim ('/' :: Text.trim text)).head? = some '/' :=
    Text.head?_trim rfl (by decide)
  simp only [parse_eq_singleton_iff hopen, Level.parse_slash_bracket_iff hbracket]
  constructor
  · intro h
    exact ⟨_, ⟨_, h, rfl⟩, rfl, rfl, rfl, rfl, rfl⟩
  · rintro ⟨_, ⟨⟨tests, position⟩, hmodifiers, rfl⟩, -, -, -, rfl, rfl⟩
    exact hmodifiers

/-- A level with a slash and a bracket between quotes and blanks around it, and the modifiers of
that level. -/
theorem compile_eq_singleton_iff_quoted :
    let conditions : List Condition := [⟨"a".toList, .equals, some "]/b".toList⟩]
    let index : Option Index := some ⟨.lessThan, 3⟩
    let level : Level :=
      { caseSensitive := true, axis := .anyDepth, target := .element "x".toList, index, conditions }
    (Text.trim " //x[@a=']/b'][<3] ".toList).head? = some '/' ∧
      (Text.trim " [@a=']/b'][<3] ".toList).head? = some '[' ∧
      compile true " //x[@a=']/b'][<3] ".toList = .ok [level] ∧
      ∃ bare, compile true ('/' :: Text.trim " [@a=']/b'][<3] ".toList) = .ok [bare] ∧
        bare.axis = .child ∧ bare.isWildcard = true ∧ bare.reference = none ∧
          bare.conditions = conditions ∧ bare.index = index := by
  intro conditions index level
  have hslash : (Text.trim " //x[@a=']/b'][<3] ".toList).head? = some '/' := by decide
  have hbracket : (Text.trim " [@a=']/b'][<3] ".toList).head? = some '[' := by decide
  have hlevel : Level.parse true " //x[@a=']/b'][<3] ".toList = .ok level := by decide +kernel
  have hmodifiers : Modifiers.parse true " [@a=']/b'][<3] ".toList = .ok ⟨conditions, index⟩ := by
    decide +kernel
  refine ⟨hslash, hbracket, ?_, ?_⟩
  · exact ((compile_eq_singleton_iff true [] _).1 hslash level).mp (by rw [hlevel]; rfl)
  · exact ((compile_eq_singleton_iff true [] _).2 hbracket conditions index).mp
      (by rw [hmodifiers]; rfl)

end Chain

end PathSelector
