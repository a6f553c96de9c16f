import PathSelector.Proofs.Chain.Compile
import PathSelector.Proofs.Index.Numeral
import PathSelector.Proofs.Level.Fault

/-!
# How compiling ends

A selector compiles to a chain or is refused for its form, with one exception: a numeral of too many
digits between its brackets is not valued, and the refusal to value it ends the whole. This happens
exactly when such a numeral is reached, that is when everything in front of it is read. No other
stage breaks down: the token that stands in a condition always writes an operator, and a path never
asks for text nodes and for elements of a name at once.

Main definitions: `Segment.Reaches` and `Chain.Reaches`, everything in front of a bracketed text is
read.

Main statements:

* `Chain.parse_eq_breakdown_iff`: compiling breaks down exactly on a numeral that is reached and too
  long;
* `Chain.compile_ok_or_malformed_iff`: compiling ends with a chain or with a reason in the form of
  the selector exactly when no numeral that is reached is too long.
-/

namespace PathSelector

/-! ### Numerals of too many digits -/

/-- Reading a bracketed text breaks down exactly on a numeral that is too long. -/
theorem Modifier.parse_eq_breakdown_iff {caseSensitive : Bool} {body : Text} {cause : Breakdown} :
    Modifier.parse caseSensitive body = .error (.breakdown cause) ↔
      ∃ limit, Index.parse? body = .error limit ∧ cause = .digitLimit limit := by
  unfold Modifier.parse
  cases Index.parse? body with
  | error found => simp [eq_comm]
  | ok found =>
    cases found with
    | some position => simp
    | none =>
      cases htests : Condition.parseAll caseSensitive body with
      | ok tests => simp
      | error fault =>
        obtain ⟨reason, rfl, -⟩ := Condition.exists_malformed_of_parseAll htests
        simp

/-- The bracketed text of a segment is reached when its level is built: its slashes and its name
are read, and the bracketed texts in front of it are read as conditions. -/
def Segment.Reaches (caseSensitive : Bool) (segment : Segment) (body : Text) : Prop :=
  (∃ axis : Axis, segment.lead = axis.lead) ∧
    (∃ parts, LevelName.split segment.name = .ok parts) ∧
      ∃ front back, segment.bodies = front ++ body :: back ∧
        ∀ other ∈ front, ∃ tests, Modifier.parse caseSensitive other = .ok (.conditions tests)

/-- Building a level breaks down exactly on a numeral that is reached and too long. -/
theorem Level.ofSegment_eq_breakdown_iff {caseSensitive : Bool} {segment : Segment}
    {cause : Breakdown} :
    ofSegment caseSensitive segment = .error (.breakdown cause) ↔
      ∃ body limit, segment.Reaches caseSensitive body ∧ Index.parse? body = .error limit ∧
        cause = .digitLimit limit := by
  have hstages : ofSegment caseSensitive segment = .error (.breakdown cause) ↔
      (∃ axis : Axis, segment.lead = axis.lead) ∧
        (∃ parts, LevelName.split segment.name = .ok parts) ∧
          Modifiers.ofBodies caseSensitive segment.bodies = .error (.breakdown cause) := by
    simp only [← Axis.ofLead?_eq_some_iff]
    unfold ofSegment
    cases Axis.ofLead? segment.lead with
    | none => simp
    | some axis =>
      by_cases hempty : segment.name = [] ∧ segment.bodies = []
      · simp [hempty, Modifiers.ofBodies]
      · cases LevelName.split segment.name with
        | error reason => simp [hempty]
        | ok parts =>
          cases Modifiers.ofBodies caseSensitive segment.bodies <;>
            simp [hempty, Target.ofPath_eq]
  rw [hstages, Modifiers.ofBodies_eq_error_iff]
  simp only [Modifier.Refused, Modifier.parse_eq_breakdown_iff]
  constructor
  · rintro ⟨haxis, hname, front, body, back, hbodies, hfront, ⟨limit, hbody⟩ | ⟨-, -, hne⟩⟩
    · exact ⟨body, limit, ⟨haxis, hname, front, back, hbodies, hfront⟩, hbody⟩
    · cases hne
  · rintro ⟨body, limit, ⟨haxis, hname, front, back, hbodies, hfront⟩, hbody⟩
    exact ⟨haxis, hname, front, body, back, hbodies, hfront, Or.inl ⟨limit, hbody⟩⟩

namespace Chain

/-- The bracketed text of a selector is reached when it is compiled: the selector is cut into
segments, those in front of its own are read as levels, and it is reached in its own. -/
def Reaches (caseSensitive : Bool) (selector body : Text) : Prop :=
  ∃ front segment back, cut selector = .ok (front ++ segment :: back) ∧
    (∀ other ∈ front, ∃ level, Level.ofSegment caseSensitive other = .ok level) ∧
      segment.Reaches caseSensitive body

/-- Compiling breaks down exactly on a numeral that is reached and too long. -/
theorem parse_eq_breakdown_iff {caseSensitive : Bool} {selector : Text} {cause : Breakdown} :
    parse caseSensitive selector = .error (.breakdown cause) ↔
      ∃ body limit, Reaches caseSensitive selector body ∧ Index.parse? body = .error limit ∧
        cause = .digitLimit limit := by
  simp only [parse_eq_error_iff, ofSegments, mapM_eq_error_iff, Level.ofSegment_eq_breakdown_iff]
  constructor
  · rintro (⟨reason, -, hne⟩ |
      ⟨_, hcut, front, segment, back, rfl, hfront, body, limit, hbody, hlimit⟩)
    · cases hne
    · exact ⟨body, limit, ⟨front, segment, back, hcut, hfront, hbody⟩, hlimit⟩
  · rintro ⟨body, limit, ⟨front, segment, back, hcut, hfront, hbody⟩, hlimit⟩
    exact Or.inr ⟨_, hcut, front, segment, back, rfl, hfront, body, limit, hbody, hlimit⟩

/-- **How compiling ends.** It ends with a chain of some levels, or with a reason in the form of the
selector that the error cites, exactly when no bracketed text that is reached is a numeral of too
many digits. These are also the only bracketed texts on which reading an index fails; any other
numeral out of range is no index. The token in a condition always writes an operator, and the parts
of a target never conflict. -/
theorem compile_ok_or_malformed_iff (caseSensitive : Bool) (selector : Text) :
    (((∃ chain, compile caseSensitive selector = .ok chain ∧ chain ≠ []) ∨
        ∃ reason, compile caseSensitive selector = .error ⟨selector, .malformed reason⟩) ↔
      ∀ body, Reaches caseSensitive selector body → ¬ Index.Overlong body) ∧
    (∀ body, (∃ found, Index.parse? body = .ok found) ↔ ¬ Index.Overlong body) ∧
    (∀ kind numeral body, Index.Spells kind numeral body → ¬ Index.Overlong body →
      ¬ (Index.least ≤ numeral.toInt ∧ numeral.toInt ≤ Index.greatest) →
        Index.parse? body = .ok none) ∧
    (∀ atom, ∃ operator, Operator.ofToken (Fragment.split atom).token = .ok operator) ∧
    ∀ path, ∃ target, Target.ofPath caseSensitive path = .ok target := by
  have hkinds : ((∃ chain, compile caseSensitive selector = .ok chain ∧ chain ≠ []) ∨
      ∃ reason, compile caseSensitive selector = .error ⟨selector, .malformed reason⟩) ↔
        ∀ cause, parse caseSensitive selector ≠ .error (.breakdown cause) := by
    simp only [compile_eq_ok_iff, compile_eq_error_iff, and_true]
    cases hparse : parse caseSensitive selector with
    | ok chain => simp [(wellFormed_of_parse hparse).1]
    | error fault => cases fault <;> simp
  refine ⟨hkinds.trans ?_, fun body => Index.exists_parse?_eq_ok_iff, fun kind numeral body =>
    Index.parse?_of_out_of_range, fun atom => ?_, fun path => ⟨_, Target.ofPath_eq ..⟩⟩
  · simp only [ne_eq, parse_eq_breakdown_iff, Index.overlong_iff]
    constructor
    · rintro h body hbody ⟨limit, hlimit⟩
      exact h _ ⟨body, limit, hbody, hlimit, rfl⟩
    · rintro h cause ⟨body, limit, hbody, hlimit, -⟩
      exact h body hbody ⟨limit, hlimit⟩
  · simp only [Operator.ofToken_eq_ok_iff]
    exact Fragment.exists_token_split_eq atom

/-- A number just below the range is no index and becomes the name of an attribute. -/
theorem compile_ok_or_malformed_iff_below_range :
    let body := " -2147483649 ".toList
    let selector := "/x[ -2147483649 ]".toList
    let chain : Chain :=
      [{ caseSensitive := true
         target := .element "x".toList
         conditions := [⟨"-2147483649".toList, .present, none⟩] }]
    Index.Spells .exactly ⟨true, "2147483649".toList⟩ body ∧ ¬ Index.Overlong body ∧
      Index.parse? body = .ok none ∧ compile true selector = .ok chain ∧
        ∀ other, Reaches true selector other → ¬ Index.Overlong other := by
  intro body selector chain
  have hspells : Index.Spells .exactly ⟨true, "2147483649".toList⟩ body :=
    ⟨by decide, [' '], "-2147483649".toList, [' '], by decide, by decide,
      ⟨by decide, by decide, ['-'], by decide, by decide⟩, by decide⟩
  have hread : ∃ found, Index.parse? body = .ok found := ⟨none, by decide +kernel⟩
  have hcompile : compile true selector = .ok chain := by decide +kernel
  obtain ⟨hends, hfails, hrange, -⟩ := compile_ok_or_malformed_iff true selector
  have hshort := (hfails body).mp hread
  exact ⟨hspells, hshort, hrange _ _ body hspells hshort (by decide), hcompile,
    hends.mp (Or.inl ⟨chain, hcompile, List.cons_ne_nil _ _⟩)⟩

/-! ### A numeral that ends compiling -/

/-- A level that holds a run of more digits than are valued does not compile, and not for its
form. -/
theorem parse_digits_eq_breakdown (caseSensitive : Bool) {count : Nat}
    (h : Numeral.digitLimit < count) :
    parse caseSensitive ("/x[".toList ++ List.replicate count '1' ++ [']']) =
      .error (.breakdown (.digitLimit ⟨count⟩)) := by
  have hpos : 0 < count := Nat.zero_lt_of_lt h
  have hne : List.replicate count '1' ≠ [] := by simp [Nat.ne_of_gt hpos]
  have hdigit : ∀ c ∈ List.replicate count '1', c.isDigit = true := by
    intro c hc
    rw [List.eq_of_mem_replicate hc]
    decide
  have hbody : Segment.IsBody (List.replicate count '1') := by
    refine ⟨List.replicate count ['1'], by simp [Nat.ne_of_gt hpos], fun unit hunit => ?_,
      List.flatten_replicate_singleton⟩
    rw [List.eq_of_mem_replicate hunit]
    exact .char (by decide) (by decide)
  have htrim : Text.trim ("/x[".toList ++ List.replicate count '1' ++ [']']) =
      "/x[".toList ++ List.replicate count '1' ++ [']'] := by
    refine Text.trim_eq_self (fun c hc => ?_) fun c hc => ?_
    · obtain rfl : '/' = c := Option.some.inj hc
      decide
    · rw [List.getLast?_concat] at hc
      obtain rfl : ']' = c := Option.some.inj hc
      decide
  refine parse_eq_breakdown_iff.mpr ⟨List.replicate count '1', ⟨count⟩, ⟨[],
    ⟨['/'], ['x'], [List.replicate count '1']⟩, [], ?_, nofun, ⟨.child, rfl⟩, ⟨⟨['x'], none⟩, rfl⟩,
    [], [], rfl, nofun⟩, ?_, rfl⟩
  · rw [cut, htrim, complete_slash _ rfl]
    refine Segment.parseAll_eq_ok_iff.mpr ⟨by simp, ?_, ?_, by simp⟩
    · simp [Segment.render, Segment.bracketed]
    · simp only [List.nil_append, List.forall_mem_singleton]
      exact ⟨by simp, by simp, by simp; decide, by simpa using hbody⟩
  · exact Index.parse?_eq_error_iff.mpr ⟨.exactly, ⟨false, List.replicate count '1'⟩,
      Index.spells_of_isDigit hne hdigit, by simpa using h, by simp⟩

/-- A selector can end compiling in another way than with a chain or a reason in its form. -/
theorem not_forall_compile_ok_or_malformed :
    ¬ ∀ (caseSensitive : Bool) (selector : Text),
      (∃ chain, compile caseSensitive selector = .ok chain ∧ chain ≠ []) ∨
        ∃ reason, compile caseSensitive selector = .error ⟨selector, .malformed reason⟩ := by
  intro h
  have hlong : Numeral.digitLimit < 4301 := by decide
  have hparse := parse_digits_eq_breakdown true hlong
  rcases h true ("/x[".toList ++ List.replicate 4301 '1' ++ [']']) with
    ⟨chain, hchain, -⟩ | ⟨reason, hreason⟩
  · have hok := compile_eq_ok_iff.mp hchain
    rw [hparse] at hok
    cases hok
  · have herror := (compile_eq_error_iff.mp hreason).1
    rw [hparse] at herror
    cases herror

end Chain

end PathSelector
