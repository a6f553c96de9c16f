import PathSelector.Chain
import PathSelector.Proofs.Level.Reading

/-!
# The stages of compiling

A selector is trimmed, completed by slashes if it opens with none, cut into segments, and built
into levels. What holds of a selector that passes all stages is gathered here.

Main definition: `Chain.cut`, the segments that a selector is cut into.

Main statements:

* `Chain.parse_eq_bind`: compiling is cutting and then building;
* `Chain.parse_eq_ok_iff`, `Chain.parse_eq_error_iff`: what it takes for a selector to compile and
  to be refused;
* `Chain.length_complete`: where the columns of a completed selector come from;
* `Chain.exists_segments_of_parse`: a selector that compiles is the writing of occupied segments,
  whose levels are its chain;
* `Chain.wellFormed_of_parse`: the levels of a chain that a selector compiles to are well formed;
* `Chain.parse_of_blank`: a blank selector is refused as an empty level.
-/

namespace PathSelector

namespace Chain

/-- Compiling is cutting the completed selector into segments and building their levels. -/
theorem parse_eq_bind (caseSensitive : Bool) (selector : Text) :
    parse caseSensitive selector =
      ((Segment.parseAll (complete (Text.indent selector) (Text.trim selector)).2
        (complete (Text.indent selector) (Text.trim selector)).1).mapError Fault.malformed).bind
          (ofSegments caseSensitive) := by
  unfold parse
  simp only
  cases Segment.parseAll (complete (Text.indent selector) (Text.trim selector)).2
    (complete (Text.indent selector) (Text.trim selector)).1 <;> rfl

/-- The segments that a selector is cut into. -/
def cut (selector : Text) : Except Reason (List Segment) :=
  Segment.parseAll (complete (Text.indent selector) (Text.trim selector)).2
    (complete (Text.indent selector) (Text.trim selector)).1

theorem parse_of_cut_ok {caseSensitive : Bool} {selector : Text} {segments : List Segment}
    (h : cut selector = .ok segments) :
    parse caseSensitive selector = ofSegments caseSensitive segments := by
  rw [parse_eq_bind, ← cut, h]
  rfl

theorem parse_of_cut_error {caseSensitive : Bool} {selector : Text} {reason : Reason}
    (h : cut selector = .error reason) :
    parse caseSensitive selector = .error (.malformed reason) := by
  rw [parse_eq_bind, ← cut, h]
  rfl

/-- A selector compiles when it is cut into segments that are all built into levels. -/
theorem parse_eq_ok_iff {caseSensitive : Bool} {selector : Text} {chain : Chain} :
    parse caseSensitive selector = .ok chain ↔
      ∃ segments, cut selector = .ok segments ∧
        ofSegments caseSensitive segments = .ok chain := by
  rw [parse_eq_bind, ← cut]
  cases cut selector <;> simp [Except.mapError, Except.bind]

/-- A selector is refused when it cannot be cut into segments, or when a level cannot be built. -/
theorem parse_eq_error_iff {caseSensitive : Bool} {selector : Text} {fault : Fault} :
    parse caseSensitive selector = .error fault ↔
      (∃ reason, cut selector = .error reason ∧ fault = .malformed reason) ∨
        ∃ segments, cut selector = .ok segments ∧
          ofSegments caseSensitive segments = .error fault := by
  rw [parse_eq_bind, ← cut]
  cases cut selector <;> simp [Except.mapError, Except.bind, eq_comm]

theorem compile_eq_ok_iff {caseSensitive : Bool} {selector : Text} {chain : Chain} :
    compile caseSensitive selector = .ok chain ↔ parse caseSensitive selector = .ok chain := by
  unfold compile
  cases parse caseSensitive selector <;> simp [Except.mapError]

theorem compile_eq_error_iff {caseSensitive : Bool} {selector : Text} {e : SelectorError} :
    compile caseSensitive selector = .error e ↔
      parse caseSensitive selector = .error e.fault ∧ e.selector = selector := by
  obtain ⟨cited, fault⟩ := e
  unfold compile
  cases parse caseSensitive selector <;> simp [Except.mapError, and_comm, eq_comm]

/-! ### Completing a selector -/

theorem complete_slash (indent : Nat) {text : Text} (h : text.head? = some '/') :
    complete indent text = (text, (indent : Int)) := by
  obtain ⟨rest, rfl⟩ : ∃ rest, text = '/' :: rest := List.head?_eq_some_iff.mp h
  rfl

theorem complete_of_ne_slash (indent : Nat) {text : Text} (h : text.head? ≠ some '/') :
    complete indent text = ('/' :: '/' :: text, (indent : Int) - 2) := by
  unfold complete
  split
  · exact absurd rfl h
  · rfl

/-- A selector that opens with a slash and has no blanks around it is cut as it stands. -/
theorem cut_of_tight {selector : Text} (htight : Text.Tight selector)
    (hslash : selector.head? = some '/') : cut selector = Segment.parseAll 0 selector := by
  rw [cut, htight.trim_eq, Text.indent_eq_zero htight.1, complete_slash 0 hslash]
  rfl

theorem complete_append (indent : Nat) {text : Text} (h : text ≠ []) (more : Text) :
    complete indent (text ++ more) =
      ((complete indent text).1 ++ more, (complete indent text).2) := by
  obtain ⟨c, rest, rfl⟩ := List.exists_cons_of_ne_nil h
  by_cases hc : c = '/'
  · subst hc
    rfl
  · simp [complete, hc]

/-- Slashes put in front of a selector are made up for by the offset. -/
theorem length_complete (indent : Nat) (text : Text) :
    ((complete indent text).1.length : Int) + (complete indent text).2 = indent + text.length := by
  unfold complete
  split
  · exact Int.add_comm _ _
  · simp only [List.length_cons]
    push_cast
    omega

/-- The segments of a selector that compiles: they are written one after the other in the
completed selector, all are occupied, and their levels are the chain. -/
theorem exists_segments_of_parse {caseSensitive : Bool} {selector : Text} {chain : Chain}
    (h : parse caseSensitive selector = .ok chain) :
    ∃ segments : List Segment, segments ≠ [] ∧
      (complete (Text.indent selector) (Text.trim selector)).1 = segments.flatMap Segment.render ∧
      (∀ segment ∈ segments, segment.WellFormed ∧ segment.Occupied) ∧
      ofSegments caseSensitive segments = .ok chain := by
  obtain ⟨segments, hparse, hlevels⟩ := parse_eq_ok_iff.mp h
  obtain ⟨hne, htext, hwf, -⟩ := Segment.parseAll_eq_ok_iff.mp hparse
  refine ⟨segments, hne, htext, fun segment hmem => ⟨hwf segment hmem, ?_⟩, hlevels⟩
  obtain ⟨level, -, hlevel⟩ := exists_of_mem_left (mapM_eq_ok_iff.mp hlevels) hmem
  exact (Level.ofSegment_eq_ok_iff.mp hlevel).1

/-- The levels of a chain that a selector compiles to are well formed. -/
theorem wellFormed_of_parse {caseSensitive : Bool} {selector : Text} {chain : Chain}
    (h : parse caseSensitive selector = .ok chain) :
    chain ≠ [] ∧ ∀ level ∈ chain, level.WellFormed caseSensitive := by
  obtain ⟨segments, hne, -, hsegments, hread⟩ := exists_segments_of_parse h
  have hlevels := mapM_eq_ok_iff.mp hread
  refine ⟨?_, fun level hlevel => ?_⟩
  · rintro rfl
    exact hne (List.forall₂_nil_right_iff.mp hlevels)
  · obtain ⟨segment, hsegment, hlevel⟩ := exists_of_mem_right hlevels hlevel
    exact Level.wellFormed_of_ofSegment (hsegments segment hsegment).1 hlevel

/-- A blank selector is completed to two slashes with nothing behind them. -/
theorem cut_of_blank {selector : Text} (h : Text.Blank selector) :
    cut selector = .ok [⟨['/', '/'], [], []⟩] := by
  have hslashes : Segment.WellFormed ⟨['/', '/'], [], []⟩ := ⟨by simp, by simp, by simp, by simp⟩
  rw [cut, Text.trim_eq_nil_iff.mpr h, complete_of_ne_slash _ (by simp)]
  refine Segment.parseAll_eq_ok_iff.mpr ⟨by simp, rfl, ?_, by simp⟩
  exact List.forall_mem_singleton.mpr hslashes

/-- A blank selector is refused as an empty level. -/
theorem parse_of_blank {caseSensitive : Bool} {selector : Text} (h : Text.Blank selector) :
    parse caseSensitive selector = .error (.malformed .emptyLevel) :=
  parse_of_cut_ok (cut_of_blank h)

/-- A selector that compiles is not blank. -/
theorem not_blank_of_parse {caseSensitive : Bool} {selector : Text} {chain : Chain}
    (h : parse caseSensitive selector = .ok chain) : ¬ Text.Blank selector := by
  intro hblank
  rw [parse_of_blank hblank] at h
  cases h

end Chain

end PathSelector
