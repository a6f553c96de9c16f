import PathSelector.Proofs.Chain.Compile
import PathSelector.Proofs.Level.Fault
import PathSelector.Proofs.Segment.Unread

/-!
# Selectors put together

A selector that compiles, followed by a text that opens with a slash, compiles to its own levels
followed by those of the text. When the text is refused, the whole is refused for the same
reason, which points as much further right as the selector is long.

Main definitions:

* `Reason.shift`, `Fault.shift`: the same refusal of a text that stands further right.

Main statements:

* `Segment.parseAll_flatMap_append`: cutting two texts put together into segments;
* `Chain.parse_append_eq`: the outcome for two selectors put together is the outcome for the
  second, with the levels of the first in front or with its columns moved;
* `Chain.compile_append_outcome`: the same for errors that cite the selector.
-/

namespace PathSelector

/-! ### Refusals further right -/

/-- The same reason for a text that stands `count` characters further right. -/
def Reason.shift (count : Nat) : Reason → Reason
  | .unexpectedChar c column => .unexpectedChar c (count + column)
  | reason => reason

/-- The same fault in a text that stands `count` characters further right. -/
def Fault.shift (count : Nat) : Fault → Fault
  | .malformed reason => .malformed (reason.shift count)
  | .breakdown cause => .breakdown cause

@[simp]
theorem Reason.text_shift (count : Nat) (reason : Reason) :
    (reason.shift count).text = reason.text := by
  cases reason <;> rfl

@[simp]
theorem Reason.column?_shift (count : Nat) (reason : Reason) :
    (reason.shift count).column? = reason.column?.map (count + ·) := by
  cases reason <;> rfl

theorem Reason.shift_eq_self {reason : Reason} (h : reason.column? = none) (count : Nat) :
    reason.shift count = reason := by
  cases reason with
  | unexpectedChar => cases h
  | _ => rfl

theorem Fault.Unlocated.shift_eq {fault : Fault} (h : fault.Unlocated) (count : Nat) :
    fault.shift count = fault := by
  cases fault with
  | malformed reason => rw [Fault.shift, Reason.shift_eq_self (h reason rfl)]
  | breakdown cause => rfl

/-! ### Cutting into segments -/

namespace Segment

/-- The reason to refuse the end of a text points as much further right as the text in front of
it and the offset of the whole say. -/
theorem unreadable_append {offset : Int} {front text unread : Text} {count : Nat}
    (hcount : (front.length : Int) + offset = count) (hunread : unread <:+ text) :
    unreadable offset (front ++ text) unread = (unreadable 0 text unread).shift count := by
  have hlen := hunread.length_le
  cases unread with
  | nil => rfl
  | cons c unread =>
    simp only [unreadable, Reason.shift, List.length_append, Reason.unexpectedChar.injEq,
      true_and]
    push_cast
    omega

/-- Occupied segments in front of a text that opens with a slash are cut off, and the text is cut,
or refused further right, as it is by itself. -/
theorem parseAll_flatMap_append {segments : List Segment} {rest : Text} {offset : Int}
    {count : Nat} (h : ∀ segment ∈ segments, segment.WellFormed ∧ segment.Occupied)
    (hrest : rest.head? = some '/')
    (hcount : ((segments.flatMap render).length : Int) + offset = count) :
    parseAll offset (segments.flatMap render ++ rest) =
      ((parseAll 0 rest).map (segments ++ ·)).mapError (Reason.shift count) := by
  rw [parseAll, parseAll, scanAll_flatMap_append h hrest]
  cases hscan : scanAll rest with
  | ok tail => rfl
  | error unread =>
    exact congrArg Except.error (unreadable_append hcount (suffix_of_scanAll hscan))

end Segment

namespace Chain

/-- A fault that is found while the levels of some segments are built points at no character. -/
theorem unlocated_of_ofSegments {caseSensitive : Bool} {segments : List Segment} {fault : Fault}
    (h : ofSegments caseSensitive segments = .error fault) : fault.Unlocated := by
  obtain ⟨segment, -, hsegment⟩ := exists_of_mapM_eq_error h
  exact Level.unlocated_of_ofSegment hsegment

/-- The outcome for a selector that compiles followed by a text that opens with a slash: the
outcome for the text, with the levels of the selector in front or the columns moved by its
length. -/
theorem parse_append_eq {caseSensitive : Bool} {front back : Text} {chain : Chain}
    (hfront : parse caseSensitive front = .ok chain)
    (hend : ∀ c, front.getLast? = some c → Text.isBlank c = false)
    (hback : back.head? = some '/') :
    parse caseSensitive (front ++ back) =
      ((parse caseSensitive back).map (chain ++ ·)).mapError (Fault.shift front.length) := by
  have hslash : Text.isBlank '/' = false := by decide
  have hstart : ∀ c, back.head? = some c → Text.isBlank c = false := by
    intro c hc
    rw [hback] at hc
    rwa [← Option.some.inj hc]
  have hfrontBlank := not_blank_of_parse hfront
  have hbackBlank : ¬ Text.Blank back := by
    intro hblank
    rw [hblank '/' (List.mem_of_head? hback)] at hslash
    cases hslash
  have hbackTrim : (Text.trim back).head? = some '/' := Text.head?_trim hback hslash
  obtain ⟨segments, -, htext, hsegments, hlevels⟩ := exists_segments_of_parse hfront
  -- the offset of the completed selector makes up for its indent and for the slashes put in front
  have hcount : ((segments.flatMap Segment.render).length : Int) +
      (complete (Text.indent front) (Text.trim front)).2 = front.length := by
    have hlen := Text.indent_add_length_trim hend
    rw [← htext, length_complete]
    omega
  have hbackText : complete 0 (Text.trim back) = (Text.trim back, 0) := complete_slash 0 hbackTrim
  rw [parse_eq_bind, Text.indent_append hfrontBlank,
    Text.trim_append_trim hfrontBlank hbackBlank hend hstart,
    complete_append _ (mt Text.trim_eq_nil_iff.mp hfrontBlank), htext,
    Segment.parseAll_flatMap_append hsegments hbackTrim hcount, parse_eq_bind,
    Text.indent_eq_zero hstart, hbackText]
  cases Segment.parseAll 0 (Text.trim back) with
  | error reason => rfl
  | ok found =>
    have happend : ofSegments caseSensitive (segments ++ found) =
        (ofSegments caseSensitive found).map (chain ++ ·) := mapM_append_of_ok hlevels found
    simp only [Except.map, Except.mapError, Except.bind, happend]
    cases hfound : ofSegments caseSensitive found with
    | ok more => rfl
    | error fault =>
      -- a fault that points at no character is not changed by moving it
      have hshift := (unlocated_of_ofSegments hfound).shift_eq front.length
      exact congrArg Except.error hshift.symm

/-- **Selectors put together.** Behind a selector that compiles, a text that opens with a slash
adds its own levels, or is refused for the reason it is refused for by itself, at a column moved
by the length of the selector. -/
theorem compile_append_outcome {caseSensitive : Bool} {front back : Text} {chain : Chain}
    (hfront : compile caseSensitive front = .ok chain)
    (hend : ∀ c, front.getLast? = some c → Text.isBlank c = false)
    (hback : back.head? = some '/') :
    (∀ more, compile caseSensitive back = .ok more →
      compile caseSensitive (front ++ back) = .ok (chain ++ more)) ∧
    ∀ cited reason, compile caseSensitive back = .error ⟨cited, .malformed reason⟩ →
      ∃ moved, compile caseSensitive (front ++ back) =
          .error ⟨front ++ back, .malformed moved⟩ ∧
        moved.text = reason.text ∧ moved.column? = reason.column?.map (front.length + ·) := by
  have hparse := parse_append_eq (compile_eq_ok_iff.mp hfront) hend hback
  constructor
  · intro more hmore
    rw [compile_eq_ok_iff, hparse, compile_eq_ok_iff.mp hmore]
    rfl
  · intro cited reason hreason
    obtain ⟨hfault, -⟩ := compile_eq_error_iff.mp hreason
    refine ⟨reason.shift front.length, ?_, Reason.text_shift _ _, Reason.column?_shift _ _⟩
    rw [compile_eq_error_iff, hparse, hfault]
    exact ⟨rfl, rfl⟩

/-- Behind a bare selector with a blank in front and a slash between quotes, an identifier adds its
level, and a blank inside a name is refused at its column in the whole. -/
theorem compile_append_outcome_bare :
    let front := " div[@a='/']".toList
    let chain : Chain :=
      [{ caseSensitive := true
         axis := .anyDepth
         target := .element "div".toList
         conditions := [⟨"a".toList, .equals, some "/".toList⟩] }]
    let more : Chain :=
      [{ caseSensitive := true
         target := .element "p".toList
         conditions := [⟨"id".toList, .equals, some "x".toList⟩] }]
    compile true front = .ok chain ∧ compile true "/p#x".toList = .ok more ∧
      compile true "/x b".toList = .error ⟨"/x b".toList, .malformed (.unexpectedChar ' ' 3)⟩ ∧
      compile true (front ++ "/p#x".toList) = .ok (chain ++ more) ∧
      ∃ moved, compile true (front ++ "/x b".toList) =
          .error ⟨front ++ "/x b".toList, .malformed moved⟩ ∧
        moved.text = (Reason.unexpectedChar ' ' 3).text ∧ moved.column? = some 15 := by
  intro front chain more
  have hfront : compile true front = .ok chain := by decide +kernel
  have hend : ∀ c, front.getLast? = some c → Text.isBlank c = false := by
    intro c hc
    obtain rfl : ']' = c := Option.some.inj hc
    decide
  have hmore : compile true "/p#x".toList = .ok more := by decide +kernel
  have herror : compile true "/x b".toList =
      .error ⟨"/x b".toList, .malformed (.unexpectedChar ' ' 3)⟩ := by decide +kernel
  exact ⟨hfront, hmore, herror, (compile_append_outcome hfront hend rfl).1 more hmore,
    (compile_append_outcome hfront hend rfl).2 _ _ herror⟩

end Chain

end PathSelector
