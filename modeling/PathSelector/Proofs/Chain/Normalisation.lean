import PathSelector.Proofs.Chain.Location

/-!
# What does not matter to a selector

Only the trimmed and completed text of a selector is compiled. Blanks around a selector change at
most the columns of its refusal, by their number in front, and a selector that does not open with a
slash fares as it does behind two slashes. Two runs are compared by the relation `Chain.Alike`:
they end with the same chain, or they are refused for the same reason at columns that are related.

Main definition: `Chain.Alike`, the relation between two outcomes of compiling.

Main statements:

* `Chain.parse_eq_shift`: a selector fares as its trim, with columns moved by its indent;
* `Chain.parse_blank_append`: blanks around a selector move its columns by those in front;
* `Chain.parse_slashes_append`: behind two slashes, the columns of a bare text are moved by two;
* `Chain.compile_alike_normalised`: the outcomes of compiling that follow.
-/

namespace PathSelector

/-! ### Moved refusals -/

@[simp]
theorem Reason.shift_zero (reason : Reason) : reason.shift 0 = reason := by
  cases reason with
  | unexpectedChar c column => rw [shift, Nat.zero_add]
  | _ => rfl

@[simp]
theorem Reason.shift_shift (reason : Reason) (first second : Nat) :
    (reason.shift first).shift second = reason.shift (second + first) := by
  cases reason with
  | unexpectedChar c column => rw [shift, shift, shift, Nat.add_assoc]
  | _ => rfl

@[simp]
theorem Fault.shift_zero (fault : Fault) : fault.shift 0 = fault := by
  cases fault with
  | malformed reason => rw [shift, Reason.shift_zero]
  | breakdown cause => rfl

@[simp]
theorem Fault.shift_shift (fault : Fault) (first second : Nat) :
    (fault.shift first).shift second = fault.shift (second + first) := by
  cases fault with
  | malformed reason => rw [shift, shift, shift, Reason.shift_shift]
  | breakdown cause => rfl

namespace Chain

theorem mapError_shift_zero (outcome : Except Fault Chain) :
    outcome.mapError (Fault.shift 0) = outcome := by
  cases outcome with
  | ok chain => rfl
  | error fault => exact congrArg Except.error fault.shift_zero

/-- Faults in levels point at no character, so moving them changes nothing. -/
theorem mapError_shift_ofSegments (caseSensitive : Bool) (segments : List Segment) (count : Nat) :
    (ofSegments caseSensitive segments).mapError (Fault.shift count) =
      ofSegments caseSensitive segments := by
  cases h : ofSegments caseSensitive segments with
  | ok chain => rfl
  | error fault => exact congrArg Except.error ((unlocated_of_ofSegments h).shift_eq count)

/-- When a selector is cut like another, with columns moved, it fares like the other, with columns
moved. -/
theorem parse_of_cut_eq {caseSensitive : Bool} {selector other : Text} {count : Nat}
    (h : cut selector = (cut other).mapError (Reason.shift count)) :
    parse caseSensitive selector =
      (parse caseSensitive other).mapError (Fault.shift count) := by
  cases hother : cut other with
  | error reason =>
    rw [hother] at h
    rw [parse_of_cut_error h, parse_of_cut_error hother]
    rfl
  | ok segments =>
    rw [hother] at h
    rw [parse_of_cut_ok h, parse_of_cut_ok hother, mapError_shift_ofSegments]

/-! ### Trimmed and completed selectors -/

theorem complete_fst (indent other : Nat) (text : Text) :
    (complete indent text).1 = (complete other text).1 := by
  unfold complete
  split <;> rfl

/-- A selector fares as its trim, with columns moved by the blanks in front. -/
theorem parse_eq_shift (caseSensitive : Bool) (selector : Text) :
    parse caseSensitive selector =
      (parse caseSensitive (Text.trim selector)).mapError
        (Fault.shift (Text.indent selector)) := by
  refine parse_of_cut_eq ?_
  have htight := Text.tight_trim selector
  rw [cut_eq_mapError, cut_eq_mapError (Text.trim selector), htight.trim_eq,
    Text.indent_eq_zero htight.1, complete_fst _ 0]
  cases Segment.scanAll (complete 0 (Text.trim selector)).1 with
  | ok segments => rfl
  | error unread =>
    refine congrArg Except.error ?_
    simp only [Reason.shift_zero]

/-- Blanks around a selector move its columns by those in front. -/
theorem parse_blank_append (caseSensitive : Bool) {front back : Text} (hfront : Text.Blank front)
    (hback : Text.Blank back) (selector : Text) :
    parse caseSensitive (front ++ selector ++ back) =
      (parse caseSensitive selector).mapError (Fault.shift front.length) := by
  by_cases hblank : Text.Blank selector
  · have hall : Text.Blank (front ++ selector ++ back) :=
      List.forall_mem_append.mpr ⟨List.forall_mem_append.mpr ⟨hfront, hblank⟩, hback⟩
    rw [parse_of_blank hall, parse_of_blank hblank]
    rfl
  · have hindent :
        Text.indent (front ++ selector ++ back) = front.length + Text.indent selector := by
      have hnot : ¬ Text.Blank (front ++ selector) :=
        fun hall => hblank (List.forall_mem_append.mp hall).2
      rw [Text.indent_append hnot, Text.indent_blank_append hfront]
    rw [parse_eq_shift, Text.trim_blank_append_blank hfront hback, hindent,
      parse_eq_shift caseSensitive selector]
    cases parse caseSensitive (Text.trim selector) with
    | ok chain => rfl
    | error fault =>
      refine congrArg Except.error ?_
      rw [Fault.shift_shift]

/-- Blanks behind a selector do not matter. -/
theorem parse_append_blank (caseSensitive : Bool) {back : Text} (h : Text.Blank back)
    (selector : Text) : parse caseSensitive (selector ++ back) = parse caseSensitive selector := by
  have hblank := parse_blank_append caseSensitive Text.blank_nil h selector
  rwa [List.length_nil, mapError_shift_zero, List.nil_append] at hblank

/-- A tight text that does not open with a slash fares behind two slashes as it does by itself, with
columns moved by two. -/
theorem parse_slashes_append (caseSensitive : Bool) {text : Text} (htight : Text.Tight text)
    (hslash : text.head? ≠ some '/') :
    parse caseSensitive ('/' :: '/' :: text) =
      (parse caseSensitive text).mapError (Fault.shift 2) := by
  refine parse_of_cut_eq ?_
  have htight' : Text.Tight ('/' :: '/' :: text) :=
    (htight.cons (by decide)).cons (by decide)
  have hcomplete : (complete 0 text).1 = '/' :: '/' :: text := by
    rw [complete_of_ne_slash 0 hslash]
  rw [cut_eq_mapError, cut_eq_mapError text, htight.trim_eq, htight'.trim_eq,
    Text.indent_eq_zero htight.1, Text.indent_eq_zero htight'.1, complete_slash 0 rfl, hcomplete]
  cases hscan : Segment.scanAll ('/' :: '/' :: text) with
  | ok segments => rfl
  | error unread =>
    have hsuffix : unread <:+ text := suffix_of_scanAll_complete (hcomplete ▸ hscan)
    have hmoved : Segment.unreadable 0 (['/', '/'] ++ text) unread =
        (Segment.unreadable 0 text unread).shift 2 :=
      Segment.unreadable_append (by simp) hsuffix
    refine congrArg Except.error ?_
    simp only [Reason.shift_zero]
    exact hmoved

/-! ### Selectors that fare alike -/

/-- Two outcomes of compiling are alike: the same chain, or a refusal for the same reason at columns
that `moved` relates or at none, or the same breakdown. -/
inductive Alike (moved : Nat → Nat → Prop) :
    Except SelectorError Chain → Except SelectorError Chain → Prop
  | chain (chain : Chain) : Alike moved (.ok chain) (.ok chain)
  | refused {cited other : Text} {reason found : Reason} (htext : reason.text = found.text)
      (hcolumn : Option.Rel moved reason.column? found.column?) :
      Alike moved (.error ⟨cited, .malformed reason⟩) (.error ⟨other, .malformed found⟩)
  | broken {cited other : Text} (cause : Breakdown) :
      Alike moved (.error ⟨cited, .breakdown cause⟩) (.error ⟨other, .breakdown cause⟩)

/-- Selectors that fare as one outcome, each with columns moved in its own way, fare alike. -/
theorem alike_of_shift {caseSensitive : Bool} {selector other : Text}
    {outcome : Except Fault Chain} {first second : Nat} {moved : Nat → Nat → Prop}
    (hselector : parse caseSensitive selector = outcome.mapError (Fault.shift first))
    (hother : parse caseSensitive other = outcome.mapError (Fault.shift second))
    (hmoved : ∀ column, moved (first + column) (second + column)) :
    Alike moved (compile caseSensitive selector) (compile caseSensitive other) := by
  rw [compile, compile, hselector, hother]
  cases outcome with
  | ok chain => exact .chain chain
  | error fault =>
    cases fault with
    | breakdown cause => exact .broken cause
    | malformed reason =>
      refine .refused (by rw [Reason.text_shift, Reason.text_shift]) ?_
      rw [Reason.column?_shift, Reason.column?_shift]
      cases reason.column? with
      | none => exact .none
      | some column => exact .some (hmoved column)

/-- A selector that fares as another with columns moved to the right. -/
theorem alike_of_parse_eq {caseSensitive : Bool} {selector other : Text} {count : Nat}
    (h : parse caseSensitive other =
      (parse caseSensitive selector).mapError (Fault.shift count)) :
    Alike (fun column moved => moved = column + count) (compile caseSensitive selector)
      (compile caseSensitive other) := by
  have hself := (mapError_shift_zero (parse caseSensitive selector)).symm
  refine alike_of_shift hself h fun column => ?_
  omega

/-- **Only the trimmed and completed text matters.** Blanks around a selector leave its chain, or
the reason for its refusal, as they are and add their number in front to the column. A selector
that does not open with a slash fares like itself behind two slashes, where its column `c` behind
`k` blanks becomes `c - k + 2`. -/
theorem compile_alike_normalised (caseSensitive : Bool) (selector : Text) :
    (∀ front back, Text.Blank front → Text.Blank back →
      Alike (fun column moved => moved = column + front.length)
        (compile caseSensitive selector) (compile caseSensitive (front ++ selector ++ back))) ∧
    ((Text.trim selector).head? ≠ some '/' →
      Alike (fun column moved => (moved : Int) = column - Text.indent selector + 2)
        (compile caseSensitive selector)
        (compile caseSensitive ('/' :: '/' :: Text.trimStart selector))) := by
  refine ⟨fun front back hfront hback => ?_, fun hslash => ?_⟩
  · exact alike_of_parse_eq (parse_blank_append caseSensitive hfront hback selector)
  · -- both selectors fare as the trim does, moved by the indent and by the two slashes
    obtain ⟨back, hback, hstart⟩ := Text.exists_trimEnd_append (Text.trimStart selector)
    have hother : parse caseSensitive ('/' :: '/' :: Text.trimStart selector) =
        (parse caseSensitive (Text.trim selector)).mapError (Fault.shift 2) := by
      rw [hstart, ← Text.trim, ← List.cons_append, ← List.cons_append,
        parse_append_blank caseSensitive hback,
        parse_slashes_append caseSensitive (Text.tight_trim selector) hslash]
    refine alike_of_shift (parse_eq_shift caseSensitive selector) hother fun column => ?_
    omega

/-- A bare selector that is refused at its fourth column, behind three more blanks and with slashes
in the place of its own two. -/
theorem compile_alike_normalised_bare :
    let selector := "  a]b".toList
    compile true selector = .error ⟨selector, .malformed (.unexpectedChar ']' 4)⟩ ∧
      Text.Blank " \t ".toList ∧ Text.Blank "\n".toList ∧
      (Text.trim selector).head? ≠ some '/' ∧
      Alike (fun column moved => moved = column + 3) (compile true selector)
        (compile true (" \t ".toList ++ selector ++ "\n".toList)) ∧
      Alike (fun column moved => (moved : Int) = column - 2 + 2) (compile true selector)
        (compile true "//a]b".toList) := by
  intro selector
  have hfront : Text.Blank " \t ".toList := by decide
  have hback : Text.Blank "\n".toList := by decide
  have hslash : (Text.trim selector).head? ≠ some '/' := by decide
  obtain ⟨hblank, hslashes⟩ := compile_alike_normalised true selector
  exact ⟨by decide +kernel, hfront, hback, hslash, hblank _ _ hfront hback, hslashes hslash⟩

end Chain

end PathSelector
