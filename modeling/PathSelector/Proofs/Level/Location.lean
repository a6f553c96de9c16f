import PathSelector.Proofs.Level.Fault
import PathSelector.Proofs.Segment.Viability
import PathSelector.Proofs.Text.Quoted
import PathSelector.Proofs.Text.Trim

/-!
# Where a level or its modifiers are refused

A level that is read by itself is trimmed before it is cut, and so are the modifiers of a level.
Unlike for a whole selector, nothing makes up for the blanks that are trimmed in front: a column in
a refusal counts from the first character that is not blank. It is the place of the character that
the reason names in the trimmed text, and in the text as it was given that character stands further
right by the blanks in front.

Main statements:

* `Reason.Names.unique`: a reason names one character at most;
* `Level.located_of_parse`, `Modifiers.located_of_parse`: a refusal with a column comes from the
  trimmed text;
* `Text.exists_of_located_trim`: the place of its character in the text as given;
* `Level.column_names_iff_of_parse`: when the column itself is that place, and
  `Level.not_forall_column_names`: it need not be.
-/

namespace PathSelector

/-- A reason names one character at most. -/
theorem Reason.Names.unique {reason : Reason} {c d : Char} (hc : reason.Names c)
    (hd : reason.Names d) : c = d := by
  have heq := hc.symm.trans hd
  simp only [List.append_assoc, List.append_cancel_left_eq, List.append_cancel_right_eq] at heq
  exact Text.quoted_singleton_inj heq

/-- A level that is refused at a column is refused in its trimmed text. -/
theorem Level.located_of_parse {caseSensitive : Bool} {text : Text} {reason : Reason}
    {column : Nat} (h : Level.parse caseSensitive text = .error (.malformed reason))
    (hcolumn : reason.column? = some column) :
    Segment.parse 0 (Text.trim text) = .error reason := by
  unfold Level.parse at h
  split at h
  · next hparse =>
    obtain rfl := Fault.malformed.inj (Except.error.inj h)
    exact hparse
  · -- a fault that is found while the level is built points at no character
    rw [Level.unlocated_of_ofSegment h reason rfl] at hcolumn
    cases hcolumn

/-- Modifiers that are refused at a column are refused in their trimmed text. -/
theorem Modifiers.located_of_parse {caseSensitive : Bool} {text : Text} {reason : Reason}
    {column : Nat} (h : Modifiers.parse caseSensitive text = .error (.malformed reason))
    (hcolumn : reason.column? = some column) :
    Segment.parseBodies 0 (Text.trim text) = .error reason := by
  unfold Modifiers.parse at h
  split at h
  · next hparse =>
    obtain rfl := Fault.malformed.inj (Except.error.inj h)
    exact hparse
  · rw [Modifiers.unlocated_of_ofBodies h reason rfl] at hcolumn
    cases hcolumn

/-- A column of the trimmed text is a place of the text, further right by the blanks in front. -/
theorem Text.exists_of_located_trim {Accepts : Text → Prop} {text : Text} {reason : Reason}
    {column : Nat} (h : Segment.ReportedAt Accepts (trim text) reason)
    (hcolumn : reason.column? = some column) :
    1 ≤ column ∧ indent text + column ≤ text.length ∧
      ∃ c, text[indent text + column - 1]? = some c ∧ reason.Names c := by
  obtain ⟨hpos, hle, ⟨c, hc, hnames⟩, -⟩ := h.located column hcolumn
  obtain ⟨front, back, -, hindent, -, htext⟩ := exists_indent_append_trim text
  have hlength := congrArg List.length htext
  simp only [List.length_append] at hlength
  refine ⟨hpos, by omega, c, ?_, hnames⟩
  have hplace : indent text + column - 1 = front.length + (column - 1) := by omega
  rw [hplace, htext, List.append_assoc, List.getElem?_append_right (Nat.le_add_right _ _),
    Nat.add_sub_cancel_left, List.getElem?_append_left (by omega)]
  exact hc

namespace Level

/-- **A column counts from the first character that is not blank.** When a level by itself, or the
modifiers of one, are refused at a column, the character that the reason names stands in the text as
given at that column moved by the blanks in front. Hence the reason names the character at the
column itself exactly when the two places hold the same character, as they do without blanks in
front. -/
theorem column_names_iff_of_parse {caseSensitive : Bool} {text : Text} {reason : Reason}
    {column : Nat}
    (h : Level.parse caseSensitive text = .error (.malformed reason) ∨
      Modifiers.parse caseSensitive text = .error (.malformed reason))
    (hcolumn : reason.column? = some column) :
    1 ≤ column ∧ Text.indent text + column ≤ text.length ∧
      (∃ c, text[Text.indent text + column - 1]? = some c ∧ reason.Names c) ∧
      ((∃ c, text[column - 1]? = some c ∧ reason.Names c) ↔
        text[column - 1]? = text[Text.indent text + column - 1]?) := by
  obtain ⟨hpos, hle, c, hc, hnames⟩ : 1 ≤ column ∧ Text.indent text + column ≤ text.length ∧
      ∃ c, text[Text.indent text + column - 1]? = some c ∧ reason.Names c := by
    rcases h with h | h
    · exact Text.exists_of_located_trim
        (Segment.reportedAt_of_parse (located_of_parse h hcolumn)) hcolumn
    · exact Text.exists_of_located_trim
        (Segment.reportedAt_of_parseBodies (Modifiers.located_of_parse h hcolumn)) hcolumn
  refine ⟨hpos, hle, ⟨c, hc, hnames⟩, ?_⟩
  constructor
  · rintro ⟨d, hd, hother⟩
    rw [hd, hc, hnames.unique hother]
  · intro hsame
    exact ⟨c, hsame.trans hc, hnames⟩

/-- Behind two blanks a level is refused at its third character, which is the fifth of the text; the
third of the text is another one. -/
theorem column_names_iff_of_parse_blanks :
    let text := "  /a]b".toList
    let reason := Reason.unexpectedChar ']' 3
    Level.parse true text = .error (.malformed reason) ∧ Text.indent text = 2 ∧
      text[Text.indent text + 3 - 1]? = some ']' ∧
        ¬ ∃ c, text[3 - 1]? = some c ∧ reason.Names c := by
  intro text reason
  have herror : Level.parse true text = .error (.malformed reason) := by decide +kernel
  obtain ⟨-, -, -, hright⟩ := column_names_iff_of_parse (Or.inl herror) rfl
  exact ⟨herror, by decide, by decide, fun hnamed => absurd (hright.mp hnamed) (by decide)⟩

/-- The column of a refusal need not be that of the named character, neither for a level nor for
modifiers. -/
theorem not_forall_column_names :
    (¬ ∀ (caseSensitive : Bool) (text : Text) (reason : Reason) (column : Nat),
      Level.parse caseSensitive text = .error (.malformed reason) →
        reason.column? = some column →
          1 ≤ column ∧ column ≤ text.length ∧ ∃ c, text[column - 1]? = some c ∧ reason.Names c) ∧
    ¬ ∀ (caseSensitive : Bool) (text : Text) (reason : Reason) (column : Nat),
      Modifiers.parse caseSensitive text = .error (.malformed reason) →
        reason.column? = some column →
          1 ≤ column ∧ column ≤ text.length ∧ ∃ c, text[column - 1]? = some c ∧ reason.Names c := by
  have hfails : ¬ ∃ c, "  a".toList[1 - 1]? = some c ∧ (Reason.unexpectedChar 'a' 1).Names c := by
    rintro ⟨c, hc, hnames⟩
    obtain rfl : ' ' = c := Option.some.inj hc
    have hnamed : (Reason.unexpectedChar 'a' 1).Names 'a' := rfl
    exact absurd (hnamed.unique hnames) (by decide)
  have hlevel : Level.parse true "  a".toList = .error (.malformed (.unexpectedChar 'a' 1)) := by
    decide +kernel
  have hmodifiers :
      Modifiers.parse true "  a".toList = .error (.malformed (.unexpectedChar 'a' 1)) := by
    decide +kernel
  exact ⟨fun h => hfails (h true _ _ 1 hlevel rfl).2.2,
    fun h => hfails (h true _ _ 1 hmodifiers rfl).2.2⟩

end Level

end PathSelector
