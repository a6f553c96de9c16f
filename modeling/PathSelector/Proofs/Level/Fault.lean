import PathSelector.Level.Parser
import PathSelector.Proofs.Condition.Reading
import PathSelector.Proofs.Outcomes

/-!
# Faults of a level

A selector is cut into segments before the first level is built. Only the cutting can point at a
character: a fault that is found while the level of a segment is built has no column
(`Level.unlocated_of_ofSegment`). A condition is refused for its form only
(`Condition.exists_malformed_of_parseAll`). Bracketed texts are read from left to right, and the
first that is refused decides (`Modifiers.ofBodies_eq_error_iff`).
-/

namespace PathSelector

/-- The fault points at no character. -/
def Fault.Unlocated (fault : Fault) : Prop :=
  ∀ reason, fault = .malformed reason → reason.column? = none

theorem Fault.unlocated_malformed {reason : Reason} (h : reason.column? = none) :
    (Fault.malformed reason).Unlocated := by
  intro other heq
  obtain rfl := Fault.malformed.inj heq
  exact h

theorem Fault.unlocated_breakdown (cause : Breakdown) : (Fault.breakdown cause).Unlocated := by
  intro reason heq
  cases heq

namespace Condition

/-- A text that is not read as a condition is refused for its form, and not at a character: its
token always writes an operator. -/
theorem exists_malformed_of_parse {caseSensitive : Bool} {text : Text} {fault : Fault}
    (h : parse caseSensitive text = .error fault) :
    ∃ reason, fault = .malformed reason ∧ reason.column? = none := by
  obtain ⟨operator, htoken⟩ := Fragment.exists_token_split_eq (Text.trim text)
  unfold parse at h
  simp only [htoken, Operator.ofToken_token] at h
  split at h
  · exact ⟨_, (Except.error.inj h).symm, rfl⟩
  · split at h
    · exact ⟨_, (Except.error.inj h).symm, rfl⟩
    · split at h
      · cases h
      · split at h
        · exact ⟨_, (Except.error.inj h).symm, rfl⟩
        · cases h

theorem exists_malformed_of_parseAll {caseSensitive : Bool} {body : Text} {fault : Fault}
    (h : parseAll caseSensitive body = .error fault) :
    ∃ reason, fault = .malformed reason ∧ reason.column? = none := by
  obtain ⟨atom, -, hatom⟩ := exists_of_mapM_eq_error h
  exact exists_malformed_of_parse hatom

end Condition

theorem Modifier.unlocated_of_parse {caseSensitive : Bool} {body : Text} {fault : Fault}
    (h : Modifier.parse caseSensitive body = .error fault) : fault.Unlocated := by
  unfold Modifier.parse at h
  split at h
  · exact Except.error.inj h ▸ Fault.unlocated_breakdown _
  · cases h
  · split at h
    · next hparse =>
      obtain rfl := Except.error.inj h
      obtain ⟨reason, rfl, hcolumn⟩ := Condition.exists_malformed_of_parseAll hparse
      exact Fault.unlocated_malformed hcolumn
    · cases h

/-- A bracketed text is refused in front of the bracketed texts `back` of its level: it cannot be
read, or it is an index and others follow it. -/
def Modifier.Refused (caseSensitive : Bool) (fault : Fault) (body : Text) (back : List Text) :
    Prop :=
  Modifier.parse caseSensitive body = .error fault ∨
    back ≠ [] ∧ (∃ position, Modifier.parse caseSensitive body = .ok (.index position)) ∧
      fault = .malformed (.indexNotLast body)

/-- Bracketed texts are refused as the first of them is that is refused in front of the others. -/
theorem Modifiers.ofBodies_eq_error_iff {caseSensitive : Bool} {bodies : List Text}
    {fault : Fault} :
    ofBodies caseSensitive bodies = .error fault ↔
      ∃ front body back, bodies = front ++ body :: back ∧
        (∀ other ∈ front, ∃ tests, Modifier.parse caseSensitive other = .ok (.conditions tests)) ∧
          Modifier.Refused caseSensitive fault body back := by
  induction bodies with
  | nil => exact ⟨nofun, by rintro ⟨front, body, back, heq, -⟩; simp at heq⟩
  | cons body rest ih =>
    rw [ofBodies, exists_stop_cons_iff, ← ih, Modifier.Refused]
    cases Modifier.parse caseSensitive body with
    | error found => simp
    | ok modifier =>
      cases modifier with
      | index position => by_cases hrest : rest = [] <;> simp [hrest, eq_comm]
      | conditions tests => cases ofBodies caseSensitive rest <;> simp

theorem Modifiers.unlocated_of_ofBodies {caseSensitive : Bool} {bodies : List Text}
    {fault : Fault} (h : Modifiers.ofBodies caseSensitive bodies = .error fault) :
    fault.Unlocated := by
  obtain ⟨front, body, back, -, -, hrefused⟩ := ofBodies_eq_error_iff.mp h
  rcases hrefused with hparse | ⟨-, -, rfl⟩
  · exact Modifier.unlocated_of_parse hparse
  · exact Fault.unlocated_malformed rfl

theorem LevelName.column?_of_split {name : Text} {reason : Reason}
    (h : LevelName.split name = .error reason) : reason.column? = none := by
  unfold split at h
  split at h
  · cases h
  · simp only at h
    split at h
    · exact Except.error.inj h ▸ rfl
    · split at h
      · exact Except.error.inj h ▸ rfl
      · cases h
  · exact Except.error.inj h ▸ rfl

/-- A fault that is found while the level of a segment is built points at no character. -/
theorem Level.unlocated_of_ofSegment {caseSensitive : Bool} {segment : Segment} {fault : Fault}
    (h : Level.ofSegment caseSensitive segment = .error fault) : fault.Unlocated := by
  unfold ofSegment at h
  split at h
  · exact Except.error.inj h ▸ Fault.unlocated_malformed rfl
  · split at h
    · exact Except.error.inj h ▸ Fault.unlocated_malformed rfl
    · split at h
      · next hsplit =>
        exact Except.error.inj h ▸ Fault.unlocated_malformed (LevelName.column?_of_split hsplit)
      · split at h
        · next hbodies => exact Except.error.inj h ▸ Modifiers.unlocated_of_ofBodies hbodies
        · split at h
          · exact Except.error.inj h ▸ Fault.unlocated_breakdown _
          · cases h

end PathSelector
