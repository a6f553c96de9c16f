import PathSelector.Level.Parser
import PathSelector.Proofs.Condition.Reading
import PathSelector.Proofs.Index.Reading
import PathSelector.Proofs.Outcomes
import PathSelector.Proofs.Segment.Grammar

/-!
# What is read as a level

How a name falls into its path and its shorthand, what the bracketed texts of a level give, and
what holds of every level that is built from a segment.

Main definitions:

* `Target.IsName`, `Level.IsReference`: the names of elements and of fragments that are read;
* `Level.WellFormed`: what holds of every level read from a segment.

Main statements:

* `LevelName.split_eq_ok`: a name that is cut is its path, the mark and the value;
* `Level.ofSegment_eq_ok_iff`: what it takes for a segment to be read as a level;
* `Level.wellFormed_of_ofSegment`: a level read from a segment of the grammar is well formed.
-/

namespace PathSelector

namespace LevelName

/-! ### Names and their shorthand -/

theorem mem_marks_iff {kind : Shorthand} {name : Text} : kind ∈ marks name ↔ kind.mark ∈ name := by
  simp [marks, Shorthand.mem_all]

theorem marks_eq_nil_iff {name : Text} :
    marks name = [] ↔ ∀ kind : Shorthand, kind.mark ∉ name := by
  simp only [List.eq_nil_iff_forall_not_mem, mem_marks_iff]

/-- A name without marks is all path. -/
theorem split_of_plain {path : Text} (h : ∀ kind : Shorthand, kind.mark ∉ path) :
    split path = .ok ⟨path, none⟩ := by
  rw [split, marks_eq_nil_iff.mpr h]

/-- A name with a shorthand behind its path. -/
theorem split_append_shorthand {kind : Shorthand} {path value : Text}
    (hpath : ∀ other : Shorthand, other.mark ∉ path)
    (hother : ∀ other : Shorthand, other ≠ kind → other.mark ∉ value) (hvalue : ¬ Text.Blank value)
    (hquotes : kind ≠ .reference → ¬ (Text.singleQuote ∈ value ∧ Text.doubleQuote ∈ value)) :
    split (path ++ kind.mark :: value) = .ok ⟨path, some (kind, value)⟩ := by
  have hmem : ∀ other : Shorthand, other.mark ∈ path ++ kind.mark :: value ↔ other = kind := by
    intro other
    constructor
    · intro hmark
      by_contra hne
      rcases List.mem_append.mp hmark with hmark | hmark
      · exact hpath other hmark
      · rcases List.mem_cons.mp hmark with hmark | hmark
        · exact hne (Shorthand.mark_injective hmark)
        · exact hother other hne hmark
    · rintro rfl
      exact List.mem_append_right _ List.mem_cons_self
  have hmarks : marks (path ++ kind.mark :: value) = [kind] := by
    simp only [marks, hmem]
    cases kind <;> rfl
  have hafter : valueOf kind (path ++ kind.mark :: value) = value := by
    rw [valueOf, Text.after?_append_mark (hpath kind), Option.getD_some]
  have hblank : ¬ value.all Text.isBlank := by simpa [Text.Blank] using hvalue
  have hmixed : ¬ (kind ≠ .reference ∧ Text.singleQuote ∈ value ∧ Text.doubleQuote ∈ value) :=
    fun h => hquotes h.1 h.2
  rw [split, hmarks]
  simp only [hafter, if_neg hblank, if_neg hmixed, Text.upTo_append_mark (hpath kind)]

/-- A name that is cut has no marks and is all path, or it has marks of one kind, the first of
which stands between its path and its value. A value that is not a reference holds one kind of
quotes at most. -/
theorem split_eq_ok {name : Text} {parts : LevelName} (h : split name = .ok parts) :
    (∀ kind : Shorthand, kind.mark ∉ name) ∧ parts = ⟨name, none⟩ ∨
      ∃ kind value, (∀ other : Shorthand, other ≠ kind → other.mark ∉ name) ∧
        kind.mark ∉ parts.path ∧ name = parts.path ++ kind.mark :: value ∧ value ≠ [] ∧
        (kind ≠ .reference → ¬ (Text.singleQuote ∈ value ∧ Text.doubleQuote ∈ value)) ∧
          parts.shorthand = some (kind, value) := by
  unfold split at h
  split at h
  · next hmarks => exact Or.inl ⟨marks_eq_nil_iff.mp hmarks, (Except.ok.inj h).symm⟩
  · next kind hmarks =>
    have hmem : ∀ other : Shorthand, other.mark ∈ name → other = kind := by
      intro other hother
      simpa [hmarks] using mem_marks_iff.mpr hother
    obtain ⟨value, hvalue⟩ : ∃ value, Text.after? kind.mark name = some value := by
      refine Option.ne_none_iff_exists'.mp (mt Text.after?_eq_none_iff.mp ?_)
      exact not_not.mpr (mem_marks_iff.mp (by simp [hmarks]))
    simp only [valueOf, hvalue, Option.getD_some] at h
    split at h
    · cases h
    · next hblank =>
      split at h
      · cases h
      · next hquotes =>
        obtain rfl := Except.ok.inj h
        refine Or.inr ⟨kind, value, fun other hne hother => hne (hmem other hother),
          Text.mark_notMem_upTo _ _, (Text.upTo_append_after hvalue).symm, ?_,
          fun hkind hmixed => hquotes ⟨hkind, hmixed⟩, rfl⟩
        rintro rfl
        exact hblank rfl
  · cases h

theorem conditions_of_ne_reference {kind : Shorthand} (h : kind ≠ .reference)
    (path value : Text) :
    conditions ⟨path, some (kind, value)⟩ = [⟨kind.label, .equals, some value⟩] := by
  cases kind with
  | reference => exact absurd rfl h
  | _ => rfl

end LevelName

/-! ### Bracketed texts -/

namespace Modifiers

/-- What it takes for bracketed texts behind one that opens a condition to be read. -/
theorem ofBodies_cons_eq_ok_iff {caseSensitive : Bool} {body : Text} {rest : List Text}
    {modifiers : Modifiers} (hbody : Index.parse? body = .ok none) :
    ofBodies caseSensitive (body :: rest) = .ok modifiers ↔
      ∃ tests more, Condition.parseAll caseSensitive body = .ok tests ∧
        ofBodies caseSensitive rest = .ok more ∧
          modifiers = ⟨tests ++ more.conditions, more.index⟩ := by
  rw [ofBodies, Modifier.parse, hbody]
  cases Condition.parseAll caseSensitive body with
  | error reason => simp
  | ok tests =>
    cases ofBodies caseSensitive rest with
    | error fault => simp
    | ok more => simp [eq_comm]

/-- Bracketed texts behind one that is read as conditions are read by themselves. -/
theorem ofBodies_cons_of_conditions {caseSensitive : Bool} {body : Text} {tests : List Condition}
    (hbody : Index.parse? body = .ok none)
    (htests : Condition.parseAll caseSensitive body = .ok tests) (rest : List Text) :
    ofBodies caseSensitive (body :: rest) =
      (ofBodies caseSensitive rest).map fun more => ⟨tests ++ more.conditions, more.index⟩ := by
  rw [ofBodies, Modifier.parse, hbody]
  simp only [htests]
  cases ofBodies caseSensitive rest <;> rfl

/-- Bracketed texts that are read as an index are one text. -/
theorem ofBodies_cons_of_index {caseSensitive : Bool} {body : Text} {rest : List Text}
    {index : Index} (hbody : Index.parse? body = .ok (some index)) :
    ofBodies caseSensitive (body :: rest) =
      if rest = [] then .ok ⟨[], some index⟩ else .error (.malformed (.indexNotLast body)) := by
  rw [ofBodies, Modifier.parse, hbody]

/-- What bracketed texts give is well formed. -/
theorem wellFormed_of_ofBodies {caseSensitive : Bool} {bodies : List Text} {modifiers : Modifiers}
    (h : ofBodies caseSensitive bodies = .ok modifiers) :
    (∀ c ∈ modifiers.conditions, c.WellFormed caseSensitive) ∧
      ∀ index, modifiers.index = some index → index.WellFormed := by
  induction bodies generalizing modifiers with
  | nil =>
    obtain rfl := Except.ok.inj h
    exact ⟨nofun, nofun⟩
  | cons body rest ih =>
    cases hindex : Index.parse? body with
    | error limit =>
      rw [ofBodies, Modifier.parse, hindex] at h
      cases h
    | ok found =>
      cases found with
      | some index =>
        rw [ofBodies_cons_of_index hindex] at h
        split at h
        · obtain rfl := Except.ok.inj h
          refine ⟨nofun, fun position hposition => ?_⟩
          obtain rfl := Option.some.inj hposition
          exact Index.wellFormed_of_parse? hindex
        · cases h
      | none =>
        obtain ⟨tests, more, htests, hmore, rfl⟩ := (ofBodies_cons_eq_ok_iff hindex).mp h
        refine ⟨fun c hc => ?_, (ih hmore).2⟩
        rcases List.mem_append.mp hc with hc | hc
        · obtain ⟨atom, -, hatom⟩ := exists_of_mem_right (mapM_eq_ok_iff.mp htests) hc
          exact Condition.wellFormed_of_parse hatom
        · exact (ih hmore).1 c hc

end Modifiers

/-! ### Levels -/

/-- A name of elements as it is read: not empty, of characters that a name can hold without the
marks of a shorthand, not the wildcard, and folded. -/
structure Target.IsName (caseSensitive : Bool) (name : Text) : Prop where
  ne_nil : name ≠ []
  ne_wildcard : name ≠ wildcard
  isNameChar : ∀ c ∈ name, Segment.isNameChar c = true
  plain : ∀ kind : Shorthand, kind.mark ∉ name
  folded : Text.fold caseSensitive name = name

namespace Level

/-- A name of a fragment as it is read: not empty, of characters that a name can hold without the
marks of the other two kinds of shorthand. -/
structure IsReference (name : Text) : Prop where
  ne_nil : name ≠ []
  isNameChar : ∀ c ∈ name, Segment.isNameChar c = true
  plain : ∀ kind : Shorthand, kind ≠ .reference → kind.mark ∉ name

end Level

/-- The name of elements that a path stands for, when it stands for one. -/
theorem Target.isName_of_ofPath {caseSensitive : Bool} {path name : Text}
    (hchars : ∀ c ∈ path, Segment.isNameChar c = true)
    (hplain : ∀ kind : Shorthand, kind.mark ∉ path)
    (h : ofPath caseSensitive path = .ok (.element name)) : IsName caseSensitive name := by
  rw [ofPath_eq, Except.ok.injEq] at h
  split at h
  · cases h
  · split at h
    · cases h
    · next hany =>
      obtain rfl := Target.element.inj h
      rw [not_or] at hany
      obtain ⟨hblank, hstar⟩ := hany
      -- folding brings in small letters only, none of which has a meaning in a name
      refine ⟨?_, ?_, fun c hc => ?_, fun kind hkind => ?_, Text.fold_fold _ _⟩
      · rw [Ne, Text.fold_eq_nil_iff]
        rintro rfl
        exact hblank rfl
      · -- folding neither makes a star nor joins two characters to one
        intro hfold
        have hmem : '*' ∈ path := by
          have hstar : '*' ∈ Text.fold caseSensitive path := by simp [hfold, wildcard]
          rcases Text.mem_fold hstar with hmem | hletter
          · exact hmem
          · exact absurd rfl (hletter.ne (by decide))
        have hlen : path.length ≤ 1 := by
          have hle := Text.length_le_length_fold caseSensitive path
          rwa [hfold] at hle
        obtain ⟨c, rfl⟩ := List.length_eq_one_iff.mp
          (Nat.le_antisymm hlen (List.length_pos_of_mem hmem))
        obtain rfl := List.mem_singleton.mp hmem
        exact hstar rfl
      · rcases Text.mem_fold hc with hc | hletter
        · exact hchars c hc
        · exact Segment.isNameChar_iff.mpr
            ⟨hletter.ne (by decide), hletter.ne (by decide), hletter.ne (by decide), hletter.2⟩
      · rcases Text.mem_fold hkind with hkind | hletter
        · exact hplain kind hkind
        · exact absurd rfl (hletter.ne (by cases kind <;> decide))

namespace LevelName

/-- The condition that a shorthand stands for is well formed. -/
theorem wellFormed_of_mem_conditions {caseSensitive : Bool} {parts : LevelName} {c : Condition}
    (h : c ∈ parts.conditions) : c.WellFormed caseSensitive := by
  have hlabel : ∀ kind : Shorthand, ∀ value : Text,
      Condition.WellFormed caseSensitive ⟨kind.label, .equals, some value⟩ := by
    intro kind value
    have hne : kind.label ≠ [] := by cases kind <;> decide
    have hchars : ∀ c ∈ kind.label, c ≠ '=' ∧ Text.isBlank c = false := by cases kind <;> decide
    have hfold : Text.fold caseSensitive kind.label = kind.label := by
      cases caseSensitive <;> cases kind <;> decide
    exact ⟨hne, fun hmem => (hchars _ hmem).1 rfl,
      fun d hd => (hchars d (List.mem_of_getLast? hd)).2, hfold, by simp⟩
  unfold conditions at h
  split at h
  · cases h
  · cases h
  · obtain rfl := List.mem_singleton.mp h
    exact hlabel _ _

/-- The path of a name has no marks, and a reference in it is a name of a fragment. -/
theorem isNameChar_of_split {name : Text} {parts : LevelName}
    (hname : ∀ c ∈ name, Segment.isNameChar c = true) (h : split name = .ok parts) :
    (∀ c ∈ parts.path, Segment.isNameChar c = true) ∧
      (∀ kind : Shorthand, kind.mark ∉ parts.path) ∧
        ∀ value, parts.reference = some value → Level.IsReference value := by
  rcases split_eq_ok h with ⟨hplain, rfl⟩ | ⟨kind, found, hother, hfirst, heq, hne, -, hshorthand⟩
  · exact ⟨hname, hplain, nofun⟩
  · have hpath : ∀ c ∈ parts.path, c ∈ name := by
      intro c hc
      rw [heq]
      exact List.mem_append_left _ hc
    refine ⟨fun c hc => hname c (hpath c hc), fun other hmem => ?_, fun value hvalue => ?_⟩
    · by_cases hkind : other = kind
      · subst hkind
        exact hfirst hmem
      · exact hother other hkind (hpath _ hmem)
    · have hsame : kind = .reference ∧ found = value := by
        unfold reference at hvalue
        rw [hshorthand] at hvalue
        split at hvalue
        · next hsome => simp_all
        · cases hvalue
      obtain ⟨rfl, rfl⟩ := hsame
      have hmem : ∀ c ∈ found, c ∈ name := by
        intro c hc
        rw [heq]
        exact List.mem_append_right _ (List.mem_cons_of_mem _ hc)
      exact ⟨hne, fun c hc => hname c (hmem c hc), fun other hkind hc =>
        hother other hkind (hmem _ hc)⟩

end LevelName

namespace Level

/-- What holds of every level that is read from a segment. -/
structure WellFormed (caseSensitive : Bool) (level : Level) : Prop where
  caseSensitive_eq : level.caseSensitive = caseSensitive
  isName : ∀ name, level.target = .element name → Target.IsName caseSensitive name
  isReference : ∀ name, level.reference = some name → IsReference name
  index : ∀ index, level.index = some index → index.WellFormed
  conditions : ∀ c ∈ level.conditions, c.WellFormed caseSensitive

/-- What it takes for a segment to be read as a level. -/
theorem ofSegment_eq_ok_iff {caseSensitive : Bool} {segment : Segment} {level : Level} :
    ofSegment caseSensitive segment = .ok level ↔
      segment.Occupied ∧ segment.lead = level.axis.lead ∧ level.caseSensitive = caseSensitive ∧
        ∃ parts modifiers, LevelName.split segment.name = .ok parts ∧
          Modifiers.ofBodies caseSensitive segment.bodies = .ok modifiers ∧
          Target.ofPath caseSensitive parts.path = .ok level.target ∧
          level.reference = parts.reference ∧ level.index = modifiers.index ∧
          level.conditions = parts.conditions ++ modifiers.conditions := by
  rw [← Axis.ofLead?_eq_some_iff]
  unfold ofSegment
  cases Axis.ofLead? segment.lead with
  | none => simp
  | some axis =>
    by_cases hempty : segment.name = [] ∧ segment.bodies = []
    · simp [hempty, Segment.Occupied]
    · have hoccupied : segment.Occupied := not_and_or.mp hempty
      cases LevelName.split segment.name with
      | error reason => simp [hempty]
      | ok parts =>
        cases Modifiers.ofBodies caseSensitive segment.bodies with
        | error fault => simp [hempty]
        | ok modifiers =>
          obtain ⟨_, _, _, _, _, _⟩ := level
          cases htarget : Target.ofPath caseSensitive parts.path with
          | error conflict => simp [hempty, htarget]
          | ok target => simp [hempty, hoccupied, htarget, eq_comm, and_left_comm]

/-- A level that is read from a segment of the grammar is well formed. -/
theorem wellFormed_of_ofSegment {caseSensitive : Bool} {segment : Segment} {level : Level}
    (hsegment : segment.WellFormed) (h : ofSegment caseSensitive segment = .ok level) :
    level.WellFormed caseSensitive := by
  obtain ⟨-, -, hcase, parts, modifiers, hsplit, hbodies, htarget, hreference, hindex,
    hconditions⟩ := ofSegment_eq_ok_iff.mp h
  obtain ⟨hpath, hplain, hvalue⟩ := LevelName.isNameChar_of_split hsegment.isNameChar hsplit
  obtain ⟨hwf, hposition⟩ := Modifiers.wellFormed_of_ofBodies hbodies
  refine ⟨hcase, fun name hname => ?_, fun name hname => ?_, fun index => ?_, fun c hc => ?_⟩
  · exact Target.isName_of_ofPath hpath hplain (hname ▸ htarget)
  · exact hvalue name (hreference.symm.trans hname)
  · rw [hindex]
    exact hposition index
  · rw [hconditions] at hc
    rcases List.mem_append.mp hc with hc | hc
    · exact LevelName.wellFormed_of_mem_conditions hc
    · exact hwf c hc

end Level

end PathSelector
