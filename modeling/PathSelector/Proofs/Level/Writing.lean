import PathSelector.Proofs.Condition.Grouping
import PathSelector.Proofs.Level.Reading

/-!
# Reading back a level

A level is written as one segment: its axis, its target with its reference, the group of its
conditions and its index. A well-formed level is read back from this segment exactly when its
conditions are and its target is not an element of the name that stands for text nodes.

Main definitions:

* `Level.toSegment`: the segment that writes a level;
* `Level.Legible`: what a level must not hold to be read back.

Main statements:

* `ofSegment_toSegment_iff`: the segment that writes a well-formed level belongs to the grammar and
  is read back exactly when the level is legible;
* `eq_toSegment`: a segment that is read as a level and is written where the level is, is the
  segment that writes it.
-/

namespace PathSelector

namespace Level

/-- The bracketed text that writes some conditions, if there are any. -/
def conditionBodies : List Condition → List Text
  | [] => []
  | conditions => [Condition.group conditions]

/-- The bracketed text that writes an index, if there is one. -/
def indexBodies : Option Index → List Text
  | none => []
  | some index => [index.body]

/-- The segment that writes a level. -/
def toSegment (level : Level) : Segment where
  lead := level.axis.lead
  name := level.target.render ++ renderReference level.reference
  bodies := conditionBodies level.conditions ++ indexBodies level.index

/-- A level that is read back: its target is not an element of the name that stands for text nodes,
and its conditions are legible. -/
structure Legible (level : Level) : Prop where
  target_ne : level.target ≠ .element Target.textWord
  conditions : Condition.GroupLegible level.conditions

theorem conditionBodies_of_ne_nil {conditions : List Condition} (h : conditions ≠ []) :
    conditionBodies conditions = [Condition.group conditions] := by
  obtain ⟨first, rest, rfl⟩ := List.exists_cons_of_ne_nil h
  rfl

/-- The segment that writes a level is written like the level. -/
theorem render_toSegment (level : Level) : level.toSegment.render = level.render := by
  have hconditions : (conditionBodies level.conditions).flatMap Segment.bracketed =
      renderConditions level.conditions := by
    cases level.conditions with
    | nil => rfl
    | cons c rest => simp [conditionBodies, renderConditions, Segment.bracketed, Condition.group]
  have hindex : (indexBodies level.index).flatMap Segment.bracketed = renderIndex level.index := by
    cases level.index with
    | none => rfl
    | some index => simp [indexBodies, renderIndex, Segment.bracketed, Index.render]
  rw [Segment.render, toSegment, List.flatMap_append, hconditions, hindex, render]
  simp only [List.append_assoc]

/-! ### Names -/

theorem not_blank_of_isNameChar {name : Text} (hne : name ≠ [])
    (h : ∀ c ∈ name, Segment.isNameChar c = true) : ¬ Text.Blank name := by
  obtain ⟨c, rest, rfl⟩ := List.exists_cons_of_ne_nil hne
  intro hblank
  have hchar := Segment.isNameChar_iff.mp (h c List.mem_cons_self)
  rw [hblank c List.mem_cons_self] at hchar
  cases hchar.2.2.2

/-- What writes a target of a well-formed level is part of a name and has no marks. -/
theorem WellFormed.render_target {caseSensitive : Bool} {level : Level}
    (h : level.WellFormed caseSensitive) :
    level.target.render ≠ [] ∧ (∀ c ∈ level.target.render, Segment.isNameChar c = true) ∧
      ∀ kind : Shorthand, kind.mark ∉ level.target.render := by
  cases htarget : level.target with
  | any => exact ⟨by decide, by decide, by intro kind; cases kind <;> decide⟩
  | text => exact ⟨by decide, by decide, by intro kind; cases kind <;> decide⟩
  | element name =>
    have hname := h.isName name htarget
    exact ⟨hname.ne_nil, hname.isNameChar, hname.plain⟩

theorem WellFormed.isNameChar_name {caseSensitive : Bool} {level : Level}
    (h : level.WellFormed caseSensitive) :
    ∀ c ∈ level.toSegment.name, Segment.isNameChar c = true := by
  obtain ⟨-, htarget, -⟩ := h.render_target
  intro c hc
  rcases List.mem_append.mp hc with hc | hc
  · exact htarget c hc
  · cases hreference : level.reference with
    | none =>
      rw [hreference] at hc
      cases hc
    | some name =>
      rw [hreference] at hc
      rcases List.mem_cons.mp hc with rfl | hc
      · decide
      · exact (h.isReference name hreference).isNameChar c hc

/-- The name that writes a well-formed level is cut into its target and its reference. -/
theorem WellFormed.split_name {caseSensitive : Bool} {level : Level}
    (h : level.WellFormed caseSensitive) :
    LevelName.split level.toSegment.name =
      .ok ⟨level.target.render, level.reference.map (Shorthand.reference, ·)⟩ := by
  obtain ⟨-, -, hplain⟩ := h.render_target
  rw [toSegment]
  cases hreference : level.reference with
  | none =>
    rw [renderReference, List.append_nil, LevelName.split_of_plain hplain]
    rfl
  | some name =>
    have hname := h.isReference name hreference
    have hblank := not_blank_of_isNameChar hname.ne_nil hname.isNameChar
    exact LevelName.split_append_shorthand hplain hname.plain hblank fun hne => absurd rfl hne

theorem reference_map (path : Text) (name : Option Text) :
    LevelName.reference ⟨path, name.map (Shorthand.reference, ·)⟩ = name := by
  cases name <;> rfl

theorem conditions_map (path : Text) (name : Option Text) :
    LevelName.conditions ⟨path, name.map (Shorthand.reference, ·)⟩ = [] := by
  cases name <;> rfl

/-- The target of a well-formed level is read back unless it is an element of the name that stands
for text nodes. -/
theorem WellFormed.ofPath_render_iff {caseSensitive : Bool} {level : Level}
    (h : level.WellFormed caseSensitive) :
    Target.ofPath caseSensitive level.target.render = .ok level.target ↔
      level.target ≠ .element Target.textWord := by
  cases htarget : level.target with
  | any => exact iff_of_true (by cases caseSensitive <;> decide) nofun
  | text => exact iff_of_true (by cases caseSensitive <;> decide) nofun
  | element name =>
    have hname := h.isName name htarget
    have hblank : name.all Text.isBlank = false := by
      simpa [Text.Blank] using not_blank_of_isNameChar hname.ne_nil hname.isNameChar
    by_cases htext : name = Target.textWord
    · simp [Target.ofPath_eq, Target.render, htext]
    · simp [Target.ofPath_eq, Target.render, htext, hblank, hname.ne_wildcard, hname.folded]

/-! ### Bracketed texts -/

theorem isBody_of_mem_indexBodies {index : Option Index} {body : Text}
    (h : body ∈ indexBodies index) : Segment.IsBody body := by
  cases index with
  | none => cases h
  | some index =>
    obtain rfl := List.mem_singleton.mp h
    refine Condition.isBody_iff.mpr ⟨Index.body_ne_nil index, ?_, ?_⟩
    · exact Condition.openQuote_none_of_plain fun c hc => (Index.plain_of_mem_body hc).1
    · exact Condition.not_bareFrom_of_notMem fun hc => (Index.plain_of_mem_body hc).2 rfl

/-- The index of a well-formed level is read back. -/
theorem WellFormed.ofBodies_indexBodies {caseSensitive : Bool} {level : Level}
    (h : level.WellFormed caseSensitive) :
    Modifiers.ofBodies caseSensitive (indexBodies level.index) = .ok ⟨[], level.index⟩ := by
  cases hindex : level.index with
  | none => rfl
  | some index =>
    have hread := Index.parse?_body (h.index index hindex)
    rw [indexBodies, Modifiers.ofBodies_cons_of_index hread, if_pos rfl]

/-- A text that opens like a group of conditions is no index. -/
theorem parse?_of_head?_group {conditions : List Condition} {body : Text} (hne : conditions ≠ [])
    (hhead : body.head? = (Condition.group conditions).head?) : Index.parse? body = .ok none := by
  obtain ⟨c, hc, hsign⟩ := Condition.head?_group hne
  exact Index.parse?_of_head (hhead.trans hc) hsign

/-- The bracketed texts that write a well-formed level may stand between brackets and are read back
exactly when its conditions are legible. -/
theorem WellFormed.ofBodies_toSegment_iff {caseSensitive : Bool} {level : Level}
    (h : level.WellFormed caseSensitive) :
    (∀ body ∈ level.toSegment.bodies, Segment.IsBody body) ∧
        Modifiers.ofBodies caseSensitive level.toSegment.bodies =
          .ok ⟨level.conditions, level.index⟩ ↔
      Condition.GroupLegible level.conditions := by
  have hindex := h.ofBodies_indexBodies
  rw [toSegment]
  by_cases hne : level.conditions = []
  · rw [hne, conditionBodies, List.nil_append, hindex]
    exact iff_of_true ⟨fun body => isBody_of_mem_indexBodies, rfl⟩ ⟨nofun, nofun⟩
  · rw [← Condition.parseAll_group_iff hne h.conditions, conditionBodies_of_ne_nil hne,
      List.singleton_append, List.forall_mem_cons,
      Modifiers.ofBodies_cons_eq_ok_iff (parse?_of_head?_group hne rfl), hindex]
    constructor
    · rintro ⟨⟨hbody, -⟩, tests, more, htests, hmore, heq⟩
      obtain rfl := Except.ok.inj hmore
      obtain ⟨hconditions, -⟩ := Modifiers.mk.inj heq
      rw [List.append_nil] at hconditions
      exact ⟨hbody, hconditions ▸ htests⟩
    · rintro ⟨hbody, hparse⟩
      refine ⟨⟨hbody, fun body => isBody_of_mem_indexBodies⟩, level.conditions, _, hparse, rfl, ?_⟩
      rw [List.append_nil]

/-! ### Levels -/

/-- What a segment of the name that writes a well-formed level is read as. -/
theorem WellFormed.ofSegment_eq_ok_iff_of_name {caseSensitive : Bool} {level : Level}
    (h : level.WellFormed caseSensitive) {segment : Segment}
    (hname : segment.name = level.toSegment.name) :
    ofSegment caseSensitive segment = .ok level ↔
      segment.lead = level.axis.lead ∧
        Modifiers.ofBodies caseSensitive segment.bodies = .ok ⟨level.conditions, level.index⟩ ∧
          level.target ≠ .element Target.textWord := by
  have hoccupied : segment.Occupied := by
    refine Or.inl ?_
    rw [hname, toSegment]
    exact List.append_ne_nil_of_left_ne_nil h.render_target.1 _
  rw [ofSegment_eq_ok_iff, hname, h.split_name, ← h.ofPath_render_iff]
  constructor
  · rintro ⟨-, hlead, -, parts, modifiers, hparts, hbodies, htarget, -, hindex, hconditions⟩
    obtain rfl := Except.ok.inj hparts
    rw [conditions_map, List.nil_append] at hconditions
    rw [hindex, hconditions]
    exact ⟨hlead, hbodies, htarget⟩
  · rintro ⟨hlead, hbodies, htarget⟩
    refine ⟨hoccupied, hlead, h.caseSensitive_eq, _, _, rfl, hbodies, htarget, ?_, rfl, ?_⟩
    · rw [reference_map]
    · rw [conditions_map, List.nil_append]

/-- **A level is read back.** The segment that writes a well-formed level belongs to the grammar and
is read as the level exactly when the level is legible. -/
theorem ofSegment_toSegment_iff {caseSensitive : Bool} {level : Level}
    (h : level.WellFormed caseSensitive) :
    level.toSegment.WellFormed ∧ ofSegment caseSensitive level.toSegment = .ok level ↔
      level.Legible := by
  have hbodies := h.ofBodies_toSegment_iff
  rw [h.ofSegment_eq_ok_iff_of_name rfl]
  constructor
  · rintro ⟨hsegment, -, hread, htarget⟩
    exact ⟨htarget, hbodies.mp ⟨hsegment.isBody, hread⟩⟩
  · rintro ⟨htarget, hconditions⟩
    obtain ⟨hbody, hread⟩ := hbodies.mpr hconditions
    have hlead : level.axis.lead ≠ [] ∧ ∀ c ∈ level.axis.lead, c = '/' := by
      cases level.axis <;> decide
    refine ⟨⟨hlead.1, hlead.2, fun c hc => ?_, hbody⟩, rfl, hread, htarget⟩
    exact Segment.isNameChar_iff.mp (h.isNameChar_name c hc)

/-- Bracketed texts are told from what follows them. -/
theorem bodies_unique {bodies others : List Text} {x y : Text}
    (hbodies : ∀ body ∈ bodies, Segment.IsBody body)
    (hothers : ∀ body ∈ others, Segment.IsBody body)
    (hx : x.head? ≠ some '[') (hy : y.head? ≠ some '[')
    (heq : bodies.flatMap Segment.bracketed ++ x = others.flatMap Segment.bracketed ++ y) :
    bodies = others ∧ x = y := by
  have hleft := Segment.scanBodies_flatMap_append hbodies hx
  have hright := Segment.scanBodies_flatMap_append hothers hy
  rw [heq, hright] at hleft
  obtain ⟨h₁, h₂⟩ := Prod.mk.inj (Except.ok.inj hleft)
  exact ⟨h₁.symm, h₂.symm⟩

/-- **Bracketed texts that are read as the conditions and the index of a level** and are written
where those are, are the ones that write them. -/
theorem eq_bodies {caseSensitive : Bool} {level : Level} {bodies : List Text} {x y : Text}
    (hbodies : ∀ body ∈ bodies, Segment.IsBody body)
    (hread : Modifiers.ofBodies caseSensitive bodies = .ok ⟨level.conditions, level.index⟩)
    (hx : x.head? ≠ some '[') (hy : y.head? ≠ some '[')
    (heq : bodies.flatMap Segment.bracketed ++ x =
      level.toSegment.bodies.flatMap Segment.bracketed ++ y) :
    bodies = level.toSegment.bodies ∧ x = y := by
  by_cases hne : level.conditions = []
  · refine bodies_unique hbodies ?_ hx hy heq
    rw [toSegment, hne]
    exact fun body => isBody_of_mem_indexBodies
  · rw [toSegment, conditionBodies_of_ne_nil hne] at heq ⊢
    cases bodies with
    | nil =>
      rw [List.flatMap_nil, List.nil_append] at heq
      exact absurd (by rw [heq]; rfl) hx
    | cons body rest =>
      obtain ⟨hbody, hrest⟩ := List.forall_mem_cons.mp hbodies
      have hinner : body ++ ']' :: (rest.flatMap Segment.bracketed ++ x) =
          Condition.group level.conditions ++
            ']' :: ((indexBodies level.index).flatMap Segment.bracketed ++ y) := by
        simpa [Segment.bracketed] using heq
      -- the first bracket opens like the group, so it is read as conditions and not as an index
      have hhead : body.head? = (Condition.group level.conditions).head? := by
        have hboth := congrArg List.head? hinner
        rwa [List.head?_append_of_ne_nil _ hbody.ne_nil,
          List.head?_append_of_ne_nil _ (Condition.group_ne_nil hne)] at hboth
      obtain ⟨tests, more, htests, hmore, hmodifiers⟩ :=
        (Modifiers.ofBodies_cons_eq_ok_iff (parse?_of_head?_group hne hhead)).mp hread
      obtain ⟨hconditions, hindex⟩ := Modifiers.mk.inj hmodifiers
      have hgroup : body = Condition.group level.conditions := by
        have hjoined := Condition.intercalate_atoms body
        rw [← hjoined, hconditions] at hinner
        have hparts : Condition.atoms body = (tests ++ more.conditions).map Condition.render :=
          (Condition.eq_map_render (Condition.atomsFrom_ne_nil none body)
            (mapM_eq_ok_iff.mp htests) hinner).1
        rw [← hjoined, hparts, hconditions, Condition.group]
      -- all conditions are read from it, which leaves the index to the other brackets
      rw [hgroup] at hinner
      obtain ⟨-, htail⟩ := List.cons.inj (List.append_cancel_left hinner)
      obtain ⟨hrest, hxy⟩ :=
        bodies_unique hrest (fun body => isBody_of_mem_indexBodies) hx hy htail
      rw [hgroup, hrest]
      exact ⟨rfl, hxy⟩

/-- What follows the name of a segment is not part of a name. -/
theorem isNameChar_head?_append (bodies : List Text) {x : Text}
    (hx : ∀ c, x.head? = some c → c = '/') :
    ∀ c, (bodies.flatMap Segment.bracketed ++ x).head? = some c → Segment.isNameChar c = false := by
  intro c hc
  rcases Segment.head?_flatMap_bracketed_append hc with rfl | ⟨-, hslash⟩
  · decide
  · obtain rfl := hx c hslash
    decide

/-- **A segment that is read as a level** and is written where the level is, up to the end or the
next slash, is the segment that writes it. -/
theorem eq_toSegment {caseSensitive : Bool} {segment : Segment} {level : Level} {x y : Text}
    (hsegment : segment.WellFormed) (hread : ofSegment caseSensitive segment = .ok level)
    (hx : ∀ c, x.head? = some c → c = '/') (hy : ∀ c, y.head? = some c → c = '/')
    (heq : segment.render ++ x = level.render ++ y) : segment = level.toSegment ∧ x = y := by
  have h := wellFormed_of_ofSegment hsegment hread
  have hlead : segment.lead = level.toSegment.lead := (ofSegment_eq_ok_iff.mp hread).2.1
  have hbracket : ∀ {text : Text}, (∀ c, text.head? = some c → c = '/') →
      text.head? ≠ some '[' := fun htext hhead => absurd (htext _ hhead) (by decide)
  rw [← render_toSegment, Segment.render, Segment.render, hlead] at heq
  simp only [List.append_assoc, List.append_cancel_left_eq] at heq
  -- the names are all that a name can take of the two texts
  obtain ⟨htake, hdrop⟩ := Segment.takeWhile_dropWhile_append hsegment.isNameChar _
    (isNameChar_head?_append segment.bodies hx)
  obtain ⟨htake', hdrop'⟩ := Segment.takeWhile_dropWhile_append h.isNameChar_name _
    (isNameChar_head?_append level.toSegment.bodies hy)
  rw [heq] at htake hdrop
  have hname : segment.name = level.toSegment.name := htake.symm.trans htake'
  have htail := hdrop.symm.trans hdrop'
  have hmodifiers := ((h.ofSegment_eq_ok_iff_of_name hname).mp hread).2.1
  obtain ⟨hbodies, hxy⟩ := eq_bodies hsegment.isBody hmodifiers (hbracket hx) (hbracket hy) htail
  refine ⟨?_, hxy⟩
  obtain ⟨lead, name, bodies⟩ := segment
  obtain rfl : lead = _ := hlead
  obtain rfl : name = _ := hname
  obtain rfl : bodies = _ := hbodies
  rfl

end Level

end PathSelector
