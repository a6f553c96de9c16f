import PathSelector.Proofs.Chain.Compile
import PathSelector.Proofs.Level.Writing

/-!
# Compiling the canonical writing

The canonical writing of a compiled selector is cut into the segments that write its levels, and
each level is read from its own segment. So the chain is compiled back exactly when each of its
levels is legible, and a chain that is not is either refused or compiles to another one.

Main statements:

* `parse_render_eq_ok_iff`: the canonical writing of a chain of well-formed levels is read as the
  chain exactly when all its levels are legible;
* `compile_render_iff`: the same for every chain that a selector compiles to;
* `compile_render_ne_of_text`: a selector whose chain is not compiled back.
-/

namespace PathSelector

/-- A segment of a name and bracketed texts does not end with a blank. -/
theorem Segment.getLast?_render {segment : Segment}
    (hname : ∀ c ∈ segment.name, Segment.isNameChar c = true) (h : segment.name ≠ []) :
    ∀ c, segment.render.getLast? = some c → Text.isBlank c = false := by
  intro c hc
  rw [Segment.render] at hc
  rcases List.eq_nil_or_concat segment.bodies with hnil | ⟨init, body, hbodies⟩
  · rw [hnil, List.flatMap_nil, List.append_nil, List.getLast?_append_of_ne_nil _ h] at hc
    exact (Segment.isNameChar_iff.mp (hname c (List.mem_of_getLast? hc))).2.2.2
  · have hlast : segment.bodies.flatMap Segment.bracketed =
        init.flatMap Segment.bracketed ++ '[' :: body ++ [']'] := by
      simp [hbodies, Segment.bracketed]
    rw [hlast, ← List.append_assoc, List.getLast?_concat] at hc
    obtain rfl := Option.some.inj hc
    decide

namespace Chain

/-- The canonical writing of a chain is written by the segments of its levels. -/
theorem render_eq_flatMap (chain : Chain) :
    render chain = (chain.map Level.toSegment).flatMap Segment.render := by
  induction chain with
  | nil => rfl
  | cons level chain ih =>
    rw [render_cons, List.map_cons, List.flatMap_cons, Level.render_toSegment, ih]

/-- The canonical writing of a chain opens with a slash. -/
theorem head?_render {chain : Chain} (h : chain ≠ []) : (render chain).head? = some '/' := by
  obtain ⟨level, rest, rfl⟩ := List.exists_cons_of_ne_nil h
  rw [render_cons, Level.render]
  cases level.axis <;> rfl

/-- The canonical writing of a chain of well-formed levels ends without blanks. -/
theorem getLast?_render {caseSensitive : Bool} {chain : Chain}
    (hwf : ∀ level ∈ chain, level.WellFormed caseSensitive) :
    ∀ c, (render chain).getLast? = some c → Text.isBlank c = false := by
  intro c hc
  rcases List.eq_nil_or_concat chain with rfl | ⟨init, level, rfl⟩
  · cases hc
  · have hlevel := hwf level (by simp)
    have hname : level.toSegment.name ≠ [] :=
      List.append_ne_nil_of_left_ne_nil hlevel.render_target.1 _
    have hne : level.render ≠ [] := by
      have hhead : (render [level]).head? = some '/' := head?_render (List.cons_ne_nil _ _)
      rintro hnil
      rw [render_cons, hnil] at hhead
      cases hhead
    rw [List.concat_eq_append, render_append, render_cons, render_nil, List.append_nil,
      List.getLast?_append_of_ne_nil _ hne, ← Level.render_toSegment] at hc
    exact Segment.getLast?_render hlevel.isNameChar_name hname c hc

/-- The canonical writing of a chain is cut into segments as it stands. -/
theorem parse_render_eq {caseSensitive : Bool} {chain : Chain} (hne : chain ≠ [])
    (hwf : ∀ level ∈ chain, level.WellFormed caseSensitive) :
    parse caseSensitive (render chain) =
      ((Segment.parseAll 0 (render chain)).mapError Fault.malformed).bind
        (ofSegments caseSensitive) := by
  have hslash := head?_render hne
  have hstart : ∀ c, (render chain).head? = some c → Text.isBlank c = false := by
    intro c hc
    rw [hslash] at hc
    obtain rfl := Option.some.inj hc
    decide
  rw [parse_eq_bind, Text.indent_eq_zero hstart, Text.trim_eq_self hstart (getLast?_render hwf),
    complete_slash 0 hslash]
  rfl

/-- Segments that are read as the levels of a chain and write its canonical writing are the segments
of its levels. -/
theorem eq_map_toSegment {caseSensitive : Bool} {segments : List Segment} {chain : Chain}
    (hsegments : ∀ segment ∈ segments, segment.WellFormed)
    (hread : List.Forall₂ (fun segment level => Level.ofSegment caseSensitive segment = .ok level)
      segments chain)
    (heq : render chain = segments.flatMap Segment.render) :
    segments = chain.map Level.toSegment := by
  -- level by level: each takes its own segment off both texts, and the same text is left
  induction hread with
  | nil => rfl
  | @cons segment level segments chain hlevel hrest ih =>
    obtain ⟨hsegment, hothers⟩ := List.forall_mem_cons.mp hsegments
    have hx : ∀ c, (segments.flatMap Segment.render).head? = some c → c = '/' := by
      intro c hc
      cases segments with
      | nil => cases hc
      | cons next segments =>
        have hnext := (hothers next List.mem_cons_self).head?_render_append
          (segments.flatMap Segment.render)
        rw [List.flatMap_cons, hnext] at hc
        exact (Option.some.inj hc).symm
    have hy : ∀ c, (render chain).head? = some c → c = '/' := by
      intro c hc
      have hne : chain ≠ [] := by
        rintro rfl
        cases hc
      rw [head?_render hne] at hc
      exact (Option.some.inj hc).symm
    rw [render_cons, List.flatMap_cons] at heq
    obtain ⟨rfl, htail⟩ := Level.eq_toSegment hsegment hlevel hx hy heq.symm
    rw [List.map_cons, ih hothers htail.symm]

/-- **The canonical writing of a chain** of well-formed levels is read as the chain exactly when all
its levels are legible. -/
theorem parse_render_eq_ok_iff {caseSensitive : Bool} {chain : Chain} (hne : chain ≠ [])
    (hwf : ∀ level ∈ chain, level.WellFormed caseSensitive) :
    parse caseSensitive (render chain) = .ok chain ↔ ∀ level ∈ chain, level.Legible := by
  rw [parse_render_eq hne hwf]
  constructor
  · intro h
    cases hparse : Segment.parseAll 0 (render chain) with
    | error reason =>
      rw [hparse] at h
      cases h
    | ok segments =>
      rw [hparse] at h
      obtain ⟨-, htext, hsegments, -⟩ := Segment.parseAll_eq_ok_iff.mp hparse
      have hread := mapM_eq_ok_iff.mp h
      obtain rfl := eq_map_toSegment hsegments hread htext
      rw [List.forall₂_map_left_iff, List.forall₂_same] at hread
      exact fun level hlevel => (Level.ofSegment_toSegment_iff (hwf level hlevel)).mp
        ⟨hsegments _ (List.mem_map_of_mem hlevel), hread level hlevel⟩
  · intro h
    have hread : ∀ level ∈ chain, level.toSegment.WellFormed ∧
        Level.ofSegment caseSensitive level.toSegment = .ok level :=
      fun level hlevel => (Level.ofSegment_toSegment_iff (hwf level hlevel)).mpr (h level hlevel)
    have hparse : Segment.parseAll 0 (render chain) = .ok (chain.map Level.toSegment) := by
      refine Segment.parseAll_eq_ok_iff.mpr ⟨by simpa using hne, render_eq_flatMap chain, ?_, ?_⟩
      · exact List.forall_mem_map.mpr fun level hlevel => (hread level hlevel).1
      · intro segment hsegment
        obtain ⟨level, hlevel, rfl⟩ := List.mem_map.mp (List.dropLast_subset _ hsegment)
        exact (Level.ofSegment_eq_ok_iff.mp (hread level hlevel).2).1
    have hlevels : ofSegments caseSensitive (chain.map Level.toSegment) = .ok chain := by
      rw [ofSegments, mapM_eq_ok_iff, List.forall₂_map_left_iff, List.forall₂_same]
      exact fun level hlevel => (hread level hlevel).2
    rw [hparse]
    exact hlevels

/-- **Compiling again.** The chain that a selector compiles to is compiled back from its canonical
writing exactly when all its levels are legible. -/
theorem compile_render_iff {caseSensitive : Bool} {selector : Text} {chain : Chain}
    (h : compile caseSensitive selector = .ok chain) :
    compile caseSensitive (render chain) = .ok chain ↔ ∀ level ∈ chain, level.Legible := by
  obtain ⟨hne, hwf⟩ := wellFormed_of_parse (compile_eq_ok_iff.mp h)
  rw [compile_eq_ok_iff]
  exact parse_render_eq_ok_iff hne hwf

/-- An element named like the text nodes but for the case of its letters is written like the text
nodes, so its chain is not compiled back. -/
theorem compile_render_ne_of_text :
    let chain : Chain := [{ target := .element Target.textWord }]
    compile false "/TEXT()".toList = .ok chain ∧ compile false (render chain) ≠ .ok chain := by
  intro chain
  have h : compile false "/TEXT()".toList = .ok chain := by decide +kernel
  refine ⟨h, fun hback => ?_⟩
  have hlegible := (compile_render_iff h).mp hback _ List.mem_cons_self
  exact hlegible.target_ne rfl

/-- An attribute whose name ends with the joining word is torn from it when its bracket is merged
with the next one. -/
theorem not_forall_compile_render :
    ¬ ∀ (caseSensitive : Bool) (selector : Text) (chain : Chain),
      compile caseSensitive selector = .ok chain →
        compile caseSensitive (render chain) = .ok chain := by
  intro h
  have hcompile : compile true "/x[@a and][@b]".toList =
      .ok [{ caseSensitive := true
             target := .element "x".toList
             conditions := [⟨"a and".toList, .present, none⟩, ⟨"b".toList, .present, none⟩] }] := by
    decide +kernel
  exact absurd (h _ _ _ hcompile) (by decide +kernel)

end Chain

end PathSelector
