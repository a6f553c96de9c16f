import PathSelector.Proofs.Condition.Quotation
import PathSelector.Proofs.Condition.Reading
import PathSelector.Proofs.Outcomes

/-!
# Reading back a group of conditions

The conditions of a level are written between one pair of brackets, joined by the word `and`. They
are read back exactly when none of them hides a bracket, a quote or the joining word where the
reader looks for its own.

Main definitions:

* `Condition.group`: some conditions as they are written between their brackets;
* `Condition.Legible`, `Condition.GroupLegible`: what one condition and a group must not hold.

Main statements:

* `eq_map_render`: texts that are read as the first conditions of a group, and are written where
  the group is, are the writings of all its conditions;
* `parseAll_group_iff`: a group may stand between brackets and is read back exactly when it is
  legible.
-/

namespace PathSelector

namespace Condition

/-- Some conditions as they are written between their brackets. -/
def group (conditions : List Condition) : Text := List.intercalate joint (conditions.map render)

/-- What the writing of a condition must not hold to be read back: the mark of another operator at
the end of the name of an equality, a quote that stays open, and a closing bracket or a joining
word outside quotes. -/
structure Legible (c : Condition) : Prop where
  not_marked : ¬ c.Marked
  openQuote_eq : openQuote none c.render = none
  not_bare_bracket : ¬ Bare [']'] c.render
  not_bare_joint : ¬ Bare joint c.render

/-- Conditions that are read back from one pair of brackets: each of them is legible, and none but
the last ends with the joining word. -/
structure GroupLegible (conditions : List Condition) : Prop where
  legible : ∀ c ∈ conditions, c.Legible
  not_joiner : ∀ c ∈ conditions.dropLast, ¬ joiner <:+ c.render

/-- A group opens with the sign of an attribute or of absence. -/
theorem head?_group {conditions : List Condition} (h : conditions ≠ []) :
    ∃ c, (group conditions).head? = some c ∧ (c = '@' ∨ c = '!') := by
  obtain ⟨first, rest, rfl⟩ := List.exists_cons_of_ne_nil h
  have hgroup : (group (first :: rest)).head? = first.render.head? := by
    cases rest with
    | nil => rw [group, List.map_singleton, List.intercalate_singleton]
    | cons next rest =>
      rw [group, List.map_cons, List.map_cons, List.intercalate_cons_cons, List.append_assoc,
        List.head?_append_of_ne_nil _ (render_ne_nil first)]
  rw [hgroup, render]
  split
  · exact ⟨'!', rfl, Or.inr rfl⟩
  · exact ⟨'@', rfl, Or.inl rfl⟩
  · exact ⟨'@', rfl, Or.inl rfl⟩

theorem group_ne_nil {conditions : List Condition} (h : conditions ≠ []) :
    group conditions ≠ [] := by
  obtain ⟨c, hc, -⟩ := head?_group h
  rintro hnil
  rw [hnil] at hc
  cases hc

/-! ### Where a condition ends -/

/-- Blanks in front of a joining word or a closing bracket do not make up the start of one. -/
theorem eq_nil_of_blank_append {back rest tail : Text} (hback : Text.Blank back)
    (hrest : rest.head? = some ']' ∨ rest.head? = some ' ')
    (htail : tail.head? = some ']' ∨ ∃ more, tail = ' ' :: 'a' :: more)
    (heq : back ++ rest = tail) : back = [] := by
  cases back with
  | nil => rfl
  | cons c back =>
    exfalso
    obtain ⟨hc, hback⟩ := List.forall_mem_cons.mp hback
    subst heq
    rcases htail with hbracket | ⟨more, hspace⟩
    · obtain rfl : c = ']' := Option.some.inj hbracket
      exact absurd hc (by decide)
    · have hsecond : back ++ rest = 'a' :: more := (List.cons.inj hspace).2
      cases back with
      | nil =>
        rw [List.nil_append] at hsecond
        rw [hsecond] at hrest
        rcases hrest with hrest | hrest <;> exact absurd (Option.some.inj hrest) (by decide)
      | cons d back =>
        obtain rfl : d = 'a' := (List.cons.inj hsecond).1
        exact absurd (hback 'a' List.mem_cons_self) (by decide)

/-- Behind the first of some joined texts comes the closing bracket or the joining word. -/
theorem exists_intercalate_append (part : Text) (parts : List Text) (more : Text) :
    ∃ tail, List.intercalate joint (part :: parts) ++ ']' :: more = part ++ tail ∧
      (parts = [] ∧ tail = ']' :: more ∨
        parts ≠ [] ∧ tail = joint ++ (List.intercalate joint parts ++ ']' :: more)) := by
  cases parts with
  | nil => exact ⟨']' :: more, by rw [List.intercalate_singleton], Or.inl ⟨rfl, rfl⟩⟩
  | cons next parts =>
    refine ⟨_, ?_, Or.inr ⟨by simp, rfl⟩⟩
    rw [List.intercalate_cons_cons]
    simp only [List.append_assoc]

/-- **Texts that are read as the first conditions of a group** and are written where the group is,
up to the closing bracket, are the writings of all its conditions. -/
theorem eq_map_render {caseSensitive : Bool} {parts : List Text} {tests more : List Condition}
    (hne : parts ≠ [])
    (hparse : List.Forall₂ (fun part c => parse caseSensitive part = .ok c) parts tests)
    {x y : Text}
    (heq : List.intercalate joint parts ++ ']' :: x = group (tests ++ more) ++ ']' :: y) :
    parts = (tests ++ more).map render ∧ more = [] := by
  induction hparse with
  | nil => exact absurd rfl hne
  | @cons part c parts tests hfirst hrest ih =>
    obtain ⟨tail, hleft, htail⟩ := exists_intercalate_append part parts x
    obtain ⟨tail', hright, htail'⟩ :=
      exists_intercalate_append c.render ((tests ++ more).map render) y
    rw [hleft, List.cons_append, group, List.map_cons, hright] at heq
    obtain ⟨back, hback, rfl⟩ := exists_eq_render_append hfirst heq
    rw [List.append_assoc, List.append_cancel_left_eq] at heq
    obtain rfl : back = [] := by
      refine eq_nil_of_blank_append hback ?_ ?_ heq
      · rcases htail with ⟨-, rfl⟩ | ⟨-, rfl⟩
        · exact Or.inl rfl
        · exact Or.inr rfl
      · rcases htail' with ⟨-, rfl⟩ | ⟨-, rfl⟩
        · exact Or.inl rfl
        · exact Or.inr ⟨_, rfl⟩
    rw [List.append_nil, List.cons_append, List.map_cons, List.cons_inj_right]
    rw [List.nil_append] at heq
    -- both texts go on with the closing bracket, or both with the joining word
    rcases htail with ⟨rfl, rfl⟩ | ⟨hparts, rfl⟩ <;> rcases htail' with ⟨hnil, rfl⟩ | ⟨hcons, rfl⟩
    · obtain ⟨-, rfl⟩ := List.append_eq_nil_iff.mp (List.map_eq_nil_iff.mp hnil)
      exact ⟨hnil.symm, rfl⟩
    · exact absurd (List.cons.inj heq).1 (by decide)
    · exact absurd (List.cons.inj heq).1 (by decide)
    · exact ih hparts (List.append_cancel_left heq)

/-! ### Groups -/

/-- The texts of a group that is read back are the writings of its conditions. -/
theorem atoms_group_of_parseAll {caseSensitive : Bool} {conditions : List Condition}
    (h : parseAll caseSensitive (group conditions) = .ok conditions) :
    atoms (group conditions) = conditions.map render := by
  have heq : List.intercalate joint (atoms (group conditions)) ++ [']'] =
      group (conditions ++ []) ++ [']'] := by
    rw [intercalate_atoms, List.append_nil]
  have hparts := eq_map_render (atomsFrom_ne_nil none _) (mapM_eq_ok_iff.mp h) heq
  rw [List.append_nil] at hparts
  exact hparts.1

/-- **A group may stand between brackets and is read back** exactly when it is legible. -/
theorem parseAll_group_iff {caseSensitive : Bool} {conditions : List Condition}
    (hne : conditions ≠ []) (hwf : ∀ c ∈ conditions, c.WellFormed caseSensitive) :
    Segment.IsBody (group conditions) ∧ parseAll caseSensitive (group conditions) = .ok conditions ↔
      GroupLegible conditions := by
  constructor
  · rintro ⟨hbody, hparse⟩
    have hatoms := atoms_group_of_parseAll hparse
    obtain ⟨-, hjoint, hinit⟩ := atoms_intercalate_iff.mp hatoms
    obtain ⟨-, hopen, hbracket⟩ := isBody_iff.mp hbody
    have hclosed := openQuote_of_intercalate (fun part hpart => (hinit part hpart).1) hopen
    rw [group, bare_bracket_intercalate_iff hclosed] at hbracket
    rw [parseAll, hatoms, mapM_eq_ok_iff, List.forall₂_map_left_iff, List.forall₂_same] at hparse
    rw [← List.map_dropLast] at hinit
    refine ⟨fun c hc => ?_, fun c hc => (hinit _ (List.mem_map_of_mem hc)).2⟩
    have hmem : c.render ∈ conditions.map render := List.mem_map_of_mem hc
    exact ⟨(parse_render_iff (hwf c hc)).mp (hparse c hc), hclosed _ hmem,
      fun hbare => hbracket ⟨_, hmem, hbare⟩, hjoint _ hmem⟩
  · intro h
    have hclosed : ∀ part ∈ conditions.map render, openQuote none part = none :=
      List.forall_mem_map.mpr fun c hc => (h.legible c hc).openQuote_eq
    have hatoms : atoms (group conditions) = conditions.map render := by
      refine atoms_intercalate_iff.mpr ⟨by simpa using hne, ?_, fun part hpart => ?_⟩
      · exact List.forall_mem_map.mpr fun c hc => (h.legible c hc).not_bare_joint
      · refine ⟨hclosed part (List.dropLast_subset _ hpart), ?_⟩
        rw [← List.map_dropLast] at hpart
        obtain ⟨c, hc, rfl⟩ := List.mem_map.mp hpart
        exact h.not_joiner c hc
    constructor
    · refine isBody_iff.mpr ⟨group_ne_nil hne, openQuote_intercalate hclosed, ?_⟩
      rw [group, bare_bracket_intercalate_iff hclosed]
      rintro ⟨part, hpart, hbare⟩
      obtain ⟨c, hc, rfl⟩ := List.mem_map.mp hpart
      exact (h.legible c hc).not_bare_bracket hbare
    · rw [parseAll, hatoms, mapM_eq_ok_iff, List.forall₂_map_left_iff, List.forall₂_same]
      exact fun c hc => (parse_render_iff (hwf c hc)).mpr (h.legible c hc).not_marked

end Condition

end PathSelector
