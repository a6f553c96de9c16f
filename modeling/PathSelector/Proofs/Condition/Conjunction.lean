import PathSelector.Proofs.Condition.Quotation
import PathSelector.Proofs.Outcomes

/-!
# Cutting at the joining word

The reader cuts a body at the joining words that stand outside quotes. It does so once, from left to
right, while the reader of bracketed texts has followed the quotes of the body on its own. The two
agree: what is cut off closes the quotes that it opens, so that each text may be read by itself.

Two bodies with a joining word between them fall into the texts of the first and then those of the
second, unless the reader does not cut at that word. There are two ways to miss it: the first body
leaves a quote open, so that the word stands inside a value, or its last text ends with the joining
word but for the space behind, so that the reader cuts too early.

Main definitions:

* `Condition.Cut`: some texts are what a body falls into;
* `Condition.Joinable`: the reader cuts at a joining word behind the body.

Main statements:

* `cut_atoms_and_isBody_iff`: a body falls into its texts in one way, and it may stand between
  brackets exactly when each of them closes its quotes and has no bare closing bracket;
* `joinable_iff`: a body is joinable when each of its texts closes its quotes and does not end with
  the joining word;
* `atoms_append_joint_iff_joinable`: the texts of two joined bodies are those of the one and those
  of the other exactly when the first is joinable, and then so are their conditions.
-/

namespace PathSelector

/-- Texts that are joined in two parts are joined as a whole. -/
theorem Text.intercalate_append {separator : Text} {front back : List Text} (hfront : front ≠ [])
    (hback : back ≠ []) :
    separator.intercalate (front ++ back) =
      separator.intercalate front ++ separator ++ separator.intercalate back := by
  induction front with
  | nil => exact absurd rfl hfront
  | cons part front ih =>
    cases front with
    | nil =>
      rw [List.singleton_append, List.intercalate_cons_of_ne_nil hback, List.intercalate_singleton]
    | cons next rest =>
      have hrest := ih (List.cons_ne_nil next rest)
      rw [List.cons_append] at hrest
      rw [List.cons_append, List.cons_append, List.intercalate_cons_cons,
        List.intercalate_cons_cons, hrest]
      simp only [List.append_assoc]

namespace Condition

/-! ### The texts of a body -/

/-- The texts of a body hold no bare joining word, and the reader cuts behind each but the last. -/
theorem atoms_apart (body : Text) :
    (∀ atom ∈ atoms body, ¬ Bare joint atom) ∧
      ∀ atom ∈ (atoms body).dropLast, openQuote none atom = none ∧ ¬ joiner <:+ atom := by
  have hatoms : atoms (List.intercalate joint (atoms body)) = atoms body := by
    rw [intercalate_atoms]
  exact (atoms_intercalate_iff.mp hatoms).2

/-- A body closes its quotes exactly when each of its texts does. -/
theorem openQuote_eq_none_iff_atoms {body : Text} :
    openQuote none body = none ↔ ∀ atom ∈ atoms body, openQuote none atom = none := by
  constructor
  · intro hopen
    rw [← intercalate_atoms body] at hopen
    exact openQuote_of_intercalate (fun atom hatom => ((atoms_apart body).2 atom hatom).1) hopen
  · intro hclosed
    rw [← intercalate_atoms body]
    exact openQuote_intercalate hclosed

/-- The texts are what a body falls into at its joining words: put together again they are the body,
and the quotes of each are followed from its own start. -/
structure Cut (body : Text) (parts : List Text) : Prop where
  ne_nil : parts ≠ []
  intercalate_eq : List.intercalate joint parts = body
  not_bare_joint : ∀ part ∈ parts, ¬ Bare joint part
  openQuote_eq : ∀ part ∈ parts.dropLast, openQuote none part = none
  /-- Of two joining words that share a space, the first one counts. -/
  not_joiner : ∀ part ∈ parts.dropLast, ¬ joiner <:+ part

/-- **A body falls into its texts in one way**, in which nothing is lost, no joining word is left
outside quotes and no text but the last leaves a quote open. The texts show whether the body may
stand between brackets: it may, unless it is empty, exactly when each of them, the last included,
closes its quotes and has no closing bracket outside them. -/
theorem cut_atoms_and_isBody_iff (body : Text) :
    Cut body (atoms body) ∧ (∀ parts, Cut body parts → parts = atoms body) ∧
      (Segment.IsBody body ↔
        body ≠ [] ∧ ∀ atom ∈ atoms body, openQuote none atom = none ∧ ¬ Bare [']'] atom) := by
  refine ⟨?_, fun parts hparts => ?_, ?_⟩
  · obtain ⟨hbare, hinit⟩ := atoms_apart body
    exact ⟨atomsFrom_ne_nil none body, intercalate_atoms body, hbare,
      fun atom hatom => (hinit atom hatom).1, fun atom hatom => (hinit atom hatom).2⟩
  · obtain ⟨hne, rfl, hbare, hopen, hjoiner⟩ := hparts
    have hinit : ∀ part ∈ parts.dropLast, openQuote none part = none ∧ ¬ joiner <:+ part :=
      fun part hpart => ⟨hopen part hpart, hjoiner part hpart⟩
    exact (atoms_intercalate_iff.mpr ⟨hne, hbare, hinit⟩).symm
  · have hbracket (hclosed : ∀ atom ∈ atoms body, openQuote none atom = none) :
        ¬ Bare [']'] body ↔ ∀ atom ∈ atoms body, ¬ Bare [']'] atom := by
      have hjoined := bare_bracket_intercalate_iff hclosed
      rw [intercalate_atoms] at hjoined
      rw [hjoined]
      simp only [not_exists, not_and]
    rw [isBody_iff, openQuote_eq_none_iff_atoms, and_congr_right hbracket]
    simp only [forall_and]

/-- A body with a bracket, an apostrophe and the joining word in a value, quotes on both sides of a
joining word, and two joining words that share a space, of which it is cut at the first. -/
theorem cut_atoms_and_isBody_iff_nested :
    let body := "@a=\"it's ] and \" and 'b'\"\" and and c".toList
    let parts := ["@a=\"it's ] and \"".toList, "'b'\"\"".toList, "and c".toList]
    Segment.IsBody body ∧ Cut body parts ∧
      (∀ part ∈ parts, openQuote none part = none ∧ ¬ Bare [']'] part) ∧
      ¬ Cut body ["@a=\"it's ] and \"".toList, "'b'\"\" and".toList, "c".toList] := by
  intro body parts
  obtain ⟨hcut, hunique, hbody⟩ := cut_atoms_and_isBody_iff body
  have hatoms : atoms body = parts := rfl
  have hscan : Segment.scanBody none (body ++ [']']) = (body, [']']) := rfl
  have hisBody : Segment.IsBody body := Segment.isBody_of_scanBody hscan (by decide)
  rw [hatoms] at hcut hunique hbody
  refine ⟨hisBody, hcut, (hbody.mp hisBody).2, fun hother => ?_⟩
  exact absurd (hunique _ hother) (by decide)

/-! ### Two bodies -/

/-- The reader cuts at a joining word behind the body: its quotes are closed, and the last of its
texts does not end with the joining word but for the space. -/
structure Joinable (body : Text) : Prop where
  openQuote_eq : openQuote none body = none
  not_joiner : ∀ last, (atoms body).getLast? = some last → ¬ joiner <:+ last

/-- A body is joinable when each of its texts closes its quotes and does not end with the joining
word. -/
theorem joinable_iff {body : Text} :
    Joinable body ↔ ∀ atom ∈ atoms body, openQuote none atom = none ∧ ¬ joiner <:+ atom := by
  have hinit := (atoms_apart body).2
  constructor
  · rintro ⟨hopen, hlast⟩ atom hatom
    refine ⟨openQuote_eq_none_iff_atoms.mp hopen atom hatom, ?_⟩
    rcases List.eq_nil_or_concat (atoms body) with hnil | ⟨init, last, hatoms⟩
    · exact absurd hnil (atomsFrom_ne_nil none body)
    · rw [hatoms, List.concat_eq_append] at hatom hinit hlast
      rw [List.dropLast_concat] at hinit
      rcases List.mem_append.mp hatom with hatom | hatom
      · exact (hinit atom hatom).2
      · obtain rfl := List.mem_singleton.mp hatom
        exact hlast atom List.getLast?_concat
  · intro h
    refine ⟨?_, fun last hlast => (h last (List.mem_of_getLast? hlast)).2⟩
    exact openQuote_eq_none_iff_atoms.mpr fun atom hatom => (h atom hatom).1

/-- **Cutting distributes over a joining word** exactly when the body in front of it is joinable,
whatever the body behind it. All the conditions are then read when those of the two bodies are, and
they are the ones of the first followed by the ones of the second. -/
theorem atoms_append_joint_iff_joinable (front back : Text) :
    (atoms (front ++ joint ++ back) = atoms front ++ atoms back ↔ Joinable front) ∧
      (Joinable front → ∀ (caseSensitive : Bool) (tests : List Condition),
        parseAll caseSensitive (front ++ joint ++ back) = .ok tests ↔
          ∃ first second, parseAll caseSensitive front = .ok first ∧
            parseAll caseSensitive back = .ok second ∧ tests = first ++ second) := by
  have hfront : atoms front ≠ [] := atomsFrom_ne_nil none front
  have hback : atoms back ≠ [] := atomsFrom_ne_nil none back
  have hsplit : atoms (front ++ joint ++ back) = atoms front ++ atoms back ↔ Joinable front := by
    have hjoin : front ++ joint ++ back = List.intercalate joint (atoms front ++ atoms back) := by
      rw [Text.intercalate_append hfront hback, intercalate_atoms, intercalate_atoms]
    obtain ⟨hfrontBare, -⟩ := atoms_apart front
    obtain ⟨hbackBare, hbackInit⟩ := atoms_apart back
    rw [hjoin, atoms_intercalate_iff, List.dropLast_append_of_ne_nil hback, List.forall_mem_append,
      List.forall_mem_append, joinable_iff]
    constructor
    · rintro ⟨-, -, hends, -⟩
      exact hends
    · intro hends
      exact ⟨by simp [hback], ⟨hfrontBare, hbackBare⟩, hends, hbackInit⟩
  refine ⟨hsplit, fun hjoinable caseSensitive tests => ?_⟩
  rw [parseAll, hsplit.mpr hjoinable]
  exact mapM_append_eq_ok_iff

/-- The body in front ends with the word `and`, which is a condition of its own there, and holds the
joining word in a value. -/
theorem atoms_append_joint_iff_joinable_word :
    let front := "@a=' and ' and and".toList
    let back := "!@b".toList
    Joinable front ∧ joiner <:+ front ∧
      atoms (front ++ joint ++ back) = ["@a=' and '".toList, "and".toList, "!@b".toList] ∧
      parseAll true (front ++ joint ++ back) =
        .ok [⟨"a".toList, .equals, some " and ".toList⟩, ⟨"and".toList, .present, none⟩,
          ⟨"b".toList, .absent, none⟩] := by
  intro front back
  have hjoinable : Joinable front := by
    refine ⟨by decide, fun last hlast => ?_⟩
    obtain rfl : "and".toList = last := Option.some.inj hlast
    decide
  obtain ⟨hatoms, hparse⟩ := atoms_append_joint_iff_joinable front back
  refine ⟨hjoinable, by decide, hatoms.mpr hjoinable, ?_⟩
  exact (hparse hjoinable true _).mpr ⟨_, _, rfl, rfl, rfl⟩

end Condition

end PathSelector
