import PathSelector.Proofs.Lint.Conflict

/-!
# Diagnostics of a concatenated chain

No rule carries anything from one level to the next, so the diagnostics of a chain that is put
together from two parts are those of the parts, with the positions in the second part shifted. Only
the rule about text levels that are not the last asks what follows a level. In the first part it
then reports every text level, the last one of that part included.

Main definitions:

* `Diagnostic.shift`: a diagnostic whose level stands further behind;
* `Rule.findingsBefore`: what a rule finds at levels that are followed by others.

Main statements:

* `Rule.findingsFrom_append`: what a rule finds in two parts;
* `Rule.pairwise_findings`: findings stand in the order of their levels;
* `Rule.check_append_parts`: what the rules report about two parts.
-/

namespace PathSelector

/-- The diagnostic of a level that stands behind `count` more levels. -/
def Diagnostic.shift (count : Nat) (d : Diagnostic) : Diagnostic :=
  { d with level := d.level.map (· + count) }

theorem Finding.shift_diagnostic (finding : Finding) (position count : Nat) :
    (finding.diagnostic position).shift count = finding.diagnostic (count + position) := by
  simp [Diagnostic.shift, diagnostic, Int.add_comm]

namespace Rule

variable {rule : Rule} {back : Chain}

/-! ### Findings -/

/-- What a rule finds at levels that are followed by others, the first of which has the given
position. -/
def findingsBefore (rule : Rule) (position : Nat) (front : Chain) : List (Nat × Finding) :=
  (front.zipIdx position).flatMap fun (level, place) => (rule.atLevel level false).map (place, ·)

/-- Only the rule about text levels asks whether a level is the last. -/
theorem atLevel_eq_of_ne (h : rule ≠ .textLevelLast) (level : Level) (isLast other : Bool) :
    rule.atLevel level isLast = rule.atLevel level other := by
  cases rule with
  | textLevelLast => exact absurd rfl h
  | _ => rfl

/-- What a rule finds in two parts, the second of which is not empty. -/
theorem findingsFrom_append (rule : Rule) (position : Nat) (front : Chain) (hne : back ≠ []) :
    rule.findingsFrom position (front ++ back) =
      rule.findingsBefore position front ++ rule.findingsFrom (position + front.length) back := by
  induction front generalizing position with
  | nil => rfl
  | cons level rest ih =>
    have hlast : (rest ++ back).isEmpty = false := by simp [hne]
    have hlength : position + (level :: rest).length = position + 1 + rest.length := by
      rw [List.length_cons]
      omega
    rw [List.cons_append, findingsFrom, hlast, ih, hlength, findingsBefore, findingsBefore,
      List.zipIdx_cons, List.flatMap_cons, List.append_assoc]

/-- A rule that does not ask what follows finds the same at levels that are followed by others. -/
theorem findingsBefore_of_ne (h : rule ≠ .textLevelLast) (position : Nat) (chain : Chain) :
    rule.findingsBefore position chain = rule.findingsFrom position chain := by
  induction chain generalizing position with
  | nil => rfl
  | cons level rest ih =>
    rw [findingsFrom, ← ih, atLevel_eq_of_ne h level rest.isEmpty false, findingsBefore,
      List.zipIdx_cons, List.flatMap_cons, findingsBefore]

/-- Among levels that are followed by others, all that select text nodes are found. -/
theorem findingsBefore_textLevelLast (position : Nat) (front : Chain) :
    textLevelLast.findingsBefore position front =
      ((front.zipIdx position).filter (·.1.isText)).map fun (level, place) =>
        (place, .textNotLast level) := by
  induction front generalizing position with
  | nil => rfl
  | cons level rest ih =>
    rw [findingsBefore, List.zipIdx_cons, List.flatMap_cons, ← findingsBefore, ih]
    cases htext : level.isText <;> simp [atLevel, htext]

/-- Findings move with the position of the first level. -/
theorem findingsFrom_add (rule : Rule) (count position : Nat) (chain : Chain) :
    rule.findingsFrom (count + position) chain =
      (rule.findingsFrom position chain).map fun found => (count + found.1, found.2) := by
  induction chain generalizing position with
  | nil => rfl
  | cons level rest ih =>
    rw [findingsFrom, findingsFrom, Nat.add_assoc, ih, List.map_append, List.map_map]
    rfl

/-- Findings stand in the order of their levels. -/
theorem pairwise_findings (rule : Rule) (position : Nat) (chain : Chain) :
    (rule.findingsFrom position chain).Pairwise fun found other => found.1 ≤ other.1 := by
  induction chain generalizing position with
  | nil => exact .nil
  | cons level rest ih =>
    refine List.pairwise_append.mpr ⟨?_, ih (position + 1), fun found hfound other hother => ?_⟩
    · exact List.pairwise_map.mpr (List.pairwise_of_forall fun _ _ => Nat.le_refl _)
    · obtain ⟨finding, -, rfl⟩ := List.mem_map.mp hfound
      have := (range_of_mem_findingsFrom hother).1
      omega

/-! ### Reports -/

/-- What a rule reports about two parts, the second of which is not empty. -/
theorem report_append (rule : Rule) (front : Chain) (hne : back ≠ []) :
    rule.report (front ++ back) =
      ((rule.findingsBefore 0 front).map fun (position, finding) => finding.diagnostic position) ++
        (rule.report back).map (Diagnostic.shift front.length) := by
  rw [report, report, findings, findings, findingsFrom_append rule 0 front hne, List.map_append,
    Nat.zero_add, List.map_map, ← Nat.add_zero front.length, findingsFrom_add, List.map_map]
  refine congrArg _ (List.map_congr_left fun found _ => ?_)
  exact (Finding.shift_diagnostic found.2 found.1 front.length).symm

/-- Every rule reports on a chain whose equalities all have a text to compare with. -/
theorem check_eq_ok (rule : Rule) {chain : Chain}
    (h : ∀ level ∈ chain, Conflict.Valued level.conditions) :
    rule.check chain = .ok (rule.report chain) := by
  by_cases hrule : rule = .conflictingConditions
  · subst hrule
    exact check_conflictingConditions_eq_ok h
  · exact check_of_ne hrule chain

/-- The diagnostics of a rule have positions that never decrease. -/
theorem level_report (rule : Rule) (chain : Chain) :
    ∃ positions : List Nat,
      (rule.report chain).map Diagnostic.level =
          positions.map (fun position : Nat => some (position : Int)) ∧
        positions.Pairwise (· ≤ ·) ∧ ∀ position ∈ positions, position < chain.length := by
  refine ⟨(rule.findings chain).map Prod.fst, ?_, ?_, ?_⟩
  · rw [report, List.map_map, List.map_map]
    rfl
  · exact List.pairwise_map.mpr (rule.pairwise_findings 0 chain)
  · intro position hposition
    obtain ⟨found, hfound, rfl⟩ := List.mem_map.mp hposition
    have hrange := range_of_mem_findingsFrom hfound
    omega

/-- **The diagnostics of a concatenated chain are those of its parts.** The equalities in it all
have a text to compare with, and its second part is not empty. A rule that does not ask what follows
a level reports what it reports about the first part, and then, with the positions shifted, what it
reports about the second. The rule about text levels reports all those of the first part instead.
Whatever the chain, the positions in a report are those of levels and never decrease. -/
theorem check_append_parts (front back : Chain) (hne : back ≠ [])
    (hvalued : ∀ level ∈ front ++ back, Conflict.Valued level.conditions) :
    (∀ rule : Rule, rule ≠ .textLevelLast →
      ∃ first second, rule.check front = .ok first ∧ rule.check back = .ok second ∧
        rule.check (front ++ back) = .ok (first ++ second.map (Diagnostic.shift front.length))) ∧
    (∃ second, textLevelLast.check back = .ok second ∧
      textLevelLast.check (front ++ back) =
        .ok ((front.zipIdx.filter (·.1.isText)).map (fun (level, position) =>
            (Finding.textNotLast level).diagnostic position) ++
          second.map (Diagnostic.shift front.length))) ∧
    ∀ (rule : Rule) (chain : Chain), (∀ level ∈ chain, Conflict.Valued level.conditions) →
      ∃ (report : List Diagnostic) (positions : List Nat), rule.check chain = .ok report ∧
        report.map Diagnostic.level = positions.map (fun position : Nat => some (position : Int)) ∧
        positions.Pairwise (· ≤ ·) ∧ ∀ position ∈ positions, position < chain.length := by
  obtain ⟨hfront, hback⟩ := List.forall_mem_append.mp hvalued
  refine ⟨fun rule hrule => ?_, ?_, fun rule chain hchain => ?_⟩
  · refine ⟨_, _, rule.check_eq_ok hfront, rule.check_eq_ok hback, ?_⟩
    rw [rule.check_eq_ok hvalued, rule.report_append front hne, findingsBefore_of_ne hrule]
    rfl
  · refine ⟨_, textLevelLast.check_eq_ok hback, ?_⟩
    rw [textLevelLast.check_eq_ok hvalued, report_append _ front hne, findingsBefore_textLevelLast,
      List.map_map]
    rfl
  · obtain ⟨positions, hpositions⟩ := rule.level_report chain
    exact ⟨_, positions, rule.check_eq_ok hchain, hpositions⟩

/-- The text level of `/text()` is reported once `/text()[@a][@a]` follows it, whose own text level
is not, and the repetition in the second part is reported with its position behind the first. -/
theorem check_append_parts_text :
    let first : Level := { caseSensitive := true, target := .text }
    let second : Level :=
      { caseSensitive := true
        target := .text
        conditions := [⟨['a'], .present, none⟩, ⟨['a'], .present, none⟩] }
    Chain.compile true "/text()/text()[@a][@a]".toList = .ok ([first] ++ [second]) ∧
      textLevelLast.check ([first] ++ [second]) =
        .ok [(Finding.textNotLast first).diagnostic 0] ∧
      duplicateConditions.check ([first] ++ [second]) =
        .ok [(Finding.repeated ⟨['a'], .present, none⟩ second).diagnostic 1] := by
  intro first second
  have hcompile : Chain.compile true "/text()/text()[@a][@a]".toList =
      .ok ([first] ++ [second]) := by decide +kernel
  obtain ⟨hrules, ⟨others, hothers, htext⟩, -⟩ :=
    check_append_parts [first] [second] (by simp) (Chain.valued_of_compile hcompile)
  obtain ⟨reports, shifted, hreports, hshifted, hduplicates⟩ :=
    hrules .duplicateConditions (by decide)
  obtain rfl : [] = others := Except.ok.inj hothers
  obtain rfl : [] = reports := Except.ok.inj hreports
  obtain rfl : [(Finding.repeated ⟨['a'], .present, none⟩ second).diagnostic 0] = shifted :=
    Except.ok.inj hshifted
  exact ⟨hcompile, htext, hduplicates⟩

end Rule

end PathSelector
