import PathSelector.Lint.Rule

/-!
# Where findings stand

A rule looks at one level at a time. What it reports about a level is what it finds at that level,
in the same order (`Rule.about_report`), and every diagnostic is about a level
(`Rule.exists_level_of_mem_report`). All rules but the one about conflicting conditions report on
every chain (`Rule.check_of_ne`).
-/

namespace PathSelector

/-- The diagnostics of a report about the level with the given position. -/
def Diagnostic.about (position : Nat) (report : List Diagnostic) : List Diagnostic :=
  report.filter (·.level = some (position : Int))

theorem Diagnostic.mem_about_iff {position : Nat} {report : List Diagnostic} {d : Diagnostic} :
    d ∈ about position report ↔ d ∈ report ∧ d.level = some (position : Int) := by
  simp [about]

namespace Rule

variable {chain : Chain}

/-- A finding has the position of a level of the chain. -/
theorem range_of_mem_findingsFrom {rule : Rule} {start : Nat} {found : Nat × Finding}
    (h : found ∈ rule.findingsFrom start chain) :
    start ≤ found.1 ∧ found.1 < start + chain.length := by
  induction chain generalizing start with
  | nil => cases h
  | cons level rest ih =>
    rw [findingsFrom, List.mem_append, List.mem_map] at h
    rw [List.length_cons]
    rcases h with ⟨finding, -, rfl⟩ | h
    · exact ⟨Nat.le_refl _, by omega⟩
    · have := ih h
      omega

/-- The findings with the position of a level are what the rule finds at that level. -/
theorem filter_findingsFrom (rule : Rule) (start : Nat) {position : Nat} {level : Level}
    (h : chain[position]? = some level) :
    (rule.findingsFrom start chain).filter (·.1 = start + position) =
      (rule.atLevel level (position + 1 = chain.length)).map (start + position, ·) := by
  induction chain generalizing start position with
  | nil => cases h
  | cons first rest ih =>
    rw [findingsFrom, List.filter_append]
    cases position with
    | zero =>
      obtain rfl : first = level := by simpa using h
      -- the findings behind the first level have greater positions
      have hrest : (rule.findingsFrom (start + 1) rest).filter (·.1 = start + 0) = [] := by
        refine List.filter_eq_nil_iff.mpr fun found hfound => ?_
        have := range_of_mem_findingsFrom hfound
        simp only [decide_eq_true_eq]
        omega
      have hlast : rest.isEmpty = decide (0 + 1 = (first :: rest).length) := by
        cases rest <;> simp
      rw [hrest, List.append_nil, hlast, List.filter_eq_self.mpr (by simp)]
      rfl
    | succ position =>
      have hfirst : ((rule.atLevel first rest.isEmpty).map (start, ·)).filter
          (·.1 = start + (position + 1)) = [] := by
        simp [List.filter_eq_nil_iff]
      have hposition : start + (position + 1) = start + 1 + position := by omega
      have hlast : decide (position + 1 + 1 = (first :: rest).length) =
          decide (position + 1 = rest.length) := by simp
      rw [hfirst, List.nil_append, hposition, hlast]
      exact ih (start + 1) (by simpa using h)

/-- What a rule reports about a level is what it finds at that level. -/
theorem about_report (rule : Rule) {position : Nat} {level : Level}
    (h : chain[position]? = some level) :
    Diagnostic.about position (rule.report chain) =
      (rule.atLevel level (position + 1 = chain.length)).map (Finding.diagnostic position) := by
  have hfindings := rule.filter_findingsFrom 0 h
  rw [Nat.zero_add] at hfindings
  have hlevel : ((fun d : Diagnostic => decide (d.level = some (position : Int))) ∘
      fun found : Nat × Finding => found.2.diagnostic found.1) =
        fun found => decide (found.1 = position) := by
    funext found
    simp only [Function.comp, Finding.diagnostic, Option.some.injEq, Int.ofNat_inj]
  rw [Diagnostic.about, report, List.filter_map, hlevel, findings, hfindings, List.map_map]
  rfl

/-- Every diagnostic of a rule has the position of a level. -/
theorem exists_level_of_mem_report {rule : Rule} {d : Diagnostic} (h : d ∈ rule.report chain) :
    ∃ (position : Nat) (level : Level), chain[position]? = some level ∧
      d.level = some (position : Int) := by
  obtain ⟨found, hfound, rfl⟩ := List.mem_map.mp h
  have hrange := range_of_mem_findingsFrom hfound
  rw [Nat.zero_add] at hrange
  exact ⟨found.1, _, List.getElem?_eq_getElem hrange.2, rfl⟩

/-- Only the rule about conflicting conditions can fail to report. -/
theorem check_of_ne {rule : Rule} (h : rule ≠ .conflictingConditions) (chain : Chain) :
    rule.check chain = .ok (rule.report chain) :=
  if_neg fun hcheck => h hcheck.1

end Rule

end PathSelector
