import Mathlib.Data.Finset.Card
import PathSelector.Proofs.Lint.Findings

/-!
# Repeated conditions

The rule about repeated conditions goes through the conditions of a level once and remembers those
it has seen. It reports the places that hold a condition equal to one at an earlier place, in their
order, and nothing else. How many there are is told by counting: one for every condition beyond the
first of each kind. So their number does not depend on the order of the conditions.

Main definition: `Condition.repeated`, the conditions that equal an earlier one, with their places.

Main statements:

* `Condition.repetitions_eq_filter`: one pass with what was seen finds the repeated places;
* `Condition.length_repetitions_add_card`: repetitions and distinct conditions make up all;
* `Rule.check_duplicateConditions_exact`: what the rule reports about the levels of a chain.
-/

namespace PathSelector

namespace Condition

variable {conditions : List Condition}

/-- The conditions that equal one at an earlier place, with their places. -/
def repeated (conditions : List Condition) : List (Condition × Nat) :=
  conditions.zipIdx.filter fun found => found.1 ∈ conditions.take found.2

theorem mem_repeated_iff {c : Condition} {place : Nat} :
    (c, place) ∈ repeated conditions ↔
      conditions[place]? = some c ∧ ∃ earlier < place, conditions[earlier]? = some c := by
  simp only [repeated, List.mem_filter, List.mem_zipIdx_iff_getElem?, decide_eq_true_eq]
  refine and_congr_right fun _ => ?_
  simp only [List.mem_iff_getElem?, List.getElem?_take, Option.ite_none_right_eq_some]

theorem pairwise_repeated (conditions : List Condition) :
    ((repeated conditions).map Prod.snd).Pairwise (· < ·) := by
  have hplaces : (conditions.zipIdx.map Prod.snd).Pairwise (· < ·) := by
    rw [List.zipIdx_map_snd]
    exact List.pairwise_lt_range'
  exact hplaces.sublist (List.filter_sublist.map Prod.snd)

/-- One pass over the conditions behind `front`, all of which were seen and nothing else, finds
those that equal one at an earlier place. -/
theorem repetitions_eq_filter {seen front : List Condition} (hseen : ∀ c, c ∈ seen ↔ c ∈ front)
    (rest : List Condition) :
    repetitions seen rest =
      ((rest.zipIdx front.length).filter fun found =>
        found.1 ∈ (front ++ rest).take found.2).map Prod.fst := by
  induction rest generalizing seen front with
  | nil => rfl
  | cons c rest ih =>
    have hnext : ∀ d, d ∈ c :: seen ↔ d ∈ front ++ [c] := by
      intro d
      rw [List.mem_cons, hseen, List.mem_append, List.mem_singleton, or_comm]
    have hrest := ih hnext
    rw [List.length_append, List.length_singleton, List.append_assoc,
      List.singleton_append] at hrest
    rw [repetitions, hrest, List.zipIdx_cons, List.filter_cons, List.take_left]
    by_cases hc : c ∈ front
    · rw [if_pos ((hseen c).mpr hc), if_pos (decide_eq_true hc), List.map_cons]
    · rw [if_neg (mt (hseen c).mp hc), if_neg (by simpa using hc)]

/-- All conditions that equal one at an earlier place are found. -/
theorem repetitions_nil_eq (conditions : List Condition) :
    repetitions [] conditions = (repeated conditions).map Prod.fst :=
  repetitions_eq_filter (fun _ => Iff.rfl) conditions

/-- Every condition is a repetition or the first of its kind that was not seen. -/
theorem length_repetitions_add_card (seen conditions : List Condition) :
    (repetitions seen conditions).length + (conditions.toFinset \ seen.toFinset).card =
      conditions.length := by
  induction conditions generalizing seen with
  | nil => simp [repetitions]
  | cons c rest ih =>
    have hrest := ih (c :: seen)
    rw [List.toFinset_cons] at hrest
    rw [repetitions, List.toFinset_cons, List.length_cons]
    by_cases hc : c ∈ seen
    · have hmem : c ∈ seen.toFinset := List.mem_toFinset.mpr hc
      rw [Finset.insert_eq_self.mpr hmem] at hrest
      rw [if_pos hc, List.length_cons, Finset.insert_sdiff_of_mem _ hmem]
      omega
    · have hmem : c ∉ seen.toFinset := mt List.mem_toFinset.mp hc
      -- the first of its kind is taken out of what is left to count
      have hcard : (insert c rest.toFinset \ seen.toFinset).card =
          (rest.toFinset \ insert c seen.toFinset).card + 1 := by
        rw [← Finset.insert_sdiff_insert, Finset.sdiff_insert, Finset.card_erase_add_one]
        exact Finset.mem_sdiff.mpr ⟨Finset.mem_insert_self _ _, hmem⟩
      rw [if_neg hc, hcard]
      omega

/-- There is one repetition for every condition beyond the first of each kind. -/
theorem length_repeated_add_card (conditions : List Condition) :
    (repeated conditions).length + conditions.toFinset.card = conditions.length := by
  have h := length_repetitions_add_card [] conditions
  rwa [repetitions_nil_eq, List.length_map, List.toFinset_nil, Finset.sdiff_empty] at h

/-- Nothing is repeated exactly when all conditions differ. -/
theorem repeated_eq_nil_iff : repeated conditions = [] ↔ conditions.Nodup := by
  have hcount := length_repeated_add_card conditions
  rw [← List.length_eq_zero_iff]
  constructor
  · intro h
    have hcard : conditions.toFinset.card = conditions.length := by omega
    exact Multiset.toFinset_card_eq_card_iff_nodup.mp hcard
  · intro h
    rw [List.toFinset_card_of_nodup h] at hcount
    omega

/-- The number of repetitions does not depend on the order of the conditions. -/
theorem length_repeated_of_perm {others : List Condition} (h : others.Perm conditions) :
    (repeated others).length = (repeated conditions).length := by
  have hothers := length_repeated_add_card others
  rw [List.toFinset_eq_of_perm _ _ h, h.length_eq] at hothers
  have hcount := length_repeated_add_card conditions
  omega

end Condition

namespace Rule

/-- What is reported about a level are the repetitions among its conditions. -/
theorem about_report_duplicateConditions {chain : Chain} {position : Nat} {level : Level}
    (h : chain[position]? = some level) :
    Diagnostic.about position (duplicateConditions.report chain) =
      (Condition.repeated level.conditions).map fun found =>
        (Finding.repeated found.1 level).diagnostic position := by
  rw [about_report _ h]
  simp only [atLevel, Condition.repetitions_nil_eq, List.map_map]
  rfl

/-- **The rule about repeated conditions is exact.** It reports on every chain, and all of its
diagnostics are about levels. Those about a level stand for the places that hold a condition equal
to one at an earlier place, one for each and in their order, and the messages name these conditions.
Together with the distinct conditions of the level they make up the number of its conditions, there
is none exactly when the conditions all differ, and there are as many about any level that has the
same conditions in another order. -/
theorem check_duplicateConditions_exact (chain : Chain) :
    ∃ report, duplicateConditions.check chain = .ok report ∧
      (∀ d ∈ report, ∃ (position : Nat) (level : Level), chain[position]? = some level ∧
        d.level = some (position : Int)) ∧
      ∀ (position : Nat) (level : Level), chain[position]? = some level →
        Diagnostic.about position report =
          ((Condition.repeated level.conditions).map fun found =>
            (Finding.repeated found.1 level).diagnostic position) ∧
        (Diagnostic.about position report).map (·.message) =
          ((Condition.repeated level.conditions).map fun found =>
            "Condition ".toList ++ found.1.render ++ " is repeated at level ".toList ++
              level.render ++ ['.']) ∧
        (∀ c place, (c, place) ∈ Condition.repeated level.conditions ↔
          level.conditions[place]? = some c ∧
            ∃ earlier < place, level.conditions[earlier]? = some c) ∧
        ((Condition.repeated level.conditions).map Prod.snd).Pairwise (· < ·) ∧
        (Diagnostic.about position report).length + level.conditions.toFinset.card =
          level.conditions.length ∧
        (Diagnostic.about position report = [] ↔ level.conditions.Nodup) ∧
        ∀ (other : Chain) (place : Nat) (another : Level), other[place]? = some another →
          another.conditions.Perm level.conditions →
            ∃ found, duplicateConditions.check other = .ok found ∧
              (Diagnostic.about place found).length =
                (Diagnostic.about position report).length := by
  refine ⟨_, check_of_ne (by decide) chain, fun d => exists_level_of_mem_report,
    fun position level hlevel => ?_⟩
  rw [about_report_duplicateConditions hlevel]
  refine ⟨rfl, List.map_map, fun c place => Condition.mem_repeated_iff,
    Condition.pairwise_repeated _, ?_, ?_, fun other place another hanother hperm =>
      ⟨_, check_of_ne (by decide) other, ?_⟩⟩
  · rw [List.length_map, Condition.length_repeated_add_card]
  · rw [List.map_eq_nil_iff, Condition.repeated_eq_nil_iff]
  · rw [about_report_duplicateConditions hanother, List.length_map, List.length_map,
      Condition.length_repeated_of_perm hperm]

/-- In `/x.c[@a and @class='c' and @a]` the class is written twice, once as a shorthand, and so is
the test for the other attribute. The two repetitions leave two distinct conditions. -/
theorem check_duplicateConditions_exact_shorthand :
    let styled : Condition := ⟨"class".toList, .equals, some ['c']⟩
    let tested : Condition := ⟨['a'], .present, none⟩
    let level : Level :=
      { caseSensitive := true
        target := .element ['x']
        conditions := [styled, tested, styled, tested] }
    let written := "/x[@class='c' and @a and @class='c' and @a]".toList
    Chain.compile true "/x.c[@a and @class='c' and @a]".toList = .ok [level] ∧
      ∃ report, duplicateConditions.check [level] = .ok report ∧
        Diagnostic.about 0 report =
          [(Finding.repeated styled level).diagnostic 0,
            (Finding.repeated tested level).diagnostic 0] ∧
        (Diagnostic.about 0 report).map (·.message) =
          ["Condition @class='c' is repeated at level ".toList ++ written ++ ['.'],
            "Condition @a is repeated at level ".toList ++ written ++ ['.']] ∧
        level.conditions.toFinset.card = 2 := by
  intro styled tested level written
  obtain ⟨report, hcheck, -, hlevels⟩ := check_duplicateConditions_exact [level]
  obtain ⟨habout, hmessages, -, -, hcount, -⟩ := hlevels 0 level rfl
  have hrepeated : Condition.repeated level.conditions = [(styled, 2), (tested, 3)] := by decide
  have hlength : level.conditions.length = 4 := rfl
  rw [hrepeated] at habout hmessages
  rw [habout, hlength] at hcount
  exact ⟨by decide +kernel, report, hcheck, habout, hmessages.trans (by decide +kernel),
    Nat.add_left_cancel hcount⟩

end Rule

end PathSelector
