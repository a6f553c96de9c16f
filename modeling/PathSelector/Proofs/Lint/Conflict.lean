import Mathlib.Data.List.Nodup
import PathSelector.Proofs.Chain.Compile
import PathSelector.Proofs.Lint.Findings
import PathSelector.Proofs.Text.Ordered

/-!
# Conditions that cannot hold together

The rule about conflicting conditions is measured against what conditions mean. Under an assignment
of texts to the attributes of an element, each condition holds or fails. A level that the rule
reports holds under no assignment. A level that it does not report, and that tests nothing but
presence, absence and equality, holds under some assignment.

Main definitions:

* `Condition.Holds`: a condition holds under an assignment;
* `Conflict.Arises`: conditions on one attribute conflict, and why;
* `Conflict.assignment`: an assignment that meets conditions without conflict;
* `Level.conflicts`: the attributes of a level whose conditions conflict, with the reasons.

Main statements:

* `Conflict.of?_eq_some_iff`: the conflict that is found is the one that arises;
* `Conflict.Arises.not_holds`: conditions in conflict hold under no assignment;
* `Conflict.holds_assignment`: without a conflict there is an assignment;
* `Rule.check_conflictingConditions_sound_complete`: what the rule reports about a chain.
-/

namespace PathSelector

/-! ### First appearances -/

section FirstAppearance

variable {α : Type} [BEq α] [LawfulBEq α]

/-- Leaving members out of a list does not change which of two that stay appears first. -/
theorem idxOf_lt_idxOf_of_filter {p : α → Bool} {a b : α} (hb : p b = true) {l : List α}
    (h : (l.filter p).idxOf a < (l.filter p).idxOf b) : l.idxOf a < l.idxOf b := by
  induction l with
  | nil => simp at h
  | cons x l ih =>
    by_cases hxb : x = b
    · subst hxb
      rw [List.filter_cons_of_pos hb, List.idxOf_cons_self] at h
      exact absurd h (Nat.not_lt_zero _)
    · rw [List.idxOf_cons_ne _ hxb]
      by_cases hxa : x = a
      · subst hxa
        rw [List.idxOf_cons_self]
        exact Nat.succ_pos _
      · rw [List.idxOf_cons_ne _ hxa]
        refine Nat.succ_lt_succ (ih ?_)
        by_cases hx : p x = true
        · rw [List.filter_cons_of_pos hx, List.idxOf_cons_ne _ hxa, List.idxOf_cons_ne _ hxb] at h
          exact Nat.lt_of_succ_lt_succ h
        · rwa [List.filter_cons_of_neg hx] at h

/-- Members of a list that are listed once stand in the order of their first appearance. -/
theorem pairwise_eraseDups (l : List α) :
    l.eraseDups.Pairwise fun a b => l.idxOf a < l.idxOf b := by
  cases l with
  | nil => exact .nil
  | cons x l =>
    have hne : ∀ b ∈ (l.filter fun b => !b == x).eraseDups, b ≠ x := by
      intro b hb
      rw [List.mem_eraseDups] at hb
      simpa using (List.mem_filter.mp hb).2
    rw [List.eraseDups_cons, List.pairwise_cons]
    refine ⟨fun b hb => ?_, (pairwise_eraseDups _).imp_of_mem fun {a b} ha hb hlt => ?_⟩
    · rw [List.idxOf_cons_self, List.idxOf_cons_ne _ (hne b hb).symm]
      exact Nat.succ_pos _
    · rw [List.idxOf_cons_ne _ (hne a ha).symm, List.idxOf_cons_ne _ (hne b hb).symm]
      exact Nat.succ_lt_succ (idxOf_lt_idxOf_of_filter (by simpa using hne b hb) hlt)
termination_by l.length
decreasing_by exact Nat.lt_succ_of_le (List.length_filter_le _ _)

theorem nodup_eraseDups (l : List α) : l.eraseDups.Nodup :=
  (pairwise_eraseDups l).imp fun hlt heq => by simp [heq] at hlt

/-- Several members are left when each is listed once exactly when two of them differ. -/
theorem one_lt_length_eraseDups_iff {l : List α} :
    1 < l.eraseDups.length ↔ ∃ a ∈ l, ∃ b ∈ l, a ≠ b := by
  cases l with
  | nil => simp
  | cons x l =>
    rw [List.eraseDups_cons, List.length_cons, Nat.lt_add_left_iff_pos,
      List.length_pos_iff_exists_mem]
    simp only [List.mem_eraseDups, List.mem_filter, Bool.not_eq_true', beq_eq_false_iff_ne]
    constructor
    · rintro ⟨b, hb, hne⟩
      exact ⟨b, List.mem_cons_of_mem _ hb, x, List.mem_cons_self, hne⟩
    · rintro ⟨a, ha, b, hb, hne⟩
      by_cases hax : a = x
      · subst hax
        exact ⟨b, (List.mem_cons.mp hb).resolve_left hne.symm, hne.symm⟩
      · exact ⟨a, (List.mem_cons.mp ha).resolve_left hax, hax⟩

end FirstAppearance

/-! ### What conditions mean -/

/-- A condition holds of an element with the given texts of its attributes. What it takes for a part
of a text to compare is left to `compares`; without the attribute such a test fails. -/
def Condition.Holds (compares : Operator → Text → Option Text → Prop)
    (assignment : Text → Option Text) (c : Condition) : Prop :=
  match c.operator with
  | .present => (assignment c.name).isSome
  | .absent => assignment c.name = none
  | .equals => ∃ value, c.value = some value ∧ assignment c.name = some value
  | .notEquals => ∀ value, c.value = some value → assignment c.name ≠ some value
  | operator => ∃ found, assignment c.name = some found ∧ compares operator found c.value

/-- A condition that needs the attribute holds only with it. -/
theorem Condition.Holds.isSome {compares : Operator → Text → Option Text → Prop}
    {assignment : Text → Option Text} {c : Condition} (h : c.Holds compares assignment)
    (hrequires : c.operator.requiresAttribute = true) : (assignment c.name).isSome := by
  unfold Holds at h
  split at h
  · exact h
  · next hoperator => rw [hoperator] at hrequires; cases hrequires
  · obtain ⟨value, -, hvalue⟩ := h
    simp [hvalue]
  · next hoperator => rw [hoperator] at hrequires; cases hrequires
  · obtain ⟨found, hfound, -⟩ := h
    simp [hfound]

namespace Conflict

/-- Some condition asks for absence and another one needs the attribute. -/
def Clashes (conditions : List Condition) : Prop :=
  (∃ c ∈ conditions, c.operator = .absent) ∧
    ∃ c ∈ conditions, c.operator.requiresAttribute = true

/-- Some condition asks the attribute to equal the text. -/
def Equalled (conditions : List Condition) (text : Text) : Prop :=
  ∃ c ∈ conditions, c.operator = .equals ∧ c.value = some text

/-- Conditions on one attribute conflict for the given reason. Presence comes first; otherwise the
several texts that the attribute has to equal are listed in ascending order. -/
def Arises (conditions : List Condition) : Conflict → Prop
  | presence => Clashes conditions
  | values texts => ¬ Clashes conditions ∧ 1 < texts.length ∧ texts.Pairwise (· < ·) ∧
      ∀ text, text ∈ texts ↔ Equalled conditions text

/-- Every equality has a text to compare with. -/
def Valued (conditions : List Condition) : Prop :=
  ∀ c ∈ conditions, c.operator = .equals → c.value ≠ none

/-! ### Finding a conflict -/

variable {conditions : List Condition}

theorem presenceClash_iff : presenceClash conditions = true ↔ Clashes conditions := by
  simp [presenceClash, Clashes]

theorem mem_equalled_iff {value : Option Text} :
    value ∈ equalled conditions ↔ ∃ c ∈ conditions, c.operator = .equals ∧ c.value = value := by
  simp [equalled, and_assoc]

theorem mem_filterMap_equalled_iff {text : Text} :
    text ∈ (equalled conditions).filterMap id ↔ Equalled conditions text := by
  simp [mem_equalled_iff, Equalled]

theorem nodup_filterMap_equalled (conditions : List Condition) :
    ((equalled conditions).filterMap id).Nodup :=
  (nodup_eraseDups _).filterMap fun _ _ _ ha hb => ha.trans hb.symm

/-- No value is lost when every equality has a text to compare with. -/
theorem length_filterMap_equalled (h : Valued conditions) :
    ((equalled conditions).filterMap id).length = (equalled conditions).length := by
  rw [List.length_filterMap_eq_countP, List.countP_eq_length]
  intro value hvalue
  obtain ⟨c, hc, hoperator, rfl⟩ := mem_equalled_iff.mp hvalue
  exact Option.isSome_iff_ne_none.mpr (h c hc hoperator)

/-- The texts that an attribute has to equal ascend once they are sorted. -/
theorem pairwise_mergeSort_equalled (conditions : List Condition) :
    (((equalled conditions).filterMap id).mergeSort Text.notBehind).Pairwise (· < ·) := by
  have hnodup := (List.mergeSort_perm _ Text.notBehind).nodup_iff.mpr
    (nodup_filterMap_equalled conditions)
  exact ((Text.pairwise_mergeSort _).and hnodup).imp fun ⟨hle, hne⟩ => lt_of_le_of_ne hle hne

/-- Ascending texts are those that an attribute has to equal, sorted, when they are the same
texts. -/
theorem mergeSort_equalled_eq {texts : List Text} (hascending : texts.Pairwise (· < ·))
    (hmem : ∀ text, text ∈ texts ↔ Equalled conditions text) :
    ((equalled conditions).filterMap id).mergeSort Text.notBehind = texts := by
  refine Text.mergeSort_eq_of_perm (hascending.imp le_of_lt) ?_
  rw [List.perm_ext_iff_of_nodup (hascending.imp ne_of_lt) (nodup_filterMap_equalled conditions)]
  intro text
  rw [hmem, mem_filterMap_equalled_iff]

/-- The conflict that is found is the one that arises. -/
theorem of?_eq_some_iff (h : Valued conditions) {reason : Conflict} :
    of? conditions = some reason ↔ Arises conditions reason := by
  unfold of?
  by_cases hclash : presenceClash conditions = true
  · rw [if_pos hclash]
    have harises := presenceClash_iff.mp hclash
    cases reason <;> simp [Arises, harises]
  · rw [if_neg hclash]
    have hnone := mt presenceClash_iff.mpr hclash
    cases reason with
    | presence =>
      refine ⟨fun hfound => ?_, fun harises => absurd harises hnone⟩
      split at hfound <;> cases hfound
    | values texts =>
      have hperm := List.mergeSort_perm ((equalled conditions).filterMap id) Text.notBehind
      have hlength := hperm.length_eq.trans (length_filterMap_equalled h)
      constructor
      · intro hfound
        split at hfound
        · next hmany =>
          obtain rfl := Conflict.values.inj (Option.some.inj hfound)
          refine ⟨hnone, hlength ▸ hmany, pairwise_mergeSort_equalled conditions, fun text => ?_⟩
          rw [hperm.mem_iff, mem_filterMap_equalled_iff]
        · cases hfound
      · rintro ⟨-, hmany, hascending, hmem⟩
        have heq := mergeSort_equalled_eq hascending hmem
        rw [heq] at hlength
        rw [if_pos (hlength ▸ hmany), heq]

/-- No conflict is found when nothing clashes and all equalities agree. -/
theorem of?_eq_none_iff :
    of? conditions = none ↔ ¬ Clashes conditions ∧
      ∀ c ∈ conditions, c.operator = .equals → ∀ d ∈ conditions, d.operator = .equals →
        c.value = d.value := by
  have hequal : ¬ 1 < (equalled conditions).length ↔
      ∀ c ∈ conditions, c.operator = .equals → ∀ d ∈ conditions, d.operator = .equals →
        c.value = d.value := by
    rw [equalled, one_lt_length_eraseDups_iff]
    simp only [List.mem_map, List.mem_filter, decide_eq_true_eq]
    push Not
    constructor
    · intro h c hc hequals d hd hdequals
      exact h _ ⟨c, ⟨hc, hequals⟩, rfl⟩ _ ⟨d, ⟨hd, hdequals⟩, rfl⟩
    · rintro h _ ⟨c, ⟨hc, hequals⟩, rfl⟩ _ ⟨d, ⟨hd, hdequals⟩, rfl⟩
      exact h c hc hequals d hd hdequals
  rw [← hequal, ← presenceClash_iff]
  unfold of?
  split
  · next hclash => simp [hclash]
  · next hclash =>
    split
    · next hmany => simp [hmany]
    · next hmany => simp [hclash, hmany]

/-! ### Conflicts and assignments -/

theorem mem_conditionsOn_iff {name : Text} {c : Condition} :
    c ∈ conditionsOn name conditions ↔ c ∈ conditions ∧ c.name = name := by
  simp [conditionsOn]

theorem mem_names_iff {name : Text} :
    name ∈ names conditions ↔ ∃ c ∈ conditions, c.name = name := by
  simp [names, List.mem_eraseDups]

theorem conditionsOn_eq_nil {name : Text} (h : name ∉ names conditions) :
    conditionsOn name conditions = [] := by
  refine List.eq_nil_iff_forall_not_mem.mpr fun c hc => h ?_
  exact mem_names_iff.mpr ⟨c, mem_conditionsOn_iff.mp hc⟩

theorem Valued.conditionsOn (h : Valued conditions) (name : Text) :
    Valued (conditionsOn name conditions) :=
  fun c hc => h c (mem_conditionsOn_iff.mp hc).1

/-- Conditions among which a conflict arises hold under no assignment. -/
theorem Arises.not_holds {name : Text} {reason : Conflict}
    (h : Arises (conditionsOn name conditions) reason)
    (compares : Operator → Text → Option Text → Prop) (assignment : Text → Option Text) :
    ¬ ∀ c ∈ conditions, c.Holds compares assignment := by
  intro hholds
  cases reason with
  | presence =>
    obtain ⟨⟨absent, habsent, hoperator⟩, needing, hneeding, hrequires⟩ := h
    rw [mem_conditionsOn_iff] at habsent hneeding
    have hsome := (hholds needing hneeding.1).isSome hrequires
    have hnone := hholds absent habsent.1
    simp only [Condition.Holds, hoperator] at hnone
    rw [hneeding.2, ← habsent.2, hnone] at hsome
    cases hsome
  | values texts =>
    obtain ⟨-, hmany, hascending, hmem⟩ := h
    -- two texts differ, and the attribute would have to be both
    have hassigned : ∀ text ∈ texts, assignment name = some text := by
      intro text htext
      obtain ⟨c, hc, hoperator, hvalue⟩ := (hmem text).mp htext
      rw [mem_conditionsOn_iff] at hc
      have hequals := hholds c hc.1
      simp only [Condition.Holds, hoperator, hvalue, hc.2] at hequals
      obtain ⟨value, heq, hassigned⟩ := hequals
      rw [hassigned, heq]
    obtain ⟨first, second, rest, rfl⟩ : ∃ first second rest, texts = first :: second :: rest := by
      match texts, hmany with
      | first :: second :: rest, _ => exact ⟨first, second, rest, rfl⟩
    have hfirst := hassigned first (by simp)
    have hsecond := hassigned second (by simp)
    have hlt := (List.pairwise_cons.mp hascending).1 second (by simp)
    exact hlt.ne (Option.some.inj (hfirst.symm.trans hsecond))

/-- An attribute gets the text of the first equality on it. Without one it gets the empty text if
its presence is tested, and is left out otherwise. -/
def assignment (conditions : List Condition) (name : Text) : Option Text :=
  match (conditionsOn name conditions).find? (·.operator = .equals) with
  | some c => c.value
  | none => if (conditionsOn name conditions).any (·.operator = .present) then some [] else none

/-- An attribute on which all equalities agree gets the text they ask for. -/
theorem assignment_of_equals {c : Condition} (hc : c ∈ conditionsOn c.name conditions)
    (hequals : c.operator = .equals)
    (hagree : ∀ d ∈ conditionsOn c.name conditions, d.operator = .equals → d.value = c.value) :
    assignment conditions c.name = c.value := by
  unfold assignment
  split
  · next d hfind =>
    have hd := List.find?_some hfind
    exact hagree d (List.mem_of_find?_eq_some hfind) (of_decide_eq_true hd)
  · next hfind =>
    have := List.find?_eq_none.mp hfind c hc
    simp [hequals] at this

/-- An attribute whose presence is tested gets a text. -/
theorem isSome_assignment_of_present (hvalued : Valued conditions) {c : Condition}
    (hc : c ∈ conditionsOn c.name conditions) (hpresent : c.operator = .present) :
    (assignment conditions c.name).isSome := by
  unfold assignment
  split
  · next d hfind =>
    have hd := List.find?_some hfind
    have hmem := List.mem_of_find?_eq_some hfind
    exact Option.isSome_iff_ne_none.mpr
      (hvalued.conditionsOn c.name d hmem (of_decide_eq_true hd))
  · rw [if_pos (List.any_eq_true.mpr ⟨c, hc, decide_eq_true hpresent⟩)]
    rfl

/-- An attribute that no condition needs is left out. -/
theorem assignment_eq_none {name : Text}
    (h : ∀ c ∈ conditionsOn name conditions, c.operator.requiresAttribute = false) :
    assignment conditions name = none := by
  have hfind : (conditionsOn name conditions).find? (·.operator = .equals) = none := by
    refine List.find?_eq_none.mpr fun c hc hequals => ?_
    have := h c hc
    rw [of_decide_eq_true hequals] at this
    cases this
  have hany : (conditionsOn name conditions).any (·.operator = .present) = false := by
    refine List.any_eq_false.mpr fun c hc hpresent => ?_
    have := h c hc
    rw [of_decide_eq_true hpresent] at this
    cases this
  rw [assignment, hfind]
  simp [hany]

/-- Conditions that test nothing but presence, absence and equality, and among which no conflict is
found, hold under an assignment. -/
theorem holds_assignment (hvalued : Valued conditions)
    (hnone : ∀ name ∈ names conditions, of? (conditionsOn name conditions) = none)
    (hoperators : ∀ c ∈ conditions, c.operator ∈ [.present, .absent, .equals])
    (compares : Operator → Text → Option Text → Prop) :
    ∀ c ∈ conditions, c.Holds compares (assignment conditions) := by
  intro c hc
  have hon : c ∈ conditionsOn c.name conditions := mem_conditionsOn_iff.mpr ⟨hc, rfl⟩
  obtain ⟨hclash, hagree⟩ := of?_eq_none_iff.mp (hnone c.name (mem_names_iff.mpr ⟨c, hc, rfl⟩))
  have hoperator := hoperators c hc
  simp only [List.mem_cons, List.not_mem_nil, or_false] at hoperator
  rcases hoperator with hpresent | habsent | hequals
  · simp only [Condition.Holds, hpresent]
    exact isSome_assignment_of_present hvalued hon hpresent
  · simp only [Condition.Holds, habsent]
    refine assignment_eq_none fun d hd => ?_
    rw [Bool.eq_false_iff]
    exact fun hrequires => hclash ⟨⟨c, hon, habsent⟩, d, hd, hrequires⟩
  · simp only [Condition.Holds, hequals]
    obtain ⟨value, hvalue⟩ := Option.ne_none_iff_exists'.mp (hvalued c hc hequals)
    refine ⟨value, hvalue, ?_⟩
    rw [← hvalue]
    exact assignment_of_equals hon hequals fun d hd hdequals => hagree d hd hdequals c hon hequals

/-! ### Reordering -/

/-- Only the members of the conditions matter to a conflict, not their order. -/
theorem arises_congr {others : List Condition} (h : ∀ c, c ∈ others ↔ c ∈ conditions)
    {reason : Conflict} : Arises others reason ↔ Arises conditions reason := by
  cases reason <;> simp only [Arises, Clashes, Equalled, h]

end Conflict

/-! ### Levels -/

namespace Level

/-- The attributes of a level whose conditions conflict, with the reasons. -/
def conflicts (level : Level) : List (Text × Conflict) :=
  (Conflict.names level.conditions).filterMap fun name =>
    (Conflict.of? (Conflict.conditionsOn name level.conditions)).map (name, ·)

/-- What the rule finds at a level are its conflicts. -/
theorem atLevel_conflictingConditions (level : Level) (isLast : Bool) :
    Rule.conflictingConditions.atLevel level isLast =
      level.conflicts.map fun (name, reason) => .conflict name level reason := by
  rw [conflicts, List.map_filterMap]
  simp only [Rule.atLevel, Option.map_map]
  rfl

/-- Every conflict that arises is listed, and no other. -/
theorem mem_conflicts_iff {level : Level} (h : Conflict.Valued level.conditions) {name : Text}
    {reason : Conflict} :
    (name, reason) ∈ level.conflicts ↔
      Conflict.Arises (Conflict.conditionsOn name level.conditions) reason := by
  rw [← Conflict.of?_eq_some_iff (h.conditionsOn name), conflicts, List.mem_filterMap]
  constructor
  · rintro ⟨other, -, hother⟩
    obtain ⟨found, hfound, heq⟩ := Option.map_eq_some_iff.mp hother
    obtain ⟨rfl, rfl⟩ := Prod.mk.inj heq
    exact hfound
  · intro hfound
    refine ⟨name, ?_, Option.map_eq_some_iff.mpr ⟨reason, hfound, rfl⟩⟩
    by_contra hname
    rw [Conflict.conditionsOn_eq_nil hname] at hfound
    cases hfound

/-- The attributes in conflict stand in the order in which they first appear. -/
theorem pairwise_conflicts (level : Level) :
    (level.conflicts.map Prod.fst).Pairwise fun name other =>
      (level.conditions.map Condition.name).idxOf name <
        (level.conditions.map Condition.name).idxOf other := by
  rw [List.pairwise_map, conflicts, List.pairwise_filterMap]
  refine (pairwise_eraseDups _).imp fun hlt found hfound other hother => ?_
  obtain ⟨reason, -, rfl⟩ := Option.map_eq_some_iff.mp hfound
  obtain ⟨another, -, rfl⟩ := Option.map_eq_some_iff.mp hother
  exact hlt

theorem nodup_conflicts (level : Level) : level.conflicts.Nodup :=
  .of_map Prod.fst (level.pairwise_conflicts.imp fun hlt heq => by simp [heq] at hlt)

/-- The order of the conditions does not matter to which attributes conflict and why. -/
theorem conflicts_perm {level : Level} (h : Conflict.Valued level.conditions)
    {conditions : List Condition} (hperm : conditions.Perm level.conditions) :
    ({ level with conditions } : Level).conflicts.Perm level.conflicts := by
  have hvalued : Conflict.Valued conditions := fun c hc => h c (hperm.mem_iff.mp hc)
  rw [List.perm_ext_iff_of_nodup (nodup_conflicts _) (nodup_conflicts _)]
  rintro ⟨name, reason⟩
  rw [mem_conflicts_iff h, mem_conflicts_iff hvalued]
  exact Conflict.arises_congr fun c => by simp only [Conflict.mem_conditionsOn_iff, hperm.mem_iff]

/-- The conditions of a level with a conflict hold under no assignment. -/
theorem not_holds_of_conflicts {level : Level} (h : Conflict.Valued level.conditions)
    (hne : level.conflicts ≠ []) (compares : Operator → Text → Option Text → Prop)
    (assignment : Text → Option Text) : ¬ ∀ c ∈ level.conditions, c.Holds compares assignment := by
  obtain ⟨⟨name, reason⟩, hmem⟩ := List.exists_mem_of_ne_nil _ hne
  exact ((mem_conflicts_iff h).mp hmem).not_holds compares assignment

/-- The conditions of a level without a conflict hold under an assignment if they test nothing but
presence, absence and equality. -/
theorem exists_holds_of_conflicts_eq_nil {level : Level} (h : Conflict.Valued level.conditions)
    (hnil : level.conflicts = [])
    (hoperators : ∀ c ∈ level.conditions, c.operator ∈ [.present, .absent, .equals])
    (compares : Operator → Text → Option Text → Prop) :
    ∃ assignment, ∀ c ∈ level.conditions, c.Holds compares assignment := by
  rw [conflicts, List.filterMap_eq_nil_iff] at hnil
  refine ⟨_, Conflict.holds_assignment h (fun name hname => ?_) hoperators compares⟩
  exact Option.map_eq_none_iff.mp (hnil name hname)

end Level

/-! ### Chains -/

/-- Every equality of a compiled chain has a text to compare with. -/
theorem Chain.valued_of_compile {caseSensitive : Bool} {selector : Text} {chain : Chain}
    (h : compile caseSensitive selector = .ok chain) :
    ∀ level ∈ chain, Conflict.Valued level.conditions := by
  intro level hlevel c hc hequals hnone
  have hwf := (wellFormed_of_parse (compile_eq_ok_iff.mp h)).2 level hlevel
  rcases (hwf.conditions c hc).value_eq_none_iff.mp hnone with hoperator | hoperator
  · cases hequals.symm.trans hoperator
  · cases hequals.symm.trans hoperator

namespace Rule

variable {chain : Chain}

/-- The values in a conflict have an order when every equality has a text to compare with. -/
theorem check_conflictingConditions_eq_ok
    (h : ∀ level ∈ chain, Conflict.Valued level.conditions) :
    conflictingConditions.check chain = .ok (conflictingConditions.report chain) := by
  refine if_neg ?_
  rintro ⟨-, hany⟩
  obtain ⟨level, hlevel, hunordered⟩ := List.any_eq_true.mp hany
  obtain ⟨name, -, hname⟩ := List.any_eq_true.mp hunordered
  have hnone := of_decide_eq_true (Bool.and_eq_true_iff.mp hname).2
  obtain ⟨c, hc, hequals, hvalue⟩ := Conflict.mem_equalled_iff.mp hnone
  exact (h level hlevel).conditionsOn name c hc hequals hvalue

/-- What is reported about a level are its conflicts. -/
theorem about_report_conflictingConditions {position : Nat} {level : Level}
    (h : chain[position]? = some level) :
    Diagnostic.about position (conflictingConditions.report chain) =
      level.conflicts.map fun (name, reason) =>
        (Finding.conflict name level reason).diagnostic position := by
  rw [about_report _ h, Level.atLevel_conflictingConditions, List.map_map]
  rfl

/-- A level is reported exactly when it has a conflict. -/
theorem exists_mem_report_iff {position : Nat} {level : Level}
    (h : chain[position]? = some level) :
    (∃ d ∈ conflictingConditions.report chain, d.level = some (position : Int)) ↔
      level.conflicts ≠ [] := by
  simp only [← Diagnostic.mem_about_iff, ← List.length_pos_iff_exists_mem,
    about_report_conflictingConditions h, List.length_map, List.length_pos_iff]

/-- **The rule about conflicting conditions is sound, and complete for presence, absence and
equality.** On a chain whose equalities all have a text to compare with, as those of a compiled
chain do, it reports diagnostics about the levels. A level has one for each attribute on which a
conflict arises, in the order in which the attributes first appear, and the message names the
attribute and the reason. Reordering the conditions changes neither these attributes nor the
reasons. The conditions of a level that is reported hold under no assignment. Those of a level that
is not hold under some assignment if they test nothing else. -/
theorem check_conflictingConditions_sound_complete :
    (∀ caseSensitive selector chain, Chain.compile caseSensitive selector = .ok chain →
      ∀ level ∈ chain, Conflict.Valued level.conditions) ∧
    ∀ chain : Chain, (∀ level ∈ chain, Conflict.Valued level.conditions) →
      ∃ report, conflictingConditions.check chain = .ok report ∧
        (∀ d ∈ report, ∃ (position : Nat) (level : Level), chain[position]? = some level ∧
          d.level = some (position : Int)) ∧
        ∀ (position : Nat) (level : Level), chain[position]? = some level →
          Diagnostic.about position report =
            (level.conflicts.map fun (name, reason) =>
              (Finding.conflict name level reason).diagnostic position) ∧
          (Diagnostic.about position report).map (·.message) =
            (level.conflicts.map fun (name, reason) =>
              "Attribute '".toList ++ name ++ "' at level ".toList ++ level.render ++ [' '] ++
                (match reason with
                  | .presence => "must both exist and not exist".toList
                  | .values texts => "must equal ".toList ++
                      List.intercalate " and ".toList (texts.map Text.quoted)) ++ ['.']) ∧
          (∀ name reason, (name, reason) ∈ level.conflicts ↔
            Conflict.Arises (Conflict.conditionsOn name level.conditions) reason) ∧
          ((level.conflicts.map Prod.fst).Pairwise fun name other =>
            (level.conditions.map Condition.name).idxOf name <
              (level.conditions.map Condition.name).idxOf other) ∧
          (∀ conditions : List Condition, conditions.Perm level.conditions →
            ({ level with conditions } : Level).conflicts.Perm level.conflicts) ∧
          ((∃ d ∈ report, d.level = some (position : Int)) → ∀ compares assignment,
            ¬ ∀ c ∈ level.conditions, c.Holds compares assignment) ∧
          ((∀ d ∈ report, d.level ≠ some (position : Int)) →
            (∀ c ∈ level.conditions, c.operator ∈ [.present, .absent, .equals]) →
              ∀ compares, ∃ assignment, ∀ c ∈ level.conditions, c.Holds compares assignment) := by
  refine ⟨fun caseSensitive selector chain => Chain.valued_of_compile, fun chain hvalued => ?_⟩
  refine ⟨_, check_conflictingConditions_eq_ok hvalued, fun d => exists_level_of_mem_report,
    fun position level hlevel => ?_⟩
  have hlevelValued := hvalued level (List.mem_of_getElem? hlevel)
  have hreported := exists_mem_report_iff hlevel
  have habout := about_report_conflictingConditions hlevel
  refine ⟨habout, ?_,
    fun name reason => Level.mem_conflicts_iff hlevelValued, level.pairwise_conflicts,
    fun conditions => Level.conflicts_perm hlevelValued, fun hsome => ?_, fun hnone => ?_⟩
  · rw [habout, List.map_map]
    refine List.map_congr_left fun found _ => ?_
    rcases found with ⟨name, _ | texts⟩ <;> rfl
  · exact Level.not_holds_of_conflicts hlevelValued (hreported.mp hsome)
  · refine Level.exists_holds_of_conflicts_eq_nil hlevelValued (by_contra fun hne => ?_)
    obtain ⟨d, hd, hposition⟩ := hreported.mpr hne
    exact hnone d hd hposition

/-- The first level of `/a[@b='2' and !@c and @b='1' and @c]/d[@e='1' and !@f]` is reported for two
attributes and holds under no assignment; the second is not reported and holds under one. -/
theorem check_conflictingConditions_sound_complete_two_levels :
    let first : Level :=
      { caseSensitive := true
        target := .element ['a']
        conditions := [⟨['b'], .equals, some ['2']⟩, ⟨['c'], .absent, none⟩,
          ⟨['b'], .equals, some ['1']⟩, ⟨['c'], .present, none⟩] }
    let second : Level :=
      { caseSensitive := true
        target := .element ['d']
        conditions := [⟨['e'], .equals, some ['1']⟩, ⟨['f'], .absent, none⟩] }
    let written := "/a[@b='2' and !@c and @b='1' and @c]".toList
    Chain.compile true (written ++ "/d[@e='1' and !@f]".toList) = .ok [first, second] ∧
      ∃ report, conflictingConditions.check [first, second] = .ok report ∧
        Diagnostic.about 0 report =
          [(Finding.conflict ['b'] first (.values [['1'], ['2']])).diagnostic 0,
            (Finding.conflict ['c'] first .presence).diagnostic 0] ∧
        (Diagnostic.about 0 report).map (·.message) =
          ["Attribute 'b' at level ".toList ++ written ++ " must equal '1' and '2'.".toList,
            "Attribute 'c' at level ".toList ++ written ++
              " must both exist and not exist.".toList] ∧
        (∀ compares assignment, ¬ ∀ c ∈ first.conditions, c.Holds compares assignment) ∧
        ∀ compares, ∃ assignment, ∀ c ∈ second.conditions, c.Holds compares assignment := by
  intro first second written
  have hcompile : Chain.compile true (written ++ "/d[@e='1' and !@f]".toList) =
      .ok [first, second] := by decide +kernel
  have hvalued := check_conflictingConditions_sound_complete.1 _ _ _ hcompile
  obtain ⟨report, hcheck, -, hlevels⟩ := check_conflictingConditions_sound_complete.2 _ hvalued
  obtain ⟨habout, hmessages, -, -, -, hsound, -⟩ := hlevels 0 first rfl
  obtain ⟨hrest, -, -, -, -, -, hcomplete⟩ := hlevels 1 second rfl
  have hsorted : [['2'], ['1']].mergeSort Text.notBehind = [['1'], ['2']] :=
    Text.mergeSort_eq_of_perm (by decide) (.swap ..)
  have hfirst : first.conflicts = [(['b'], .values [['1'], ['2']]), (['c'], .presence)] := by
    rw [← hsorted]
    rfl
  have hsecond : second.conflicts = [] := by decide +kernel
  rw [hfirst] at habout hmessages
  rw [hsecond, List.map_nil] at hrest
  refine ⟨hcompile, report, hcheck, habout, hmessages.trans (by decide +kernel), hsound ?_,
    hcomplete ?_ (by decide)⟩
  · have hmem : (Finding.conflict ['c'] first .presence).diagnostic 0 ∈
        Diagnostic.about 0 report := habout ▸ by simp
    exact ⟨_, Diagnostic.mem_about_iff.mp hmem⟩
  · intro d hd hposition
    exact absurd (Diagnostic.mem_about_iff.mpr ⟨hd, hposition⟩) (hrest ▸ List.not_mem_nil)

end Rule

end PathSelector
