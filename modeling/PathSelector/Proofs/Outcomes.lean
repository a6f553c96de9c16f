import Mathlib.Data.List.Forall2

/-!
# Outcomes of a list

A computation that may fail, run on the members of a list from left to right, succeeds when it
succeeds on each of them, and fails as it does on the first member where it fails.
-/

namespace PathSelector

variable {α β ε : Type}

/-- A run over a list succeeds with the results of its members. -/
theorem mapM_eq_ok_iff {f : α → Except ε β} {inputs : List α} {results : List β} :
    inputs.mapM f = .ok results ↔
      List.Forall₂ (fun input result => f input = .ok result) inputs results := by
  induction inputs generalizing results with
  | nil =>
    rw [List.mapM_nil, List.forall₂_nil_left_iff]
    exact ⟨fun h => (Except.ok.inj h).symm, fun h => h ▸ rfl⟩
  | cons input inputs ih =>
    rw [List.mapM_cons, List.forall₂_cons_left_iff]
    constructor
    · intro h
      cases hfirst : f input with
      | error e => rw [hfirst] at h; cases h
      | ok result =>
        cases hrest : inputs.mapM f with
        | error e => rw [hfirst, hrest] at h; cases h
        | ok rest =>
          rw [hfirst, hrest] at h
          exact ⟨result, rest, rfl, ih.mp hrest, (Except.ok.inj h).symm⟩
    · rintro ⟨result, rest, hfirst, hrest, rfl⟩
      rw [hfirst, ih.mpr hrest]
      rfl

/-- A run over a list succeeds when each member has a result, and what relates each member to its
result relates the two lists. -/
theorem exists_mapM_eq_ok {f : α → Except ε β} {R : α → β → Prop} {inputs : List α}
    (h : ∀ input ∈ inputs, ∃ result, f input = .ok result ∧ R input result) :
    ∃ results, inputs.mapM f = .ok results ∧ List.Forall₂ R inputs results := by
  induction inputs with
  | nil => exact ⟨[], rfl, .nil⟩
  | cons input inputs ih =>
    obtain ⟨⟨result, hfirst, hrel⟩, hrest⟩ := List.forall_mem_cons.mp h
    obtain ⟨results, hrun, hrels⟩ := ih hrest
    refine ⟨result :: results, ?_, .cons hrel hrels⟩
    rw [List.mapM_cons, hfirst, hrun]
    rfl

/-- Lists whose members give the same lists, one by one, give the same list. -/
theorem flatMap_eq_of_forall₂ {γ : Type} {f : α → List γ} {g : β → List γ} {inputs : List α}
    {results : List β} (h : List.Forall₂ (fun input result => g result = f input) inputs results) :
    results.flatMap g = inputs.flatMap f := by
  induction h with
  | nil => rfl
  | cons hfirst _ ih => rw [List.flatMap_cons, List.flatMap_cons, hfirst, ih]

theorem exists_of_mem_left {R : α → β → Prop} {inputs : List α} {results : List β}
    (h : List.Forall₂ R inputs results) {input : α} (hmem : input ∈ inputs) :
    ∃ result ∈ results, R input result := by
  induction h with
  | nil => cases hmem
  | cons hfirst _ ih =>
    rcases List.mem_cons.mp hmem with rfl | hmem
    · exact ⟨_, List.mem_cons_self, hfirst⟩
    · obtain ⟨result, hresult, hrel⟩ := ih hmem
      exact ⟨result, List.mem_cons_of_mem _ hresult, hrel⟩

theorem exists_of_mem_right {R : α → β → Prop} {inputs : List α} {results : List β}
    (h : List.Forall₂ R inputs results) {result : β} (hmem : result ∈ results) :
    ∃ input ∈ inputs, R input result :=
  exists_of_mem_left h.flip hmem

theorem exists_getElem?_of_forall₂ {R : α → β → Prop} {inputs : List α} {results : List β}
    (h : List.Forall₂ R inputs results) {place : Nat} {input : α}
    (hplace : inputs[place]? = some input) :
    ∃ result, results[place]? = some result ∧ R input result := by
  induction h generalizing place with
  | nil => cases hplace
  | cons hfirst _ ih =>
    cases place with
    | zero =>
      obtain rfl := Option.some.inj hplace
      exact ⟨_, rfl, hfirst⟩
    | succ place => exact ih hplace

/-- Where the first member of a list that stops a run stands: it is the head, or the head lets the
run go on and it stands in the tail. -/
theorem exists_stop_cons_iff {Passes : α → Prop} {Stops : α → List α → Prop} {first : α}
    {inputs : List α} :
    (∃ front input back, first :: inputs = front ++ input :: back ∧
        (∀ other ∈ front, Passes other) ∧ Stops input back) ↔
      Stops first inputs ∨ Passes first ∧ ∃ front input back, inputs = front ++ input :: back ∧
        (∀ other ∈ front, Passes other) ∧ Stops input back := by
  constructor
  · rintro ⟨front, input, back, heq, hfront, hstop⟩
    rcases List.cons_eq_append_iff.mp heq with ⟨rfl, hcons⟩ | ⟨front, rfl, rfl⟩
    · obtain ⟨rfl, rfl⟩ := List.cons.inj hcons
      exact Or.inl hstop
    · obtain ⟨hfirst, hfront⟩ := List.forall_mem_cons.mp hfront
      exact Or.inr ⟨hfirst, front, input, back, rfl, hfront, hstop⟩
  · rintro (hstop | ⟨hfirst, front, input, back, rfl, hfront, hstop⟩)
    · exact ⟨[], first, inputs, rfl, nofun, hstop⟩
    · exact ⟨first :: front, input, back, rfl, List.forall_mem_cons.mpr ⟨hfirst, hfront⟩, hstop⟩

/-- A run over a list fails as it does on the first member where it fails. -/
theorem mapM_eq_error_iff {f : α → Except ε β} {inputs : List α} {e : ε} :
    inputs.mapM f = .error e ↔
      ∃ front input back, inputs = front ++ input :: back ∧
        (∀ other ∈ front, ∃ result, f other = .ok result) ∧ f input = .error e := by
  induction inputs with
  | nil => exact ⟨nofun, by rintro ⟨front, input, back, heq, -⟩; simp at heq⟩
  | cons first inputs ih =>
    rw [List.mapM_cons, exists_stop_cons_iff, ← ih]
    cases f first with
    | error found => simp [bind, Except.bind]
    | ok result => cases inputs.mapM f <;> simp [bind, Except.bind, pure, Except.pure]

theorem exists_of_mapM_eq_error {f : α → Except ε β} {inputs : List α} {e : ε}
    (h : inputs.mapM f = .error e) : ∃ input ∈ inputs, f input = .error e := by
  obtain ⟨front, input, back, rfl, -, hinput⟩ := mapM_eq_error_iff.mp h
  exact ⟨input, List.mem_append_right _ List.mem_cons_self, hinput⟩

/-- When one computation gives on each member what another gives there, put through `h`, so do
their runs over a list. -/
theorem mapM_eq_map_mapM {γ : Type} {f : α → Except ε β} {g : α → Except ε γ} {h : β → γ}
    (hfg : ∀ input, g input = (f input).map h) (inputs : List α) :
    inputs.mapM g = (inputs.mapM f).map (List.map h) := by
  induction inputs with
  | nil => rfl
  | cons input inputs ih =>
    rw [List.mapM_cons, List.mapM_cons, hfg, ih]
    cases f input with
    | error e => rfl
    | ok result => cases inputs.mapM f <;> rfl

/-- Behind members on which the run succeeds, it goes on as it does from there. -/
theorem mapM_append_of_ok {f : α → Except ε β} {front : List α} {results : List β}
    (h : front.mapM f = .ok results) (back : List α) :
    (front ++ back).mapM f = (back.mapM f).map (results ++ ·) := by
  rw [List.mapM_append, h]
  cases back.mapM f <;> rfl

/-- A run over two lists succeeds when it does on each, with the results of both. -/
theorem mapM_append_eq_ok_iff {f : α → Except ε β} {front back : List α} {results : List β} :
    (front ++ back).mapM f = .ok results ↔
      ∃ first second, front.mapM f = .ok first ∧ back.mapM f = .ok second ∧
        results = first ++ second := by
  cases hfront : front.mapM f with
  | error e =>
    rw [List.mapM_append, hfront]
    simp [bind, Except.bind]
  | ok first =>
    rw [mapM_append_of_ok hfront]
    cases back.mapM f <;> simp [Except.map, eq_comm]

end PathSelector
