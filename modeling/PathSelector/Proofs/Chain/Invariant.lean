import PathSelector.Proofs.Chain.Compile

/-!
# What holds of every compiled chain

Whoever matches, writes or checks a compiled chain may rely on the form of its parts: which
characters a name can hold and which numbers an index, which conditions have a value, and which
levels require attributes. None of this hangs on whether case is regarded, since lowercase brings no
character into a name that has a meaning in a selector.

Main definition: `Level.Invariant`, what holds of every level of a compiled chain.

Main statements:

* `Level.WellFormed.invariant`: a well-formed level has the invariant;
* `Chain.invariant_of_compile`: a compiled chain has a level, and all its levels have the invariant.
-/

namespace PathSelector

/-- What holds of every level of a compiled chain. -/
structure Level.Invariant (caseSensitive : Bool) (level : Level) : Prop where
  caseSensitive_eq : level.caseSensitive = caseSensitive
  elementName?_of_isText : level.isText = true → level.target.elementName? = none
  elementName : ∀ name, level.target.elementName? = some name →
    name ≠ [] ∧ name ≠ Target.wildcard ∧ ∀ c ∈ name, Text.isBlank c = false ∧ c ∉ "/[]#.%".toList
  reference : ∀ name, level.reference = some name →
    name ≠ [] ∧ ∀ c ∈ name, Text.isBlank c = false ∧ c ∉ "/[]#.".toList
  index : ∀ index, level.index = some index →
    index.kind ∈ [.exactly, .lessThan, .moreThan] ∧ -2 ^ 31 ≤ index.value ∧
        index.value ≤ 2 ^ 31 - 1 ∨
      index.kind ∈ [.even, .odd] ∧ index.value = -1
  condition : ∀ c ∈ level.conditions,
    c.name ≠ [] ∧ '=' ∉ c.name ∧ (∀ d, c.name.getLast? = some d → Text.isBlank d = false) ∧
      (c.value = none ↔ c.operator = .present ∨ c.operator = .absent)
  requiresAttributes_iff : level.requiresAttributes = true ↔
    ∃ c ∈ level.conditions, c.operator ≠ .notEquals ∧ c.operator ≠ .absent

/-! ### Parts of a level -/

/-- A name without the marks of some kinds of shorthand holds neither them nor a slash nor a
bracket nor a blank. -/
theorem Segment.notMem_of_isNameChar (kinds : List Shorthand) {name : Text}
    (hchars : ∀ c ∈ name, isNameChar c = true) (hplain : ∀ kind ∈ kinds, kind.mark ∉ name) :
    ∀ c ∈ name, Text.isBlank c = false ∧ c ∉ "/[]".toList ++ kinds.map Shorthand.mark := by
  intro c hc
  obtain ⟨hslash, hopen, hclose, hblank⟩ := isNameChar_iff.mp (hchars c hc)
  refine ⟨hblank, fun hmem => ?_⟩
  rcases List.mem_append.mp hmem with hsign | hmark
  · have hsigns : ∀ d ∈ "/[]".toList, d = '/' ∨ d = '[' ∨ d = ']' := by decide
    rcases hsigns c hsign with rfl | rfl | rfl
    · exact hslash rfl
    · exact hopen rfl
    · exact hclose rfl
  · obtain ⟨kind, hkind, rfl⟩ := List.mem_map.mp hmark
    exact hplain kind hkind hc

theorem Target.elementName?_eq_some_iff {target : Target} {name : Text} :
    target.elementName? = some name ↔ target = .element name := by
  cases target <;> simp [elementName?]

/-- The numbers of a well-formed index, kind by kind. -/
theorem Index.WellFormed.kind_and_value {index : Index} (h : index.WellFormed) :
    index.kind ∈ [.exactly, .lessThan, .moreThan] ∧ -2 ^ 31 ≤ index.value ∧
        index.value ≤ 2 ^ 31 - 1 ∨
      index.kind ∈ [.even, .odd] ∧ index.value = -1 := by
  obtain ⟨kind, value⟩ := index
  have hleast : least = -2 ^ 31 := by decide
  have hgreatest : greatest = 2 ^ 31 - 1 := by decide
  cases kind with
  | exactly | lessThan | moreThan => exact Or.inl ⟨by simp, hleast ▸ h.1, hgreatest ▸ h.2⟩
  | even | odd => exact Or.inr ⟨by simp, h⟩

theorem Operator.requiresAttribute_iff {operator : Operator} :
    operator.requiresAttribute = true ↔ operator ≠ .notEquals ∧ operator ≠ .absent := by
  cases operator <;> decide

/-! ### Levels and chains -/

/-- A well-formed level has the invariant. -/
theorem Level.WellFormed.invariant {caseSensitive : Bool} {level : Level}
    (h : level.WellFormed caseSensitive) : level.Invariant caseSensitive where
  caseSensitive_eq := h.caseSensitive_eq
  elementName?_of_isText htext := by
    have htarget : level.target = .text := of_decide_eq_true htext
    rw [htarget]
    rfl
  elementName name hname := by
    have hisName := h.isName name (Target.elementName?_eq_some_iff.mp hname)
    exact ⟨hisName.ne_nil, hisName.ne_wildcard,
      Segment.notMem_of_isNameChar Shorthand.all hisName.isNameChar fun kind _ =>
        hisName.plain kind⟩
  reference name hname := by
    have hisReference := h.isReference name hname
    have hother : ∀ kind ∈ [Shorthand.identifier, .styleClass], kind ≠ .reference := by decide
    exact ⟨hisReference.ne_nil,
      Segment.notMem_of_isNameChar [.identifier, .styleClass] hisReference.isNameChar
        fun kind hkind => hisReference.plain kind (hother kind hkind)⟩
  index index hindex := (h.index index hindex).kind_and_value
  condition c hc := by
    have hcondition := h.conditions c hc
    exact ⟨hcondition.name_ne_nil, hcondition.name_plain, hcondition.name_end,
      hcondition.value_eq_none_iff⟩
  requiresAttributes_iff := by
    simp only [requiresAttributes, List.any_eq_true, Operator.requiresAttribute_iff]

namespace Chain

/-- **What holds of every compiled chain.** It has a level, and every level of it has the
invariant. -/
theorem invariant_of_compile {caseSensitive : Bool} {selector : Text} {chain : Chain}
    (h : compile caseSensitive selector = .ok chain) :
    chain ≠ [] ∧ ∀ level ∈ chain, level.Invariant caseSensitive := by
  obtain ⟨hne, hwf⟩ := wellFormed_of_parse (compile_eq_ok_iff.mp h)
  exact ⟨hne, fun level hlevel => (hwf level hlevel).invariant⟩

/-- A star inside a name, the mark of a reference inside one, a blank in front of an attribute name
and a number at the end of the range. -/
theorem invariant_of_compile_two_levels :
    let chain : Chain :=
      [{ axis := .anyDepth
         target := .element "a*".toList
         reference := some "R%".toList
         index := some ⟨.moreThan, -2147483648⟩
         conditions := [⟨" b".toList, .notEquals, some "C".toList⟩] },
        { target := .text, conditions := [⟨"class".toList, .equals, some "D".toList⟩] }]
    compile false " A*%R%[@ B != 'C' ][>-2147483648]/text().D ".toList = .ok chain ∧
      chain ≠ [] ∧ ∀ level ∈ chain, level.Invariant false := by
  intro chain
  have h : compile false " A*%R%[@ B != 'C' ][>-2147483648]/text().D ".toList = .ok chain := by
    decide +kernel
  exact ⟨h, invariant_of_compile h⟩

end Chain

end PathSelector
