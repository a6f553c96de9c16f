import PathSelector.Proofs.Chain.RoundTrip

/-!
# Chains that can be written

A chain is writable when its names avoid the characters that mean something where they stand, its
numbers are in range and no value holds both kinds of quotes. A writable chain need not come from a
selector. It is compiled back from its canonical writing: its levels are well formed, and no name
or quoted value hides a bracket or a joining word from the reader.

Main definitions:

* `Condition.Writable`, `Target.WritableName`, `Level.Writable`: the parts that can be written;
* `Chain.Writable`: the chains that can be written.

Main statements:

* `Condition.Writable.legible`, `Level.Writable.legible`: what can be written is legible;
* `Chain.compile_render_of_writable`: compiling undoes writing on every writable chain.
-/

namespace PathSelector

/-- A condition that can be written. Its name may hold neither an equals sign nor a closing bracket
nor a quote, nor the joining word; its value may hold anything but both kinds of quotes. -/
structure Condition.Writable (caseSensitive : Bool) (c : Condition) : Prop where
  name_ne_nil : c.name ≠ []
  name_chars : ∀ d ∈ c.name, d ≠ '=' ∧ d ≠ ']' ∧ Text.isQuote d = false
  name_end : ∀ d, c.name.getLast? = some d → Text.isBlank d = false
  not_joint : ¬ joint <:+: c.name
  not_joiner : ¬ joiner <:+ c.name
  name_lower : caseSensitive = false → Text.lower c.name = c.name
  name_mark : c.operator = .equals → ∀ d, c.name.getLast? = some d → d ∉ "!^$*".toList
  value_eq_none_iff : c.value = none ↔ c.operator = .present ∨ c.operator = .absent
  value_quotes : ∀ value, c.value = some value →
    ¬ (Text.singleQuote ∈ value ∧ Text.doubleQuote ∈ value)

/-- A name of elements that can be written. -/
structure Target.WritableName (caseSensitive : Bool) (name : Text) : Prop where
  ne_nil : name ≠ []
  chars : ∀ c ∈ name, Text.isBlank c = false ∧ c ∉ "/[]#.%".toList
  ne_wildcard : name ≠ wildcard
  ne_textWord : name ≠ textWord
  lower : caseSensitive = false → Text.lower name = name

/-- A level that can be written. -/
structure Level.Writable (caseSensitive : Bool) (level : Level) : Prop where
  caseSensitive_eq : level.caseSensitive = caseSensitive
  element : ∀ name, level.target = .element name → Target.WritableName caseSensitive name
  reference : ∀ name, level.reference = some name →
    name ≠ [] ∧ ∀ c ∈ name, Text.isBlank c = false ∧ c ∉ "/[]#.".toList
  index : ∀ index, level.index = some index → index.WellFormed
  conditions : ∀ c ∈ level.conditions, c.Writable caseSensitive

/-- A chain that can be written. -/
structure Chain.Writable (caseSensitive : Bool) (chain : Chain) : Prop where
  ne_nil : chain ≠ []
  levels : ∀ level ∈ chain, level.Writable caseSensitive

theorem Text.fold_eq_self {caseSensitive : Bool} {text : Text}
    (h : caseSensitive = false → Text.lower text = text) : Text.fold caseSensitive text = text := by
  cases caseSensitive with
  | false => exact h rfl
  | true => rfl

/-! ### Conditions -/

namespace Condition

theorem Writable.wellFormed {caseSensitive : Bool} {c : Condition} (h : c.Writable caseSensitive) :
    c.WellFormed caseSensitive :=
  ⟨h.name_ne_nil, fun hmem => (h.name_chars _ hmem).1 rfl, h.name_end,
    Text.fold_eq_self h.name_lower, h.value_eq_none_iff⟩

theorem Writable.not_marked {caseSensitive : Bool} {c : Condition} (h : c.Writable caseSensitive) :
    ¬ c.Marked := by
  rintro ⟨hoperator, hsome⟩
  obtain ⟨d, hmark⟩ := Option.isSome_iff_exists.mp hsome
  obtain ⟨hlast, hd⟩ := Option.filter_eq_some_iff.mp hmark
  exact h.name_mark hoperator d hlast (Fragment.isMark_iff.mp hd)

/-- A value without both kinds of quotes is enclosed in one that it does not hold. -/
theorem exists_enclose_eq_notMem {value : Text}
    (h : ¬ (Text.singleQuote ∈ value ∧ Text.doubleQuote ∈ value)) :
    ∃ quote, Text.isQuote quote = true ∧ quote ∉ value ∧
      enclose value = quote :: value ++ [quote] := by
  unfold enclose
  simp only
  split
  · next hsingle => exact ⟨Text.doubleQuote, by decide, fun hdouble => h ⟨hsingle, hdouble⟩, rfl⟩
  · next hsingle => exact ⟨Text.singleQuote, by decide, hsingle, rfl⟩

/-- The writing of a value: the quotes around it do not occur in it. -/
theorem Writable.exists_render_eq {caseSensitive : Bool} {c : Condition} {value : Text}
    (h : c.Writable caseSensitive) (hvalue : c.value = some value) :
    ∃ quote, Text.isQuote quote = true ∧ quote ∉ value ∧
      c.render = ('@' :: c.name ++ c.operator.mark) ++ '=' :: (quote :: value ++ [quote]) := by
  obtain ⟨quote, hquote, hmem, henclose⟩ := exists_enclose_eq_notMem (h.value_quotes value hvalue)
  refine ⟨quote, hquote, hmem, ?_⟩
  rw [h.wellFormed.render_of_value hvalue, henclose]

/-- What stands in front of the equals sign holds no quotes. -/
theorem Writable.isQuote_of_mem {caseSensitive : Bool} {c : Condition}
    (h : c.Writable caseSensitive) :
    ∀ d ∈ '@' :: c.name ++ c.operator.mark, Text.isQuote d = false := by
  intro d hd
  rcases List.mem_append.mp hd with hname | hmark
  · rcases List.mem_cons.mp hname with rfl | hname
    · decide
    · exact (h.name_chars d hname).2.2
  · have hmarks : ∀ operator : Operator, ∀ e ∈ operator.mark, Text.isQuote e = false := by
      intro operator
      cases operator <;> decide
    exact hmarks _ d hmark

/-- A writable condition pairs up its quotes. -/
theorem Writable.openQuote_render {caseSensitive : Bool} {c : Condition}
    (h : c.Writable caseSensitive) : openQuote none c.render = none := by
  cases hvalue : c.value with
  | none =>
    refine openQuote_none_of_plain fun d hd => ?_
    have hname : d = '!' ∨ d ∈ '@' :: c.name := by
      rw [render_of_none hvalue] at hd
      split at hd
      · exact List.mem_cons.mp hd
      · exact Or.inr hd
    rcases hname with rfl | hname
    · decide
    · exact h.isQuote_of_mem d (List.mem_append_left _ hname)
  | some value =>
    obtain ⟨quote, hquote, hmem, hrender⟩ := h.exists_render_eq hvalue
    have hequals : openQuoteAfter none '=' = none := rfl
    rw [hrender, openQuote_append, openQuote_none_of_plain h.isQuote_of_mem, openQuote_cons,
      hequals, openQuote_quoted hquote hmem]

/-- A word that neither the name of a writable condition nor a sign around it holds is not bare in
front of the equals sign. -/
theorem not_bareFrom_front {name word : Text} (hne : word ≠ [])
    (hsigns : ∀ d ∈ word, d ∉ "@=!^$*".toList) (hword : ¬ word <:+: name) (operator : Operator) :
    ¬ BareFrom none word ('@' :: name ++ operator.mark) := by
  have hfront : ¬ BareFrom none word ('@' :: name) := by
    intro hbare
    have hsign : '@' ∉ word := fun hmem => hsigns '@' hmem (by decide)
    obtain ⟨front, back, heq, -⟩ := bareFrom_of_cons hsign hne hbare
    exact hword ⟨front, back, heq.symm⟩
  rcases operator.mark_eq_nil_or with hmark | ⟨mark, hmark, heq⟩
  · rw [hmark, List.append_nil]
    exact hfront
  · have hmem : mark ∉ word := by
      have hall : ∀ d ∈ "!^$*".toList, d ∈ "@=!^$*".toList := by decide
      exact fun hmem => hsigns mark hmem (hall mark hmark)
    rw [heq]
    intro hbare
    rcases bareFrom_append_mark hmem hne hbare with hbare | hbare
    · exact hfront hbare
    · exact not_bareFrom_nil hne hbare

/-- A word that is not in the name of a writable condition, and holds neither quotes nor the signs
around the name, is not bare in its writing. -/
theorem Writable.not_bare_render {caseSensitive : Bool} {c : Condition} {word : Text}
    (h : c.Writable caseSensitive) (hne : word ≠ [])
    (hquotes : ∀ d ∈ word, Text.isQuote d = false)
    (hsigns : ∀ d ∈ word, d ∉ "@=!^$*".toList) (hword : ¬ word <:+: c.name) :
    ¬ Bare word c.render := by
  cases hvalue : c.value with
  | none =>
    have hfront : ¬ BareFrom none word ('@' :: c.name) := by
      have hequals := not_bareFrom_front hne hsigns hword .equals
      rwa [Operator.mark_equals, List.append_nil] at hequals
    rw [render_of_none hvalue]
    split
    · intro hbare
      have hmem : '!' ∉ word := fun hmem => hsigns '!' hmem (by decide)
      exact hfront (bareFrom_of_cons hmem hne hbare)
    · exact hfront
  | some value =>
    obtain ⟨quote, hquote, hmem, hrender⟩ := h.exists_render_eq hvalue
    have hequals : '=' ∉ word := fun hmem => hsigns '=' hmem (by decide)
    have hsame : quote ∉ word := by
      intro hmem
      rw [hquotes quote hmem] at hquote
      cases hquote
    rw [hrender]
    intro hbare
    rcases bareFrom_append_mark hequals hne hbare with hbare | hbare
    · exact not_bareFrom_front hne hsigns hword c.operator hbare
    · rw [openQuote_append, openQuote_none_of_plain h.isQuote_of_mem] at hbare
      exact not_bareFrom_quoted hquote hmem hne hsame hbare

/-- **A writable condition is legible.** -/
theorem Writable.legible {caseSensitive : Bool} {c : Condition} (h : c.Writable caseSensitive) :
    c.Legible := by
  refine ⟨h.not_marked, h.openQuote_render, ?_, ?_⟩
  · refine h.not_bare_render (by decide) (by decide) (by decide) fun hword => ?_
    exact (h.name_chars ']' (hword.subset (by decide))).2.1 rfl
  · exact h.not_bare_render (by decide) isQuote_joint (by decide) h.not_joint

/-- Behind a sign, a text ends with the joining word only if it does so without the sign. -/
theorem joiner_suffix_of_cons {sign : Char} {text : Text} (hsign : sign ≠ ' ')
    (h : joiner <:+ sign :: text) : joiner <:+ text := by
  rcases List.suffix_cons_iff.mp h with heq | hsuffix
  · exact absurd (List.cons.inj heq).1.symm hsign
  · exact hsuffix

/-- A writable condition does not end with the joining word. -/
theorem Writable.not_joiner_render {caseSensitive : Bool} {c : Condition}
    (h : c.Writable caseSensitive) : ¬ joiner <:+ c.render := by
  intro hsuffix
  cases hvalue : c.value with
  | none =>
    rw [render_of_none hvalue] at hsuffix
    split at hsuffix
    · exact h.not_joiner (joiner_suffix_of_cons (by decide)
        (joiner_suffix_of_cons (by decide) hsuffix))
    · exact h.not_joiner (joiner_suffix_of_cons (by decide) hsuffix)
  | some value =>
    -- the last character is a quote
    obtain ⟨quote, hquote, -, hrender⟩ := h.exists_render_eq hvalue
    obtain ⟨front, hfront⟩ := hsuffix
    have hlast := congrArg List.getLast? hfront
    have hword : (front ++ joiner).getLast? = some 'd' := by
      rw [List.getLast?_append_of_ne_nil _ (by decide)]
      decide
    have hwritten : c.render.getLast? = some quote := by
      rw [hrender, ← List.cons_append, ← List.append_assoc, List.getLast?_concat]
    rw [hword, hwritten] at hlast
    obtain rfl := Option.some.inj hlast
    exact absurd hquote (by decide)

end Condition

/-! ### Levels and chains -/

namespace Level

/-- What a name may hold is what neither a slash nor a bracket nor a blank is. -/
theorem isNameChar_of_writable {signs : Text} (hsigns : ∀ c ∈ "/[]".toList, c ∈ signs) {c : Char}
    (h : Text.isBlank c = false ∧ c ∉ signs) : Segment.isNameChar c = true := by
  have hne : ∀ d ∈ "/[]".toList, c ≠ d := by
    rintro d hd rfl
    exact h.2 (hsigns c hd)
  exact Segment.isNameChar_iff.mpr
    ⟨hne '/' (by decide), hne '[' (by decide), hne ']' (by decide), h.1⟩

/-- A writable level is well formed. -/
theorem Writable.wellFormed {caseSensitive : Bool} {level : Level}
    (h : level.Writable caseSensitive) : level.WellFormed caseSensitive := by
  refine ⟨h.caseSensitive_eq, fun name hname => ?_, fun name hname => ?_, h.index,
    fun c hc => (h.conditions c hc).wellFormed⟩
  · have hwritable := h.element name hname
    refine ⟨hwritable.ne_nil, hwritable.ne_wildcard, fun c hc => ?_, fun kind hkind => ?_,
      Text.fold_eq_self hwritable.lower⟩
    · exact isNameChar_of_writable (by decide) (hwritable.chars c hc)
    · exact (hwritable.chars _ hkind).2 (by cases kind <;> decide)
  · obtain ⟨hne, hchars⟩ := h.reference name hname
    refine ⟨hne, fun c hc => ?_, fun kind hother hkind => (hchars _ hkind).2 ?_⟩
    · exact isNameChar_of_writable (by decide) (hchars c hc)
    · cases kind with
      | identifier => decide
      | styleClass => decide
      | reference => exact absurd rfl hother

/-- A writable level is legible. -/
theorem Writable.legible {caseSensitive : Bool} {level : Level}
    (h : level.Writable caseSensitive) : level.Legible := by
  refine ⟨fun htarget => (h.element _ htarget).ne_textWord rfl, fun c hc => ?_, fun c hc => ?_⟩
  · exact (h.conditions c hc).legible
  · exact (h.conditions c (List.dropLast_subset _ hc)).not_joiner_render

end Level

namespace Chain

/-- **Compiling undoes writing.** Every writable chain is compiled back from its canonical
writing. -/
theorem compile_render_of_writable {caseSensitive : Bool} {chain : Chain}
    (h : chain.Writable caseSensitive) : compile caseSensitive (render chain) = .ok chain := by
  have hwf : ∀ level ∈ chain, level.WellFormed caseSensitive :=
    fun level hlevel => (h.levels level hlevel).wellFormed
  rw [compile_eq_ok_iff, parse_render_eq_ok_iff h.ne_nil hwf]
  exact fun level hlevel => (h.levels level hlevel).legible

/-- A value may hold a quote, a bracket, a slash, an equals sign and the joining word, a name a
space, a reference the mark of a reference, and an index the smallest number. -/
theorem compile_render_of_writable_level :
    let level : Level :=
      { axis := .anyDepth
        target := .element "div".toList
        reference := some "a%b".toList
        index := some ⟨.lessThan, -2147483648⟩
        conditions :=
          [⟨"data x".toList, .startsWith, some "it's ]/= and ".toList⟩,
            ⟨"id".toList, .absent, none⟩] }
    let text := "//div%a%b[@data x^=\"it's ]/= and \" and !@id][<-2147483648]/text()".toList
    Writable false [level, { target := .text }] ∧
      compile false text = .ok [level, { target := .text }] := by
  intro level text
  have hname : Target.WritableName false "div".toList :=
    ⟨by decide, by decide, by decide, by decide, fun _ => by decide⟩
  have hdata : Condition.Writable false
      ⟨"data x".toList, .startsWith, some "it's ]/= and ".toList⟩ := by
    refine ⟨by decide, by decide, ?_, by decide +kernel, by decide +kernel, fun _ => by decide,
      nofun, by simp, ?_⟩
    · rintro d ⟨⟩
      decide
    · rintro value ⟨⟩
      decide
  have hid : Condition.Writable false ⟨"id".toList, .absent, none⟩ := by
    refine ⟨by decide, by decide, ?_, by decide +kernel, by decide +kernel, fun _ => by decide,
      nofun, by simp, nofun⟩
    rintro d ⟨⟩
    decide
  have hlevel : level.Writable false := by
    refine ⟨rfl, ?_, ?_, ?_, ?_⟩
    · rintro name ⟨⟩
      exact hname
    · rintro name ⟨⟩
      decide
    · rintro index ⟨⟩
      exact ⟨by decide, by decide⟩
    · intro c hc
      rcases List.mem_pair.mp hc with rfl | rfl
      · exact hdata
      · exact hid
  have htext : Level.Writable false { target := .text } := ⟨rfl, nofun, nofun, nofun, nofun⟩
  have hwritable : Writable false [level, { target := .text }] := by
    refine ⟨by simp, fun other hother => ?_⟩
    rcases List.mem_pair.mp hother with rfl | rfl
    · exact hlevel
    · exact htext
  have hrender : render [level, { target := .text }] = text := by decide +kernel
  exact ⟨hwritable, hrender ▸ compile_render_of_writable hwritable⟩

end Chain

end PathSelector
