import PathSelector.Proofs.Chain.Lowering

/-!
# The grammar of a condition

A condition is written in one of three forms: an attribute name for a test of presence, a name
behind an exclamation mark for a test of absence, and a name, an operator and a quoted value for a
comparison. The sign of an attribute may stand in front of the name, and blanks may stand between
the parts and around them. A text is read as a condition exactly when it has such a form, and what
is read are the parts of the form.

Main definitions:

* `Condition.Names`: how a name is written;
* `Operator.MayFollow`: the operators that can be told behind a text;
* `Condition.Spells`: the forms of a condition.

Main statements:

* `Condition.names_iff`: a name is what the reader takes for one;
* `Condition.spells_of_parse`: a text that is read has a form;
* `Condition.parse_of_spells`: a form is read;
* `Condition.parse_eq_ok_iff_spells`: both, with and without regard to case.
-/

namespace PathSelector

/-! ### The forms -/

/-- The token of the operator, put behind a text, is read as that operator: it is one that compares,
and a bare equals sign does not stand right behind the mark of another. -/
structure Operator.MayFollow (operator : Operator) (before : Text) : Prop where
  compares : operator ≠ .present ∧ operator ≠ .absent
  unmarked : operator = .equals → ∀ c, before.getLast? = some c → c ∉ "!^$*".toList

namespace Condition

/-- A text writes an attribute name, which has no equals sign and does not end with a blank: it is
the name behind the sign of an attribute or, when the name starts neither with a blank nor with that
sign, the name alone. -/
structure Names (written name : Text) : Prop where
  ne_nil : name ≠ []
  plain : '=' ∉ name
  last : ∀ c, name.getLast? = some c → Text.isBlank c = false
  sign : written = '@' :: name ∨
    written = name ∧ ∀ c, name.head? = some c → c ≠ '@' ∧ Text.isBlank c = false

/-- A text has one of the forms of a condition, with blanks around its parts. -/
inductive Spells : Condition → Text → Prop
  /-- A name, and no exclamation mark as the first character that is not blank. -/
  | present {front written name back : Text} (hfront : Text.Blank front)
      (hname : Names written name) (hmark : written.head? ≠ some '!') (hback : Text.Blank back) :
      Spells ⟨name, .present, none⟩ (front ++ written ++ back)
  /-- A name behind an exclamation mark. -/
  | absent {front gap written name back : Text} (hfront : Text.Blank front)
      (hgap : Text.Blank gap) (hname : Names written name) (hback : Text.Blank back) :
      Spells ⟨name, .absent, none⟩ (front ++ ('!' :: gap ++ written) ++ back)
  /-- A name, an operator and a value between two quotes of one kind. -/
  | compared {front written name gap space value back : Text} {operator : Operator} {quote : Char}
      (hfront : Text.Blank front) (hname : Names written name) (hgap : Text.Blank gap)
      (hoperator : operator.MayFollow (written ++ gap)) (hspace : Text.Blank space)
      (hquote : Text.isQuote quote = true) (hback : Text.Blank back) :
      Spells ⟨name, operator, some value⟩
        (front ++ (written ++ (gap ++ operator.token ++ space) ++ (quote :: value ++ [quote])) ++
          back)

end Condition

/-! ### Operators -/

/-- Only the last character of a text matters to the operators that may follow it. -/
theorem Operator.MayFollow.of_append {operator : Operator} {front text : Text}
    (h : operator.MayFollow (front ++ text)) (hne : text ≠ []) : operator.MayFollow text := by
  refine ⟨h.compares, fun hequals c hc => h.unmarked hequals c ?_⟩
  rwa [List.getLast?_append_of_ne_nil _ hne]

theorem Operator.token_eq_mark_append {operator : Operator}
    (h : operator ≠ .present ∧ operator ≠ .absent) : operator.token = operator.mark ++ ['='] := by
  cases operator with
  | present => exact absurd rfl h.1
  | absent => exact absurd rfl h.2
  | _ => rfl

namespace Fragment

/-- What stands in front of an equals sign ends with the mark of the operator that the sign writes
there. -/
theorem exists_mayFollow (text : Text) :
    ∃ (before : Text) (operator : Operator), operator.MayFollow before ∧
      text = before ++ operator.mark := by
  cases hmark : text.getLast?.filter isMark with
  | some c =>
    obtain ⟨hlast, hc⟩ := Option.filter_eq_some_iff.mp hmark
    obtain ⟨operator, hoperator, -⟩ := exists_of_isMark hc
    have hne : ∀ other : Operator, other.mark = [] → operator ≠ other := by
      rintro other hother rfl
      cases hoperator.symm.trans hother
    refine ⟨text.dropLast, operator, ⟨⟨hne _ rfl, hne _ rfl⟩, fun hequals => ?_⟩, ?_⟩
    · exact absurd hequals (hne _ rfl)
    · rw [hoperator, List.dropLast_append_getLast? c hlast]
  | none =>
    refine ⟨text, .equals, ⟨⟨nofun, nofun⟩, fun _ c hc hmem => ?_⟩, ?_⟩
    · exact Option.filter_eq_none_iff.mp hmark c hc (isMark_iff.mpr hmem)
    · rw [Operator.mark_equals, List.append_nil]

/-- The operator that may follow a text is told behind it. -/
theorem ofSides_of_mayFollow {operator : Operator} {before : Text} (h : operator.MayFollow before)
    (behind : Text) :
    ofSides (before ++ operator.mark) behind =
      ⟨Text.trim before, operator.token, some (Text.trim behind)⟩ := by
  by_cases hequals : operator = .equals
  · subst hequals
    have hlast : before.getLast?.filter isMark = none := by
      refine Option.filter_eq_none_iff.mpr fun c hc hmark => ?_
      exact h.unmarked rfl c hc (isMark_iff.mp hmark)
    rw [Operator.mark_equals, List.append_nil, ofSides_of_none hlast]
  · have hmark : operator.mark ≠ [] := by
      have hcompares := h.compares
      cases operator <;> simp_all [Operator.mark]
    exact ofSides_append_mark hmark before behind

theorem ofName_mark (text : Text) :
    ofName ('!' :: text) = ⟨Text.trim text, Operator.token .absent, none⟩ := rfl

theorem ofName_of_ne_mark {text : Text} (h : text.head? ≠ some '!') :
    ofName text = ⟨Text.trim text, Operator.token .present, none⟩ := by
  unfold ofName
  split
  · exact absurd rfl h
  · rfl

end Fragment

namespace Condition

/-! ### Names -/

theorem bareName_of_ne_sign {text : Text} (h : text.head? ≠ some '@') : bareName text = text := by
  unfold bareName
  split
  · exact absurd rfl h
  · rfl

/-- A name is written by a text without blanks at its ends, and is that text without the sign of an
attribute. -/
theorem names_iff {written name : Text} :
    Names written name ↔
      Text.Tight written ∧ '=' ∉ written ∧ bareName written = name ∧ name ≠ [] := by
  constructor
  · rintro ⟨hne, hplain, hlast, rfl | ⟨rfl, hhead⟩⟩
    · refine ⟨⟨fun c hc => ?_, fun c hc => ?_⟩, ?_, bareName_at name, hne⟩
      · obtain rfl : '@' = c := Option.some.inj hc
        decide
      · exact hlast c (getLast?_at hne ▸ hc)
      · exact List.not_mem_cons_of_ne_of_not_mem (by decide) hplain
    · refine ⟨⟨fun c hc => (hhead c hc).2, hlast⟩, hplain, bareName_of_ne_sign ?_, hne⟩
      exact fun hsign => (hhead '@' hsign).1 rfl
  · rintro ⟨htight, hplain, rfl, hne⟩
    refine ⟨hne, fun hmem => hplain (mem_of_mem_bareName hmem), fun c hc => ?_, ?_⟩
    · exact htight.2 c (getLast?_bareName hne ▸ hc)
    · by_cases hsign : written.head? = some '@'
      · obtain ⟨rest, rfl⟩ := List.head?_eq_some_iff.mp hsign
        exact .inl rfl
      · rw [bareName_of_ne_sign hsign]
        refine .inr ⟨rfl, fun c hc => ⟨?_, htight.1 c hc⟩⟩
        rintro rfl
        exact hsign hc

theorem Names.tight {written name : Text} (h : Names written name) : Text.Tight written :=
  (names_iff.mp h).1

theorem Names.equals_notMem {written name : Text} (h : Names written name) : '=' ∉ written :=
  (names_iff.mp h).2.1

theorem Names.bareName_eq {written name : Text} (h : Names written name) :
    bareName written = name :=
  (names_iff.mp h).2.2.1

theorem Names.written_ne_nil {written name : Text} (h : Names written name) : written ≠ [] := by
  rintro rfl
  exact h.ne_nil h.bareName_eq.symm

/-- The name that a fragment has is written in it. -/
theorem names_split {text : Text} (h : bareName (Fragment.split text).name ≠ []) :
    Names (Fragment.split text).name (bareName (Fragment.split text).name) := by
  obtain ⟨hplain, htight⟩ := Fragment.name_split text
  exact names_iff.mpr ⟨htight, hplain, rfl, h⟩

/-! ### Reading a form -/

/-- What it takes for a text to be read as a condition with regard to case. -/
theorem parse_true_eq_ok_iff {text : Text} {c : Condition} :
    parse true text = .ok c ↔
      Names (Fragment.split (Text.trim text)).name c.name ∧
      (Fragment.split (Text.trim text)).token = c.operator.token ∧
      ((Fragment.split (Text.trim text)).value = none ∧ c.value = none ∨
        ∃ quote value, Text.isQuote quote = true ∧
          (Fragment.split (Text.trim text)).value = some (quote :: value ++ [quote]) ∧
          c.value = some value) := by
  rw [parse_eq_ok_iff, Text.fold_true]
  constructor
  · rintro ⟨-, hne, hname, hoperator, hvalue⟩
    refine ⟨hname ▸ names_split hne, hoperator, hvalue.imp_right ?_⟩
    rintro ⟨written, value, hwritten, hunquote, hvalue⟩
    obtain ⟨quote, hquote, rfl⟩ := unquote?_eq_some_iff.mp hunquote
    exact ⟨quote, value, hquote, hwritten, hvalue⟩
  · rintro ⟨hname, hoperator, hvalue⟩
    have hatom : Text.trim text ≠ [] := by
      intro hnil
      rw [hnil] at hname
      exact hname.written_ne_nil rfl
    have hbare := hname.bareName_eq
    refine ⟨hatom, hbare ▸ hname.ne_nil, hbare.symm, hoperator, hvalue.imp_right ?_⟩
    rintro ⟨quote, value, hquote, hwritten, hvalue⟩
    exact ⟨_, value, hwritten, unquote?_quoted hquote value, hvalue⟩

theorem equals_notMem_of_blank {text : Text} (h : Text.Blank text) : '=' ∉ text :=
  fun hmem => absurd (h '=' hmem) (by decide)

/-- The parts of a name behind an exclamation mark. -/
theorem Names.split_absent {written name gap : Text} (h : Names written name)
    (hgap : Text.Blank gap) :
    Text.Tight ('!' :: gap ++ written) ∧
      Fragment.split ('!' :: gap ++ written) = ⟨written, Operator.token .absent, none⟩ := by
  have hsign : Text.Tight ['!'] := Text.tight_of_forall (by decide)
  have hplain : '=' ∉ '!' :: (gap ++ written) := by
    refine List.not_mem_cons_of_ne_of_not_mem (by decide) ?_
    exact List.not_mem_append (equals_notMem_of_blank hgap) h.equals_notMem
  have htrim := Text.trim_blank_append hgap h.tight Text.blank_nil
  rw [List.append_nil] at htrim
  refine ⟨hsign.append_append h.tight (by simp) h.written_ne_nil gap, ?_⟩
  rw [List.cons_append, Fragment.split_of_notMem hplain, Fragment.ofName_mark, htrim]

/-- The parts of a name with an operator and a quoted value behind it. -/
theorem Names.split_compared {written name gap space value : Text} {operator : Operator}
    {quote : Char} (h : Names written name) (hgap : Text.Blank gap)
    (hoperator : operator.MayFollow (written ++ gap)) (hspace : Text.Blank space)
    (hquote : Text.isQuote quote = true) :
    Text.Tight (written ++ (gap ++ operator.token ++ space) ++ (quote :: value ++ [quote])) ∧
      Fragment.split (written ++ (gap ++ operator.token ++ space) ++ (quote :: value ++ [quote])) =
        ⟨written, operator.token, some (quote :: value ++ [quote])⟩ := by
  have hvalue := tight_quoted hquote value
  have hplain : '=' ∉ written ++ gap ++ operator.mark := by
    have hmark : '=' ∉ operator.mark := by cases operator <;> decide
    refine List.not_mem_append (List.not_mem_append h.equals_notMem ?_) hmark
    exact equals_notMem_of_blank hgap
  have hsides : written ++ (gap ++ operator.token ++ space) ++ (quote :: value ++ [quote]) =
      (written ++ gap ++ operator.mark) ++ '=' :: (space ++ (quote :: value ++ [quote]) ++ []) := by
    simp only [Operator.token_eq_mark_append hoperator.compares, List.append_assoc,
      List.cons_append, List.nil_append, List.append_nil]
  have hname : Text.trim (written ++ gap) = written :=
    Text.trim_blank_append Text.blank_nil h.tight hgap
  refine ⟨h.tight.append_append hvalue h.written_ne_nil (by simp) _, ?_⟩
  rw [hsides, Fragment.split_append_mark hplain, Fragment.ofSides_of_mayFollow hoperator, hname,
    Text.trim_blank_append hspace hvalue Text.blank_nil]

/-- A form is read as its condition. -/
theorem parse_of_spells {c : Condition} {text : Text} (h : Spells c text) :
    parse true text = .ok c := by
  rw [parse_true_eq_ok_iff]
  cases h with
  | present hfront hname hmark hback =>
    rw [Text.trim_blank_append hfront hname.tight hback,
      Fragment.split_of_notMem hname.equals_notMem, Fragment.ofName_of_ne_mark hmark,
      hname.tight.trim_eq]
    exact ⟨hname, rfl, .inl ⟨rfl, rfl⟩⟩
  | absent hfront hgap hname hback =>
    obtain ⟨htight, hsplit⟩ := hname.split_absent hgap
    rw [Text.trim_blank_append hfront htight hback, hsplit]
    exact ⟨hname, rfl, .inl ⟨rfl, rfl⟩⟩
  | compared hfront hname hgap hoperator hspace hquote hback =>
    obtain ⟨htight, hsplit⟩ := hname.split_compared hgap hoperator hspace hquote
    rw [Text.trim_blank_append hfront htight hback, hsplit]
    exact ⟨hname, rfl, .inr ⟨_, _, hquote, rfl, rfl⟩⟩

/-! ### The form of a text that is read -/

/-- A tight text that is read as a name, with blanks around it, has the form of a test of presence
or absence. -/
theorem spells_of_ofName {front atom back name : Text} {operator : Operator}
    (hfront : Text.Blank front) (hback : Text.Blank back) (htight : Text.Tight atom)
    (hname : Names (Fragment.ofName atom).name name)
    (hoperator : (Fragment.ofName atom).token = operator.token) :
    Spells ⟨name, operator, none⟩ (front ++ atom ++ back) := by
  by_cases hmark : atom.head? = some '!'
  · obtain ⟨rest, rfl⟩ := List.head?_eq_some_iff.mp hmark
    rw [Fragment.ofName_mark] at hname hoperator
    obtain rfl : .absent = operator := Operator.token_inj.mp hoperator
    obtain ⟨gap, behind, hgap, hbehind, hrest⟩ := Text.exists_blank_append_trim rest
    have htext : front ++ '!' :: rest ++ back =
        front ++ ('!' :: gap ++ Text.trim rest) ++ (behind ++ back) := by
      generalize Text.trim rest = written at hrest
      simp only [hrest, List.append_assoc, List.cons_append]
    rw [htext]
    exact .absent hfront hgap hname (List.forall_mem_append.mpr ⟨hbehind, hback⟩)
  · rw [Fragment.ofName_of_ne_mark hmark, htight.trim_eq] at hname
    rw [Fragment.ofName_of_ne_mark hmark] at hoperator
    obtain rfl : .present = operator := Operator.token_inj.mp hoperator
    exact .present hfront hname hmark hback

/-- A text whose first equals sign has a name in front and a quoted value behind has the form of a
comparison. -/
theorem spells_of_ofSides {front before behind back name value : Text} {found : Operator}
    {quote : Char} (hfront : Text.Blank front) (hback : Text.Blank back)
    (hname : Names (Fragment.ofSides before behind).name name)
    (hfound : (Fragment.ofSides before behind).token = found.token)
    (hquote : Text.isQuote quote = true) (hvalue : Text.trim behind = quote :: value ++ [quote]) :
    Spells ⟨name, found, some value⟩ (front ++ (before ++ '=' :: behind) ++ back) := by
  obtain ⟨named, operator, hoperator, rfl⟩ := Fragment.exists_mayFollow before
  rw [Fragment.ofSides_of_mayFollow hoperator] at hname hfound
  obtain rfl := Operator.token_inj.mp hfound
  obtain ⟨start, gap, hstart, hgap, hnamed⟩ := Text.exists_blank_append_trim named
  obtain ⟨space, rest, hspace, hrest, hbehind⟩ := Text.exists_blank_append_trim behind
  rw [hvalue] at hbehind
  -- blanks in front of the name do not decide the operator, those behind it may
  rw [hnamed, List.append_assoc start] at hoperator
  have hfollow := hoperator.of_append (List.append_ne_nil_of_left_ne_nil hname.written_ne_nil gap)
  have htext : front ++ (named ++ operator.mark ++ '=' :: behind) ++ back =
      (front ++ start) ++ (Text.trim named ++ (gap ++ operator.token ++ space) ++
        (quote :: value ++ [quote])) ++ (rest ++ back) := by
    generalize Text.trim named = written at hnamed
    simp only [hnamed, hbehind, Operator.token_eq_mark_append hoperator.compares,
      List.append_assoc, List.cons_append, List.nil_append]
  rw [htext]
  refine .compared ?_ hname hgap hfollow hspace hquote ?_
  · exact List.forall_mem_append.mpr ⟨hfront, hstart⟩
  · exact List.forall_mem_append.mpr ⟨hrest, hback⟩

/-- A text that is read has a form of the condition. -/
theorem spells_of_parse {c : Condition} {text : Text} (h : parse true text = .ok c) :
    Spells c text := by
  obtain ⟨name, operator, value⟩ := c
  obtain ⟨hname, hoperator, hvalue⟩ := parse_true_eq_ok_iff.mp h
  obtain ⟨front, back, hfront, hback, htext⟩ := Text.exists_blank_append_trim text
  rw [htext]
  simp only [Fragment.value_split] at hvalue
  rcases hvalue with ⟨hnone, rfl⟩ | ⟨quote, found, hquote, hsome, rfl⟩
  · have hplain := Text.after?_eq_none_iff.mp (Option.map_eq_none_iff.mp hnone)
    rw [Fragment.split_of_notMem hplain] at hname hoperator
    exact spells_of_ofName hfront hback (Text.tight_trim text) hname hoperator
  · obtain ⟨behind, hafter, hwritten⟩ := Option.map_eq_some_iff.mp hsome
    have hatom := Text.upTo_append_after hafter
    rw [← hatom, Fragment.split_append_mark (Text.mark_notMem_upTo '=' _)] at hname hoperator
    rw [← hatom]
    exact spells_of_ofSides hfront hback hname hoperator hquote hwritten

/-- **A text is read as a condition exactly when it has a form of it.** With regard to case the
condition is the one that is written, and without regard to case it is that one with its name in
lowercase. -/
theorem parse_eq_ok_iff_spells (text : Text) (c : Condition) :
    (parse true text = .ok c ↔ Spells c text) ∧
      (parse false text = .ok c ↔ ∃ written, Spells written text ∧ c = written.lowered) := by
  have hspells : ∀ written, parse true text = .ok written ↔ Spells written text :=
    fun written => ⟨spells_of_parse, parse_of_spells⟩
  refine ⟨hspells c, ?_⟩
  simp only [← hspells, parse_false]
  cases parse true text <;> simp [Except.map, eq_comm]

-- a blank keeps a mark at the end of a name apart from the first equals sign, the only one that
-- counts
example : parse true " @@id! =\"a'!=b\"".toList = .ok ⟨"@id!".toList, .equals, "a'!=b".toList⟩ := by
  decide +kernel

end Condition

end PathSelector
