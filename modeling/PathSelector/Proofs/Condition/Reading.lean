import PathSelector.Condition.Parser
import PathSelector.Proofs.Text.Lower
import PathSelector.Proofs.Text.Trim

/-!
# Reading back a condition

What a condition read from a text looks like, and when the writing of such a condition is read as
the condition itself. The only obstacle is an equality whose name ends with a character that makes
another operator of the equals sign behind it.

Main definitions:

* `Condition.WellFormed`: what holds of every condition read from a text;
* `Condition.Marked`: the name of an equality ends with the mark of another operator.

Main statements:

* `Fragment.exists_token_split_eq`: the token of a fragment writes an operator;
* `wellFormed_of_parse`: a condition that is read is well formed;
* `parse_render_iff`: a well-formed condition is read back from its writing unless it is marked;
* `exists_eq_render_append`: a text that is read as a condition and starts like its writing is its
  writing with blanks behind.
-/

namespace PathSelector

/-- The character that an operator puts in front of the equals sign, if any. -/
def Operator.mark : Operator → Text
  | .notEquals => ['!']
  | .startsWith => ['^']
  | .endsWith => ['$']
  | .contains => ['*']
  | _ => []

@[simp]
theorem Operator.mark_equals : mark .equals = [] := rfl

theorem Operator.mark_eq_nil_or (operator : Operator) :
    operator.mark = [] ∨ ∃ d ∈ "!^$*".toList, operator.mark = [d] := by
  cases operator with
  | equals | present | absent => exact Or.inl rfl
  | notEquals => exact Or.inr ⟨'!', by decide, rfl⟩
  | startsWith => exact Or.inr ⟨'^', by decide, rfl⟩
  | endsWith => exact Or.inr ⟨'$', by decide, rfl⟩
  | contains => exact Or.inr ⟨'*', by decide, rfl⟩

namespace Fragment

/-! ### Parts of a condition -/

theorem split_of_notMem {text : Text} (h : '=' ∉ text) : split text = ofName text := by
  rw [split, Text.after?_eq_none_iff.mpr h]

theorem split_append_mark {before : Text} (h : '=' ∉ before) (behind : Text) :
    split (before ++ '=' :: behind) = ofSides before behind := by
  rw [split, Text.after?_append_mark h, Text.upTo_append_mark h]

@[simp]
theorem value_ofSides (before behind : Text) :
    (ofSides before behind).value = some (Text.trim behind) := by
  unfold ofSides
  split <;> rfl

@[simp]
theorem value_ofName (text : Text) : (ofName text).value = none := by
  unfold ofName
  split <;> rfl

/-- The value of a fragment is what stands behind its first equals sign. -/
theorem value_split (text : Text) :
    (split text).value = (Text.after? '=' text).map Text.trim := by
  unfold split
  cases Text.after? '=' text <;> simp

theorem isMark_iff {c : Char} : isMark c = true ↔ c ∈ "!^$*".toList := decide_eq_true_iff

/-- Every character that belongs to a token in front of the equals sign is the mark of an
operator. -/
theorem exists_of_isMark {c : Char} (h : isMark c = true) :
    ∃ operator : Operator, operator.mark = [c] ∧ operator.token = [c, '='] := by
  have hmarks : ∀ d ∈ "!^$*".toList, ∃ operator ∈ Operator.all,
      operator.mark = [d] ∧ operator.token = [d, '='] := by decide
  obtain ⟨operator, -, hoperator⟩ := hmarks c (isMark_iff.mp h)
  exact ⟨operator, hoperator⟩

/-- The character that an operator puts in front of the equals sign is told from the name. -/
theorem ofSides_append_mark {operator : Operator} (h : operator.mark ≠ []) (before behind : Text) :
    ofSides (before ++ operator.mark) behind =
      ⟨Text.trim before, operator.token, some (Text.trim behind)⟩ := by
  have hsides : ∀ c, isMark c = true → ofSides (before ++ [c]) behind =
      ⟨Text.trim before, [c, '='], some (Text.trim behind)⟩ := by
    intro c hc
    simp [ofSides, Option.filter_some, hc]
  cases operator with
  | equals | present | absent => exact absurd rfl h
  | notEquals | startsWith | endsWith | contains => exact hsides _ (by decide)

theorem ofSides_of_none {before : Text} (h : before.getLast?.filter isMark = none)
    (behind : Text) :
    ofSides before behind =
      ⟨Text.trim before, Operator.token .equals, some (Text.trim behind)⟩ := by
  rw [ofSides, h]
  rfl

theorem token_ofSides_eq_equals_iff {before behind : Text} :
    (ofSides before behind).token = Operator.token .equals ↔
      before.getLast?.filter isMark = none := by
  unfold ofSides
  split <;> next hmark => simp [hmark, Operator.token]

/-- A fragment has the token of presence or absence exactly when it has no value. -/
theorem value_split_eq_none_iff (text : Text) :
    (split text).value = none ↔
      (split text).token = Operator.token .present ∨
        (split text).token = Operator.token .absent := by
  unfold split
  split
  · unfold ofSides
    split <;> simp [Operator.token]
  · unfold ofName
    split <;> simp [Operator.token]

/-- The token of a fragment writes an operator. -/
theorem exists_token_split_eq (text : Text) :
    ∃ operator : Operator, (split text).token = operator.token := by
  unfold split
  split
  · unfold ofSides
    split
    · next hmark =>
      obtain ⟨operator, -, htoken⟩ := exists_of_isMark (Option.filter_eq_some_iff.mp hmark).2
      exact ⟨operator, htoken.symm⟩
    · exact ⟨.equals, rfl⟩
  · unfold ofName
    split
    · exact ⟨.absent, rfl⟩
    · exact ⟨.present, rfl⟩

/-- The name of a fragment has no equals sign and no blank at its ends. -/
theorem name_split (text : Text) : '=' ∉ (split text).name ∧ Text.Tight (split text).name := by
  have htrim : ∀ part : Text, '=' ∉ part → '=' ∉ Text.trim part ∧ Text.Tight (Text.trim part) := by
    intro part hpart
    obtain ⟨front, back, -, -, heq⟩ := Text.exists_blank_append_trim part
    refine ⟨fun hmem => hpart ?_, Text.tight_trim part⟩
    rw [heq]
    exact List.mem_append_left _ (List.mem_append_right _ hmem)
  unfold split
  split
  · have hbefore := Text.mark_notMem_upTo '=' text
    unfold ofSides
    split
    · exact htrim _ fun hmem => hbefore (List.dropLast_subset _ hmem)
    · exact htrim _ hbefore
  · next hnone =>
    have hmem := Text.after?_eq_none_iff.mp hnone
    unfold ofName
    split
    · exact htrim _ fun h => hmem (List.mem_cons_of_mem _ h)
    · exact htrim _ hmem

end Fragment

namespace Condition

theorem bareName_at (name : Text) : bareName ('@' :: name) = name := rfl

theorem getLast?_at {name : Text} (h : name ≠ []) : ('@' :: name).getLast? = name.getLast? := by
  rw [List.getLast?_cons, List.getLast?_eq_some_getLast h]
  rfl

/-- A name that is not empty once its sign is dropped keeps its last character. -/
theorem getLast?_bareName {name : Text} (h : bareName name ≠ []) :
    (bareName name).getLast? = name.getLast? := by
  unfold bareName at h ⊢
  split at h
  · exact (getLast?_at h).symm
  · rfl

theorem mem_of_mem_bareName {name : Text} {c : Char} (h : c ∈ bareName name) : c ∈ name := by
  unfold bareName at h
  split at h
  · exact List.mem_cons_of_mem _ h
  · exact h

/-- What it takes for a text to be read as a condition. -/
theorem parse_eq_ok_iff {caseSensitive : Bool} {text : Text} {c : Condition} :
    parse caseSensitive text = .ok c ↔
      Text.trim text ≠ [] ∧ bareName (Fragment.split (Text.trim text)).name ≠ [] ∧
      c.name = Text.fold caseSensitive (bareName (Fragment.split (Text.trim text)).name) ∧
      (Fragment.split (Text.trim text)).token = c.operator.token ∧
      ((Fragment.split (Text.trim text)).value = none ∧ c.value = none ∨
        ∃ written value, (Fragment.split (Text.trim text)).value = some written ∧
          unquote? written = some value ∧ c.value = some value) := by
  obtain ⟨name, operator, value⟩ := c
  unfold parse
  simp only
  split
  · next hnil => simp [hnil]
  · next hne =>
    split
    · next hname => simp [hname]
    · next hname =>
      obtain ⟨found, hfound⟩ := Fragment.exists_token_split_eq (Text.trim text)
      rw [hfound, Operator.ofToken_token]
      simp only [Operator.token_inj]
      split
      · next hvalue => simp [hne, hname, hvalue, eq_comm]
      · next written hvalue =>
        split
        · next hquote => simp [hvalue, hquote]
        · next found hquote => simp [hne, hname, hvalue, hquote, eq_comm]

/-! ### Well-formed conditions -/

/-- What holds of every condition that is read from a text. -/
structure WellFormed (caseSensitive : Bool) (c : Condition) : Prop where
  name_ne_nil : c.name ≠ []
  name_plain : '=' ∉ c.name
  name_end : ∀ d, c.name.getLast? = some d → Text.isBlank d = false
  name_folded : Text.fold caseSensitive c.name = c.name
  value_eq_none_iff : c.value = none ↔ c.operator = .present ∨ c.operator = .absent

/-- The name of an equality ends with the mark of another operator. -/
def Marked (c : Condition) : Prop :=
  c.operator = .equals ∧ (c.name.getLast?.filter Fragment.isMark).isSome

/-- A condition that is read from a text is well formed. -/
theorem wellFormed_of_parse {caseSensitive : Bool} {text : Text} {c : Condition}
    (h : parse caseSensitive text = .ok c) : c.WellFormed caseSensitive := by
  obtain ⟨-, hne, hname, hoperator, hvalue⟩ := parse_eq_ok_iff.mp h
  obtain ⟨hplain, htight⟩ := Fragment.name_split (Text.trim text)
  refine ⟨?_, ?_, ?_, ?_, ?_⟩
  · rw [hname]
    exact mt Text.fold_eq_nil_iff.mp hne
  · rw [hname]
    intro hmem
    rcases Text.mem_fold hmem with hmem | hletter
    · exact hplain (mem_of_mem_bareName hmem)
    · exact absurd hletter.1 (by decide)
  · rw [hname]
    refine fun d => Text.isBlank_getLast?_fold fun e he => htight.2 e ?_
    rwa [getLast?_bareName hne] at he
  · rw [hname, Text.fold_fold]
  · have htoken : ∀ operator, c.operator = operator ↔
        (Fragment.split (Text.trim text)).token = operator.token := by
      intro operator
      rw [hoperator, Operator.token_inj]
    rw [htoken, htoken, ← Fragment.value_split_eq_none_iff]
    rcases hvalue with ⟨hnone, hc⟩ | ⟨written, value, hsome, -, hc⟩
    · simp [hnone, hc]
    · simp [hsome, hc]

/-! ### Quoted values -/

theorem exists_enclose_eq (value : Text) :
    ∃ quote, Text.isQuote quote = true ∧ enclose value = quote :: value ++ [quote] := by
  unfold enclose
  simp only
  split
  · exact ⟨Text.doubleQuote, by decide, rfl⟩
  · exact ⟨Text.singleQuote, by decide, rfl⟩

theorem isBlank_of_isQuote {c : Char} (h : Text.isQuote c = true) : Text.isBlank c = false := by
  simp only [Text.isQuote, Bool.or_eq_true, beq_iff_eq] at h
  rcases h with rfl | rfl <;> decide

/-- A text between two quotes of one kind has no blank at its ends. -/
theorem tight_quoted {quote : Char} (h : Text.isQuote quote = true) (inner : Text) :
    Text.Tight (quote :: inner ++ [quote]) := by
  have hblank := isBlank_of_isQuote h
  refine ⟨fun d hd => ?_, fun d hd => ?_⟩
  · obtain rfl : quote = d := by simpa using hd
    exact hblank
  · rw [List.getLast?_concat] at hd
    obtain rfl : quote = d := by simpa using hd
    exact hblank

theorem unquote?_quoted {quote : Char} (h : Text.isQuote quote = true) (inner : Text) :
    unquote? (quote :: inner ++ [quote]) = some inner := by
  simp [unquote?, h]

/-- A value is read from between two quotes of one kind. -/
theorem unquote?_eq_some_iff {written value : Text} :
    unquote? written = some value ↔
      ∃ quote, Text.isQuote quote = true ∧ written = quote :: value ++ [quote] := by
  constructor
  · intro h
    cases written with
    | nil => cases h
    | cons quote rest =>
      rw [unquote?] at h
      split at h
      · next hquote =>
        obtain rfl := Option.some.inj h
        refine ⟨quote, hquote.1, ?_⟩
        rw [List.cons_append, List.dropLast_append_getLast? quote hquote.2]
      · cases h
  · rintro ⟨quote, hquote, rfl⟩
    exact unquote?_quoted hquote value

/-- The quotes around a value are two characters. -/
theorem length_of_unquote? {written value : Text} (h : unquote? written = some value) :
    written.length = value.length + 2 := by
  obtain ⟨quote, -, rfl⟩ := unquote?_eq_some_iff.mp h
  simp only [List.length_append, List.length_cons, List.length_nil]

/-! ### Written conditions -/

theorem WellFormed.operator_ne {caseSensitive : Bool} {c : Condition} {value : Text}
    (h : c.WellFormed caseSensitive) (hvalue : c.value = some value) :
    c.operator ≠ .present ∧ c.operator ≠ .absent := by
  rw [← not_or, ← h.value_eq_none_iff, hvalue]
  nofun

/-- A condition with a value is written as its name behind the sign of an attribute, the mark of
its operator, an equals sign and the quoted value. -/
theorem WellFormed.render_of_value {caseSensitive : Bool} {c : Condition} {value : Text}
    (h : c.WellFormed caseSensitive) (hvalue : c.value = some value) :
    c.render = ('@' :: c.name ++ c.operator.mark) ++ '=' :: enclose value := by
  have hne := h.operator_ne hvalue
  obtain ⟨name, operator, _⟩ := c
  obtain rfl := hvalue
  cases operator <;> simp_all [render, Operator.token, Operator.mark]

/-- The writing of a condition without value. -/
theorem render_of_none {c : Condition} (hvalue : c.value = none) :
    c.render = if c.operator = .absent then '!' :: '@' :: c.name else '@' :: c.name := by
  obtain ⟨name, operator, _⟩ := c
  obtain rfl := hvalue
  cases operator <;> rfl

theorem WellFormed.tight_name {caseSensitive : Bool} {c : Condition}
    (h : c.WellFormed caseSensitive) : Text.Tight ('@' :: c.name) := by
  refine ⟨fun d hd => ?_, fun d hd => ?_⟩
  · obtain rfl : '@' = d := by simpa using hd
    decide
  · rw [getLast?_at h.name_ne_nil] at hd
    exact h.name_end d hd

/-- A well-formed condition is written without blanks at the ends. -/
theorem WellFormed.tight_render {caseSensitive : Bool} {c : Condition}
    (h : c.WellFormed caseSensitive) : Text.Tight c.render := by
  cases hvalue : c.value with
  | none =>
    have hname := h.tight_name
    rw [render_of_none hvalue]
    split
    · refine ⟨fun d hd => ?_, fun d hd => hname.2 d ?_⟩
      · obtain rfl : '!' = d := by simpa using hd
        decide
      · simpa [List.getLast?_cons] using hd
    · exact hname
  | some value =>
    obtain ⟨quote, hquote, henclose⟩ := exists_enclose_eq value
    rw [h.render_of_value hvalue, henclose]
    refine ⟨fun d hd => ?_, fun d hd => ?_⟩
    · obtain rfl : '@' = d := by simpa using hd
      decide
    · rw [← List.cons_append, ← List.append_assoc, List.getLast?_concat] at hd
      obtain rfl : quote = d := by simpa using hd
      exact isBlank_of_isQuote hquote

theorem render_ne_nil (c : Condition) : c.render ≠ [] := by
  unfold render
  split <;> simp

/-! ### Reading back -/

theorem WellFormed.equals_notMem {caseSensitive : Bool} {c : Condition}
    (h : c.WellFormed caseSensitive) : '=' ∉ '@' :: c.name ++ c.operator.mark := by
  have hmark : '=' ∉ c.operator.mark := by cases c.operator <;> decide
  simp [h.name_plain, hmark]

/-- The parts of the writing of a condition without value. -/
theorem WellFormed.split_render_of_none {caseSensitive : Bool} {c : Condition}
    (h : c.WellFormed caseSensitive) (hvalue : c.value = none) :
    Fragment.split c.render = ⟨'@' :: c.name, c.operator.token, none⟩ := by
  have hplain : '=' ∉ '@' :: c.name := by simp [h.name_plain]
  rw [render_of_none hvalue]
  rcases h.value_eq_none_iff.mp hvalue with hoperator | hoperator
  · rw [if_neg (by simp [hoperator]), Fragment.split_of_notMem hplain, hoperator]
    simp [Fragment.ofName, Operator.token, h.tight_name.trim_eq]
  · have hmark : '=' ∉ '!' :: '@' :: c.name := by simp [h.name_plain]
    rw [if_pos hoperator, Fragment.split_of_notMem hmark, hoperator]
    simp [Fragment.ofName, Operator.token, h.tight_name.trim_eq]

/-- The parts of the writing of a condition with a value, as the character in front of the equals
sign decides. -/
theorem WellFormed.split_render_of_value {caseSensitive : Bool} {c : Condition} {value : Text}
    (h : c.WellFormed caseSensitive) (hvalue : c.value = some value) :
    Fragment.split c.render =
      Fragment.ofSides ('@' :: c.name ++ c.operator.mark) (enclose value) := by
  rw [h.render_of_value hvalue, Fragment.split_append_mark h.equals_notMem]

/-- The parts of the writing of a condition that is not marked are its own. -/
theorem WellFormed.split_render {caseSensitive : Bool} {c : Condition}
    (h : c.WellFormed caseSensitive) (hmarked : ¬ c.Marked) :
    Fragment.split c.render = ⟨'@' :: c.name, c.operator.token, c.value.map enclose⟩ := by
  cases hvalue : c.value with
  | none => exact h.split_render_of_none hvalue
  | some value =>
    obtain ⟨quote, hquote, henclose⟩ := exists_enclose_eq value
    have htrim : Text.trim (enclose value) = enclose value := by
      rw [henclose, (tight_quoted hquote value).trim_eq]
    rw [h.split_render_of_value hvalue]
    by_cases hoperator : c.operator = .equals
    · have hmark : ('@' :: c.name).getLast?.filter Fragment.isMark = none := by
        rw [getLast?_at h.name_ne_nil, ← Option.not_isSome_iff_eq_none]
        exact fun hsome => hmarked ⟨hoperator, hsome⟩
      rw [hoperator, Operator.mark_equals, List.append_nil, Fragment.ofSides_of_none hmark, htrim,
        h.tight_name.trim_eq]
      rfl
    · have hmark : c.operator.mark ≠ [] := by
        have hne := h.operator_ne hvalue
        cases hop : c.operator <;> simp_all [Operator.mark]
      rw [Fragment.ofSides_append_mark hmark, htrim, h.tight_name.trim_eq]
      rfl

/-- **A well-formed condition is read back** from its writing exactly when its name does not end
with the mark of another operator. -/
theorem parse_render_iff {caseSensitive : Bool} {c : Condition} (h : c.WellFormed caseSensitive) :
    parse caseSensitive c.render = .ok c ↔ ¬ c.Marked := by
  rw [parse_eq_ok_iff, h.tight_render.trim_eq]
  constructor
  · rintro ⟨-, -, -, hread, -⟩ ⟨hoperator, hmark⟩
    have hvalue : c.value ≠ none := by simp [h.value_eq_none_iff, hoperator]
    obtain ⟨value, hvalue⟩ := Option.ne_none_iff_exists'.mp hvalue
    rw [h.split_render_of_value hvalue, hoperator, Operator.mark_equals, List.append_nil,
      Fragment.token_ofSides_eq_equals_iff, getLast?_at h.name_ne_nil] at hread
    rw [hread] at hmark
    cases hmark
  · intro hmarked
    rw [h.split_render hmarked]
    refine ⟨render_ne_nil c, h.name_ne_nil, h.name_folded.symm, rfl, ?_⟩
    cases hvalue : c.value with
    | none => exact Or.inl ⟨rfl, rfl⟩
    | some value =>
      obtain ⟨quote, hquote, henclose⟩ := exists_enclose_eq value
      refine Or.inr ⟨enclose value, value, rfl, ?_, rfl⟩
      rw [henclose, unquote?_quoted hquote]

/-! ### Texts that start like a written condition -/

/-- A text that folds to a folded name and runs along with it is the name. -/
theorem eq_of_fold_eq {caseSensitive : Bool} {text name x y : Text}
    (hfold : Text.fold caseSensitive text = name) (hname : Text.fold caseSensitive name = name)
    (heq : text ++ x = name ++ y) : text = name := by
  have hlen : text.length ≤ name.length := by
    rw [← hfold]
    exact Text.length_le_length_fold caseSensitive text
  obtain ⟨more, rfl⟩ : text <+: name :=
    List.prefix_of_prefix_length_le ⟨x, rfl⟩ ⟨y, heq.symm⟩ hlen
  rw [Text.fold_eq_self_of_append hname] at hfold
  exact hfold

theorem getLast?_of_tight_append {p text : Text} (h : Text.Tight (p ++ text)) (hne : text ≠ []) :
    ∀ d, text.getLast? = some d → Text.isBlank d = false := by
  intro d hd
  refine h.2 d ?_
  rw [List.getLast?_append_of_ne_nil _ hne]
  exact hd

/-- A tight text without value that is read as a condition and runs along with its writing is its
writing. -/
theorem eq_render_of_none {caseSensitive : Bool} {c : Condition} {atom x y : Text}
    (h : c.WellFormed caseSensitive) (htight : Text.Tight atom)
    (hparse : parse caseSensitive atom = .ok c) (hvalue : c.value = none)
    (heq : atom ++ x = c.render ++ y) : atom = c.render := by
  obtain ⟨hne, hbare, hname, hoperator, hread⟩ := parse_eq_ok_iff.mp hparse
  rw [htight.trim_eq] at hne hbare hname hoperator hread
  have hplain : '=' ∉ atom := by
    have hnone : (Fragment.split atom).value = none := by
      rcases hread with ⟨hnone, -⟩ | ⟨_, _, -, -, hsome⟩
      · exact hnone
      · rw [hvalue] at hsome
        cases hsome
    rw [Fragment.value_split, Option.map_eq_none_iff] at hnone
    exact Text.after?_eq_none_iff.mp hnone
  rw [Fragment.split_of_notMem hplain] at hbare hname hoperator
  -- the signs in front of the name are those of the writing, so the names run along
  obtain ⟨d, rest, rfl⟩ := List.exists_cons_of_ne_nil hne
  rcases h.value_eq_none_iff.mp hvalue with hop | hop
  · rw [render_of_none hvalue, if_neg (by simp [hop])] at heq ⊢
    obtain ⟨rfl, hrest⟩ := List.cons_eq_cons.mp heq
    have hsplit : Fragment.ofName ('@' :: rest) = ⟨'@' :: rest, [], none⟩ := by
      simp [Fragment.ofName, htight.trim_eq]
    rw [hsplit, bareName_at] at hname
    rw [eq_of_fold_eq hname.symm h.name_folded hrest]
  · rw [render_of_none hvalue, if_pos hop] at heq ⊢
    obtain ⟨rfl, hrest⟩ := List.cons_eq_cons.mp heq
    cases rest with
    | nil => exact absurd rfl hbare
    | cons e name =>
      obtain ⟨rfl, htail⟩ := List.cons_eq_cons.mp hrest
      have hend : ∀ d, ('@' :: name).getLast? = some d → Text.isBlank d = false :=
        getLast?_of_tight_append (p := ['!']) htight (by simp)
      have hsplit : Fragment.ofName ('!' :: '@' :: name) = ⟨'@' :: name, ['!'], none⟩ := by
        have htrim : Text.trim ('@' :: name) = '@' :: name :=
          Text.trim_eq_self (by simp; decide) hend
        rw [Fragment.ofName, htrim]
      rw [hsplit, bareName_at] at hname
      rw [eq_of_fold_eq hname.symm h.name_folded htail]

/-- A tight text with a value that is read as a condition and runs along with its writing is its
writing. -/
theorem eq_render_of_value {caseSensitive : Bool} {c : Condition} {atom value x y : Text}
    (h : c.WellFormed caseSensitive) (htight : Text.Tight atom)
    (hparse : parse caseSensitive atom = .ok c) (hvalue : c.value = some value)
    (heq : atom ++ x = c.render ++ y) : atom = c.render := by
  obtain ⟨-, -, -, -, hread⟩ := parse_eq_ok_iff.mp hparse
  rw [htight.trim_eq, Fragment.value_split] at hread
  obtain ⟨behind, hafter, hquote⟩ : ∃ behind, Text.after? '=' atom = some behind ∧
      unquote? (Text.trim behind) = some value := by
    rcases hread with ⟨-, hnone⟩ | ⟨_, found, hsome, hquote, hfound⟩
    · rw [hvalue] at hnone
      cases hnone
    · obtain ⟨behind, hafter, rfl⟩ := Option.map_eq_some_iff.mp hsome
      rw [hvalue] at hfound
      obtain rfl := Option.some.inj hfound
      exact ⟨behind, hafter, hquote⟩
  have hatom := (Text.upTo_append_after hafter).symm
  rw [h.render_of_value hvalue] at heq ⊢
  obtain ⟨hbefore, hbehind⟩ : Text.upTo '=' atom = '@' :: c.name ++ c.operator.mark ∧
      behind ++ x = enclose value ++ y := by
    refine Text.sides_unique (Text.mark_notMem_upTo '=' atom) h.equals_notMem ?_
    rw [← List.cons_append, ← List.append_assoc, ← hatom, heq]
    simp only [List.append_assoc, List.cons_append]
  -- the value behind the equals sign starts with the written quote, so no blank is trimmed from it
  obtain ⟨quote, hopen, henclose⟩ := exists_enclose_eq value
  have hne : behind ≠ [] := by
    rintro rfl
    cases hquote
  have hhead : ∀ d, behind.head? = some d → Text.isBlank d = false := by
    intro d hd
    have hboth := congrArg List.head? hbehind
    rw [List.head?_append_of_ne_nil _ hne, hd, henclose] at hboth
    obtain rfl : d = quote := by simpa using hboth
    exact isBlank_of_isQuote hopen
  have hlast : ∀ d, behind.getLast? = some d → Text.isBlank d = false := by
    have hsplit : atom = (Text.upTo '=' atom ++ ['=']) ++ behind := by simpa using hatom
    exact getLast?_of_tight_append (hsplit ▸ htight) hne
  rw [Text.trim_eq_self hhead hlast] at hquote
  have hlen : behind.length = (enclose value).length := by
    rw [length_of_unquote? hquote, henclose]
    simp
  rw [hatom, hbefore, List.append_inj_left hbehind hlen]

/-- **A text that is read as a condition and starts like its writing** is its writing with blanks
behind. -/
theorem exists_eq_render_append {caseSensitive : Bool} {c : Condition} {atom x y : Text}
    (hparse : parse caseSensitive atom = .ok c) (heq : atom ++ x = c.render ++ y) :
    ∃ back, Text.Blank back ∧ atom = c.render ++ back := by
  have h := wellFormed_of_parse hparse
  have hne : Text.trim atom ≠ [] := (parse_eq_ok_iff.mp hparse).1
  have hhead : ∀ d, atom.head? = some d → Text.isBlank d = false := by
    intro d hd
    have hatom : atom ≠ [] := by
      rintro rfl
      exact hne rfl
    have hboth := congrArg List.head? heq
    rw [List.head?_append_of_ne_nil _ hatom, hd, List.head?_append_of_ne_nil _ (render_ne_nil c)]
      at hboth
    exact h.tight_render.1 d hboth.symm
  -- the text starts with a sign, so trimming takes away its end only
  obtain ⟨back, hback, hatom⟩ := Text.exists_trimEnd_append atom
  rw [← Text.trim_eq_trimEnd hhead] at hatom
  have hparse' : parse caseSensitive (Text.trim atom) = .ok c := by
    rw [parse_eq_ok_iff] at hparse ⊢
    rwa [(Text.tight_trim atom).trim_eq]
  refine ⟨back, hback, ?_⟩
  rw [hatom, List.append_assoc] at heq
  suffices hrender : Text.trim atom = c.render by rw [← hrender, ← hatom]
  cases hvalue : c.value with
  | none => exact eq_render_of_none h (Text.tight_trim atom) hparse' hvalue heq
  | some value => exact eq_render_of_value h (Text.tight_trim atom) hparse' hvalue heq

end Condition

end PathSelector
