import Mathlib.Data.List.Flatten
import PathSelector.Proofs.Chain.Compile
import PathSelector.Proofs.Condition.Quotation
import PathSelector.Proofs.Condition.Spelling
import PathSelector.Proofs.Index.Numeral
import PathSelector.Proofs.Level.Assembly
import PathSelector.Proofs.Lint.Findings

/-!
# Names that look like an index

A bracketed text that cannot be read as an index is read as conditions, so a number out of range
becomes the name of an attribute. The rule about such names sees the compiled chain only. It finds
the names that look like an index in the bracketed texts that are none, each where it stands: the
signs, digits and blanks of such a name are not touched by cutting, trimming and taking small forms.
So no number out of range goes unnoticed. But a name may also look like an index without being all
of its bracketed text, and then the rule reports it although it is a number in range.

Main definitions:

* `Index.Resembles`, `Index.Failed`: a text looks like an index, and a bracketed text that does is
  none;
* `Segment.indexNames`: the names in the bracketed texts of a segment that look like an index;
* `Condition.IsWhole`: a text is all of a bracketed text, without the sign of an attribute.

Main statements:

* `Condition.present_and_isShaped_iff`: which texts are read as a test that the rule reports;
* `Rule.about_report_indexShapedAttribute`: what is reported about a level of a compiled chain;
* `Rule.check_indexShapedAttribute_complete`: every failed index is reported;
* `Rule.check_indexShapedAttribute_right_iff`: when what is reported is no index.
-/

namespace PathSelector

namespace Index

/-! ### Resemblance -/

/-- The text looks like a number or a bound: blanks and a numeral behind the sign of a kind of
index. -/
def Resembles (text : Text) : Prop :=
  ∃ kind ∈ IndexKind.numbered, ∃ (numeral : Numeral) (gap written : Text),
    Text.Blank gap ∧ numeral.Writes written ∧ text = kind.sign ++ (gap ++ written)

/-- The characters other than blanks of texts that look like an index. -/
def shapeChars : Text := '<' :: '>' :: '+' :: '-' :: Text.digits

theorem Resembles.mem_or_isBlank {text : Text} (h : Resembles text) {c : Char} (hc : c ∈ text) :
    c ∈ shapeChars ∨ Text.isBlank c = true := by
  obtain ⟨kind, hkind, numeral, gap, written, hgap, hwritten, rfl⟩ := h
  simp only [List.mem_append] at hc
  rcases hc with hc | hc | hc
  · have hsigns : ∀ kind ∈ IndexKind.numbered, ∀ d ∈ kind.sign, d ∈ shapeChars := by decide
    exact .inl (hsigns kind hkind c hc)
  · exact .inr (hgap c hc)
  · exact .inl (List.mem_cons_of_mem _ (List.mem_cons_of_mem _ (hwritten.mem_of_mem hc)))

/-- A character that is no blank and in no index is in no text that looks like one. -/
theorem Resembles.notMem {text : Text} (h : Resembles text) {c : Char} (hc : c ∉ shapeChars)
    (hblank : Text.isBlank c = false) : c ∉ text := by
  intro hmem
  rcases h.mem_or_isBlank hmem with hshape | hisBlank
  · exact hc hshape
  · rw [hblank] at hisBlank
    cases hisBlank

theorem withoutSign_of_ne {text : Text} (hless : text.head? ≠ some '<')
    (hmore : text.head? ≠ some '>') : withoutSign text = text := by
  unfold withoutSign
  split
  · exact absurd rfl hless
  · exact absurd rfl hmore
  · rfl

/-- A text is the sign of a kind of index in front of what is left without it. -/
theorem exists_sign_append (text : Text) :
    ∃ kind ∈ IndexKind.numbered, text = kind.sign ++ withoutSign text := by
  unfold withoutSign
  split
  · exact ⟨.lessThan, by decide, rfl⟩
  · exact ⟨.moreThan, by decide, rfl⟩
  · exact ⟨.exactly, by decide, rfl⟩

theorem withoutSign_append {kind : IndexKind} (hkind : kind ∈ IndexKind.numbered)
    {numeral : Numeral} {gap written : Text} (hgap : Text.Blank gap)
    (hwritten : numeral.Writes written) :
    withoutSign (kind.sign ++ (gap ++ written)) = gap ++ written := by
  cases kind with
  | lessThan | moreThan => rfl
  | even | odd => exact absurd hkind (by decide)
  | exactly =>
    have hplain : ∀ c ∈ gap ++ written, c ≠ '<' ∧ c ≠ '>' := by
      have hsigns : ∀ c ∈ '+' :: '-' :: Text.digits, c ≠ '<' ∧ c ≠ '>' := by decide
      intro c hc
      rcases List.mem_append.mp hc with hc | hc
      · constructor <;> rintro rfl <;> exact absurd (hgap _ hc) (by decide)
      · exact hsigns c (hwritten.mem_of_mem hc)
    refine withoutSign_of_ne (fun hhead => ?_) fun hhead => ?_
    · exact (hplain '<' (List.mem_of_mem_head? hhead)).1 rfl
    · exact (hplain '>' (List.mem_of_mem_head? hhead)).2 rfl

/-- A text looks like an index exactly when a numeral is left without the sign of comparison and the
blanks behind it. -/
theorem resembles_iff {text : Text} :
    Resembles text ↔ (Numeral.read? (Text.trimStart (withoutSign text))).isSome := by
  rw [Option.isSome_iff_exists]
  constructor
  · rintro ⟨kind, hkind, numeral, gap, written, hgap, hwritten, rfl⟩
    refine ⟨numeral, Numeral.read?_eq_some_iff.mpr ?_⟩
    rw [withoutSign_append hkind hgap hwritten, Text.trimStart, List.dropWhile_append_of_pos hgap,
      ← Text.trimStart, Text.trimStart_eq_self hwritten.tight.1]
    exact hwritten
  · rintro ⟨numeral, hread⟩
    obtain ⟨kind, hkind, htext⟩ := exists_sign_append text
    refine ⟨kind, hkind, numeral, (withoutSign text).takeWhile Text.isBlank, _,
      fun c hc => List.mem_takeWhile_imp hc, Numeral.read?_eq_some_iff.mp hread, ?_⟩
    rw [Text.trimStart, List.takeWhile_append_dropWhile]
    exact htext

instance (text : Text) : Decidable (Resembles text) := decidable_of_iff _ resembles_iff.symm

/-- For names that do not end with a blank, the line feed that may stand at the end does not
matter. -/
theorem isShaped_iff {name : Text}
    (hend : ∀ c, name.getLast? = some c → Text.isBlank c = false) :
    isShaped name = true ↔ Resembles name := by
  have hnewline : withoutFinalNewline (Text.trimStart (withoutSign name)) =
      Text.trimStart (withoutSign name) := by
    refine if_neg fun hlast => ?_
    have hsuffix : Text.trimStart (withoutSign name) <:+ name := by
      obtain ⟨kind, -, hname⟩ := exists_sign_append name
      exact (List.dropWhile_suffix _).trans ⟨kind.sign, hname.symm⟩
    obtain ⟨front, hfront⟩ := hsuffix
    have hname := congrArg List.getLast? hfront
    rw [List.getLast?_append, hlast] at hname
    exact absurd (hend _ hname.symm) (by decide)
  rw [resembles_iff, isShaped, hnewline]

/-- A text that looks like an index is its own small form. -/
theorem Resembles.fold_eq {text : Text} (h : Resembles text) (caseSensitive : Bool) :
    Text.fold caseSensitive text = text := by
  cases caseSensitive with
  | true => rfl
  | false =>
    refine Text.lower_eq_self fun c hc => ?_
    rcases h.mem_or_isBlank hc with hshape | hblank
    · have hsmall : ∀ d ∈ shapeChars, Text.lowerChar d = d ∧ d ≠ '\u0130' ∧ d ≠ '\u03A3' := by
        decide +kernel
      exact hsmall c hshape
    · exact Text.isSmall_of_isBlank hblank

/-- Only a text that looks like an index has a small form that does. -/
theorem resembles_fold_iff {caseSensitive : Bool} {text : Text} :
    Resembles (Text.fold caseSensitive text) ↔ Resembles text := by
  refine ⟨fun h => ?_, fun h => by rwa [h.fold_eq]⟩
  cases caseSensitive with
  | true => exact h
  | false =>
    have hletter : ∀ c ∈ Text.lower text, ¬ Text.IsLetter c := by
      rintro c hc ⟨hle, hnot⟩
      rcases h.mem_or_isBlank hc with hshape | hblank
      · have hlow : ∀ d ∈ shapeChars, ¬ 'a'.toNat ≤ d.toNat := by decide
        exact hlow c hshape hle
      · rw [hnot] at hblank
        cases hblank
    rwa [Text.fold_false, Text.lower_eq_self_of_not_isLetter hletter] at h

/-! ### Numbers out of range -/

/-- A text that looks like an index spells a numeral. -/
theorem Resembles.exists_spells {text : Text} (h : Resembles text) :
    ∃ kind numeral, Spells kind numeral text := by
  obtain ⟨kind, hkind, numeral, gap, written, hgap, hwritten, rfl⟩ := h
  refine ⟨kind, numeral, hkind, gap, written, [], hgap, Text.blank_nil, hwritten, ?_⟩
  rw [List.append_nil]

/-- The bracketed text looks like an index, blanks around it aside, and is none. -/
def Failed (body : Text) : Prop := Resembles (Text.trim body) ∧ parse? body = .ok none

instance (body : Text) : Decidable (Failed body) := inferInstanceAs (Decidable (_ ∧ _))

/-- A text that spells a numeral and does not end with a blank looks like an index. -/
theorem Spells.resembles {kind : IndexKind} {numeral : Numeral} {text : Text}
    (h : Spells kind numeral text)
    (hend : ∀ c, text.getLast? = some c → Text.isBlank c = false) : Resembles text := by
  obtain ⟨hkind, front, written, back, hfront, hback, hwritten, rfl⟩ := h
  obtain rfl : back = [] := by
    by_contra hne
    have hlast := List.getLast?_eq_some_getLast hne
    have hmem := hback _ (List.getLast_mem hne)
    rw [hend (back.getLast hne) ?_] at hmem
    · cases hmem
    · rw [← List.append_assoc, List.getLast?_append, hlast]
      rfl
  exact ⟨kind, hkind, numeral, front, written, hfront, hwritten, by rw [List.append_nil]⟩

/-- Blanks may be put around a spelt numeral, in front of it only if it has no sign of
comparison. -/
theorem Spells.blank_append {kind : IndexKind} {numeral : Numeral} {text front back : Text}
    (h : Spells kind numeral text) (hfront : Text.Blank front) (hback : Text.Blank back)
    (hkind : front = [] ∨ kind = .exactly) : Spells kind numeral (front ++ text ++ back) := by
  obtain ⟨hmem, gap, written, rest, hgap, hrest, hwritten, rfl⟩ := h
  refine ⟨hmem, front ++ gap, written, rest ++ back, List.forall_mem_append.mpr ⟨hfront, hgap⟩,
    List.forall_mem_append.mpr ⟨hrest, hback⟩, hwritten, ?_⟩
  rcases hkind with rfl | rfl <;> simp [IndexKind.sign]

/-- A spelt numeral is no index exactly when it is out of range and short enough to tell. -/
theorem Spells.parse?_eq_none_iff {kind : IndexKind} {numeral : Numeral} {text : Text}
    (h : Spells kind numeral text) :
    parse? text = .ok none ↔ numeral.digits.length ≤ Numeral.digitLimit ∧
      ¬ (least ≤ numeral.toInt ∧ numeral.toInt ≤ greatest) := by
  rw [parse?_of_spells h, Numeral.value]
  by_cases hshort : numeral.digits.length ≤ Numeral.digitLimit
  · by_cases hrange : least ≤ numeral.toInt ∧ numeral.toInt ≤ greatest <;>
      simp [Except.map, hshort, hrange]
  · simp [Except.map, hshort]

end Index

/-! ### Conditions -/

namespace Condition

theorem mem_bareName_or {text : Text} {c : Char} (h : c ∈ text) : c = '@' ∨ c ∈ bareName text := by
  unfold bareName
  split
  · exact List.mem_cons.mp h
  · exact .inr h

theorem isBlank_getLast?_bareName {atom : Text} {c : Char}
    (h : (bareName (Text.trim atom)).getLast? = some c) : Text.isBlank c = false := by
  have hne : bareName (Text.trim atom) ≠ [] := by
    intro hnil
    rw [hnil] at h
    cases h
  rw [getLast?_bareName hne] at h
  exact (Text.tight_trim atom).2 c h

/-- A text whose name looks like an index tests the presence of that attribute. -/
theorem split_of_resembles {atom : Text} (h : Index.Resembles (bareName (Text.trim atom))) :
    Fragment.split (Text.trim atom) = ⟨Text.trim atom, Operator.token .present, none⟩ := by
  have hplain : ∀ c ∈ ['=', '!'], c ∉ Text.trim atom := by
    intro c hc hmem
    have hother : ∀ d ∈ ['=', '!'], d ≠ '@' ∧ d ∉ Index.shapeChars ∧ Text.isBlank d = false := by
      decide
    obtain ⟨hsign, hshape, hblank⟩ := hother c hc
    rcases mem_bareName_or hmem with heq | hname
    · exact hsign heq
    · exact h.notMem hshape hblank hname
  rw [Fragment.split_of_notMem (hplain '=' (by simp)), Fragment.ofName_of_ne_mark,
    (Text.tight_trim atom).trim_eq]
  exact fun hhead => hplain '!' (by simp) (List.mem_of_mem_head? hhead)

/-- A test of presence is on the name that its text is without the sign of an attribute. -/
theorem name_of_present {caseSensitive : Bool} {atom : Text} {c : Condition}
    (h : parse caseSensitive atom = .ok c) (hpresent : c.operator = .present) :
    c.name = Text.fold caseSensitive (bareName (Text.trim atom)) := by
  obtain ⟨-, -, hname, hoperator, -⟩ := parse_eq_ok_iff.mp h
  rw [hpresent] at hoperator
  have hplain : '=' ∉ Text.trim atom := by
    have hvalue := (Fragment.value_split_eq_none_iff _).mpr (.inl hoperator)
    rwa [Fragment.value_split, Option.map_eq_none_iff, Text.after?_eq_none_iff] at hvalue
  rw [Fragment.split_of_notMem hplain] at hname hoperator
  by_cases hmark : (Text.trim atom).head? = some '!'
  · obtain ⟨rest, hrest⟩ := List.head?_eq_some_iff.mp hmark
    rw [hrest, Fragment.ofName_mark] at hoperator
    cases hoperator
  · rwa [Fragment.ofName_of_ne_mark hmark, (Text.tight_trim atom).trim_eq] at hname

/-- A condition tests the presence of a name that looks like an index exactly when its text is such
a name, with the sign of an attribute or without. -/
theorem present_and_isShaped_iff {caseSensitive : Bool} {atom : Text} {c : Condition}
    (h : parse caseSensitive atom = .ok c) :
    c.operator = .present ∧ Index.isShaped c.name = true ↔
      Index.Resembles (bareName (Text.trim atom)) := by
  rw [Index.isShaped_iff (wellFormed_of_parse h).name_end]
  constructor
  · rintro ⟨hpresent, hname⟩
    rwa [name_of_present h hpresent, Index.resembles_fold_iff] at hname
  · intro hresembles
    obtain ⟨-, -, hname, hoperator, -⟩ := parse_eq_ok_iff.mp h
    rw [split_of_resembles hresembles] at hname hoperator
    rw [hname, Index.resembles_fold_iff]
    exact ⟨(Operator.token_inj.mp hoperator).symm, hresembles⟩

/-- The names in a bracketed text that look like an index, each as it stands between the joining
words, without the sign of an attribute. -/
def indexNames (body : Text) : List Text :=
  ((atoms body).map fun atom => bareName (Text.trim atom)).filter Index.Resembles

/-- The names that look like an index are those of the conditions that test their presence. -/
theorem map_name_filter_eq {caseSensitive : Bool} {texts : List Text} {tests : List Condition}
    (h : List.Forall₂ (fun text c => parse caseSensitive text = .ok c) texts tests) :
    (tests.filter fun c => c.operator = .present && Index.isShaped c.name).map (·.name) =
      (texts.map fun text => bareName (Text.trim text)).filter Index.Resembles := by
  induction h with
  | nil => rfl
  | @cons text c texts tests hparse _ ih =>
    have hiff := present_and_isShaped_iff hparse
    rw [List.map_cons]
    by_cases hresembles : Index.Resembles (bareName (Text.trim text))
    · obtain ⟨hpresent, hshaped⟩ := hiff.mpr hresembles
      rw [List.filter_cons_of_pos (by simp [hpresent, hshaped]),
        List.filter_cons_of_pos (by simpa using hresembles), List.map_cons, ih,
        name_of_present hparse hpresent, hresembles.fold_eq]
    · rw [List.filter_cons_of_neg (by simpa [← hiff] using hresembles),
        List.filter_cons_of_neg (by simpa using hresembles), ih]

/-- A bracketed text that looks like an index is one name. -/
theorem indexNames_of_resembles {body : Text} (h : Index.Resembles (Text.trim body)) :
    indexNames body = [Text.trim body] := by
  have hletter : 'a' ∉ body := by
    obtain ⟨front, back, hfront, hback, heq⟩ := Text.exists_blank_append_trim body
    rw [heq, List.mem_append, List.mem_append]
    rintro ((hmem | hmem) | hmem)
    · exact absurd (hfront 'a' hmem) (by decide)
    · exact h.notMem (by decide) (by decide) hmem
    · exact absurd (hback 'a' hmem) (by decide)
  have hatoms : atoms body = [body] := by
    refine atomsFrom_eq_singleton_iff.mpr ?_
    rintro ⟨front, back, rfl, -⟩
    exact hletter (by simp [joint])
  have hname : bareName (Text.trim body) = Text.trim body := by
    refine bareName_of_ne_sign fun hhead => ?_
    exact h.notMem (by decide) (by decide) (List.mem_of_mem_head? hhead)
  rw [indexNames, hatoms, List.map_singleton, hname]
  exact List.filter_cons_of_pos (decide_eq_true h)

/-- The text is all of a bracketed text, without the sign of an attribute, and without blanks in
front of a sign of comparison. -/
structure IsWhole (body atom : Text) : Prop where
  atoms_eq : atoms body = [atom]
  unsigned : (Text.trim atom).head? ≠ some '@'
  unindented : (∀ c, body.head? = some c → Text.isBlank c = false) ∨
    ∀ c, (Text.trim body).head? = some c → c ≠ '<' ∧ c ≠ '>'

/-- A name that looks like an index is none if it is the whole of a bracketed text that is none. -/
theorem IsWhole.parse?_eq_none {body atom : Text} (h : IsWhole body atom)
    (hindex : Index.parse? body = .ok none)
    (hresembles : Index.Resembles (bareName (Text.trim atom))) :
    Index.parse? (bareName (Text.trim atom)) = .ok none := by
  obtain ⟨hatoms, hunsigned, hunindented⟩ := h
  obtain rfl : atom = body := by
    have hjoin := intercalate_atoms body
    rwa [hatoms, List.intercalate_singleton] at hjoin
  rw [bareName_of_ne_sign hunsigned] at hresembles ⊢
  obtain ⟨kind, numeral, hspells⟩ := hresembles.exists_spells
  obtain ⟨front, back, hfront, hback, heq⟩ := Text.exists_blank_append_trim atom
  have hkind : front = [] ∨ kind = .exactly := by
    rcases hunindented with hhead | hsign
    · left
      by_contra hne
      obtain ⟨c, rest, rfl⟩ := List.exists_cons_of_ne_nil hne
      have hc := hfront c List.mem_cons_self
      rw [hhead c (by rw [heq]; rfl)] at hc
      cases hc
    · right
      obtain ⟨hmem, gap, written, rest, -, -, -, htrim⟩ := hspells
      cases kind with
      | exactly => rfl
      | lessThan => exact absurd rfl (hsign '<' (by rw [htrim]; rfl)).1
      | moreThan => exact absurd rfl (hsign '>' (by rw [htrim]; rfl)).2
      | even | odd => exact absurd hmem (by decide)
  have hbody := hspells.blank_append hfront hback hkind
  rw [← heq] at hbody
  rw [Index.parse?_of_spells hspells, ← Index.parse?_of_spells hbody, hindex]

end Condition

/-- The names in the bracketed texts of a segment that look like an index, save in a text that is
an index. -/
def Segment.indexNames (segment : Segment) : List Text :=
  (segment.bodies.filter (Index.parse? · = .ok none)).flatMap Condition.indexNames

theorem Segment.mem_indexNames_iff {segment : Segment} {name : Text} :
    name ∈ segment.indexNames ↔ ∃ body ∈ segment.bodies, Index.parse? body = .ok none ∧
      (∃ atom ∈ Condition.atoms body, Condition.bareName (Text.trim atom) = name) ∧
        Index.Resembles name := by
  simp only [indexNames, Condition.indexNames, List.mem_flatMap, List.mem_filter, List.mem_map,
    decide_eq_true_eq, and_assoc]

/-- The bracketed texts that look like an index and are none are among the names of a segment that
look like one. -/
theorem Segment.failed_sublist_indexNames (segment : Segment) :
    ((segment.bodies.filter Index.Failed).map Text.trim).Sublist segment.indexNames := by
  have hnames : (segment.bodies.filter Index.Failed).map Text.trim =
      (segment.bodies.filter Index.Failed).flatMap Condition.indexNames := by
    rw [List.map_eq_flatMap]
    refine List.flatMap_congr fun body hbody => ?_
    have hfailed : Index.Failed body := of_decide_eq_true (List.mem_filter.mp hbody).2
    exact (Condition.indexNames_of_resembles hfailed.1).symm
  rw [hnames]
  refine (List.monotone_filter_right _ fun body hbody => ?_).flatMap _
  exact decide_eq_true (of_decide_eq_true hbody : Index.Failed body).2

/-- The names of the conditions of bracketed texts that look like an index. -/
theorem Modifier.map_name_filter_eq {caseSensitive : Bool} {bodies : List Text}
    {results : List Modifier}
    (h : List.Forall₂ (fun body result => Modifier.parse caseSensitive body = .ok result)
      bodies results) :
    ((results.flatMap Modifier.tests).filter fun c =>
        c.operator = .present && Index.isShaped c.name).map (·.name) =
      (bodies.filter (Index.parse? · = .ok none)).flatMap Condition.indexNames := by
  induction h with
  | nil => rfl
  | @cons body result bodies results hparse _ ih =>
    rw [List.flatMap_cons, List.filter_append, List.map_append, ih]
    cases result with
    | index position =>
      have hindex := Modifier.parse_eq_index_iff.mp hparse
      rw [List.filter_cons_of_neg (by simp [hindex])]
      rfl
    | conditions tests =>
      obtain ⟨hindex, htests⟩ := Modifier.parse_eq_conditions_iff.mp hparse
      rw [List.filter_cons_of_pos (by simp [hindex]), List.flatMap_cons]
      exact congrArg (· ++ _) (Condition.map_name_filter_eq (mapM_eq_ok_iff.mp htests))

/-- The names of the conditions of a level that look like an index are those in its bracketed
texts. -/
theorem Level.map_name_filter_eq {caseSensitive : Bool} {segment : Segment} {level : Level}
    (h : ofSegment caseSensitive segment = .ok level) :
    (level.conditions.filter fun c =>
        c.operator = .present && Index.isShaped c.name).map (·.name) = segment.indexNames := by
  obtain ⟨modifiers, hbodies, -, hconditions⟩ := exists_modifiers_of_ofSegment h
  obtain ⟨results, hresults, -, rfl⟩ := Modifiers.ofBodies_eq_ok_iff.mp hbodies
  have hnames := Modifier.map_name_filter_eq hresults
  rcases hconditions with ⟨-, hplain⟩ | ⟨kind, path, value, -, -, -, -, hshorthand⟩
  · rw [hplain]
    exact hnames
  · -- a shorthand tests for equality
    rw [hshorthand, List.filter_cons_of_neg (by simp)]
    exact hnames

/-- The names of a segment that look like an index are none exactly when the numerals they spell are
out of range and short enough to tell. -/
theorem Segment.indexNames_out_of_range_iff {segment : Segment} :
    (∀ name ∈ segment.indexNames, Index.parse? name = .ok none) ↔
      ∀ body ∈ segment.bodies, Index.parse? body = .ok none → ∀ atom ∈ Condition.atoms body,
        ∀ kind numeral, Index.Spells kind numeral (Condition.bareName (Text.trim atom)) →
          numeral.digits.length ≤ Numeral.digitLimit ∧
            ¬ (Index.least ≤ numeral.toInt ∧ numeral.toInt ≤ Index.greatest) := by
  constructor
  · intro h body hbody hindex atom hatom kind numeral hspells
    have hresembles := hspells.resembles fun c => Condition.isBlank_getLast?_bareName
    exact hspells.parse?_eq_none_iff.mp
      (h _ (mem_indexNames_iff.mpr ⟨body, hbody, hindex, ⟨atom, hatom, rfl⟩, hresembles⟩))
  · intro h name hname
    obtain ⟨body, hbody, hindex, ⟨atom, hatom, rfl⟩, hresembles⟩ := mem_indexNames_iff.mp hname
    obtain ⟨kind, numeral, hspells⟩ := hresembles.exists_spells
    exact hspells.parse?_eq_none_iff.mpr (h body hbody hindex atom hatom kind numeral hspells)

/-! ### Reports -/

/-- A text that stands twice in a longer one can be told from it. -/
theorem Text.eq_of_append_twice {front between back text other : Text}
    (h : front ++ text ++ between ++ text ++ back = front ++ other ++ between ++ other ++ back) :
    text = other := by
  have hlength : text.length = other.length := by
    have hlengths := congrArg List.length h
    simp only [List.length_append] at hlengths
    omega
  simp only [List.append_assoc] at h
  exact (List.append_inj (List.append_cancel_left h) hlength).1

/-- The name can be told from the message about it. -/
theorem Finding.name_eq_of_message {name other : Text}
    (h : (indexShaped name).message = (indexShaped other).message) : name = other :=
  Text.eq_of_append_twice h

namespace Rule

variable {caseSensitive : Bool} {selector : Text} {chain : Chain}

/-- What is reported about a level of a compiled chain are the names in its bracketed texts that
look like an index. -/
theorem about_report_indexShapedAttribute {segments : List Segment}
    (h : Chain.compile caseSensitive selector = .ok chain)
    (hcut : Chain.cut selector = .ok segments) {position : Nat} {segment : Segment}
    (hsegment : segments[position]? = some segment) :
    Diagnostic.about position (indexShapedAttribute.report chain) =
      segment.indexNames.map fun name => (Finding.indexShaped name).diagnostic position := by
  rw [Chain.compile_eq_ok_iff, Chain.parse_of_cut_ok hcut] at h
  obtain ⟨level, hlevel, hread⟩ := exists_getElem?_of_forall₂ (mapM_eq_ok_iff.mp h) hsegment
  rw [about_report _ hlevel, ← Level.map_name_filter_eq hread]
  simp only [atLevel, List.map_map]
  rfl

/-- Each name that looks like an index is reported with the position of its segment, and nothing
else is. -/
theorem mem_report_indexShapedAttribute_iff {segments : List Segment}
    (h : Chain.compile caseSensitive selector = .ok chain)
    (hcut : Chain.cut selector = .ok segments) {d : Diagnostic} :
    d ∈ indexShapedAttribute.report chain ↔
      ∃ (position : Nat) (segment : Segment), segments[position]? = some segment ∧
        ∃ name ∈ segment.indexNames, d = (Finding.indexShaped name).diagnostic position := by
  constructor
  · intro hd
    obtain ⟨position, level, hlevel, hposition⟩ := exists_level_of_mem_report hd
    have hread := Chain.compile_eq_ok_iff.mp h
    rw [Chain.parse_of_cut_ok hcut] at hread
    obtain ⟨segment, hsegment, -⟩ :=
      exists_getElem?_of_forall₂ (mapM_eq_ok_iff.mp hread).flip hlevel
    have habout : d ∈ Diagnostic.about position (indexShapedAttribute.report chain) :=
      Diagnostic.mem_about_iff.mpr ⟨hd, hposition⟩
    rw [about_report_indexShapedAttribute h hcut hsegment, List.mem_map] at habout
    obtain ⟨name, hname, hfound⟩ := habout
    exact ⟨position, segment, hsegment, name, hname, hfound.symm⟩
  · rintro ⟨position, segment, hsegment, name, hname, rfl⟩
    have habout := List.mem_map_of_mem
      (f := fun name => (Finding.indexShaped name).diagnostic position) hname
    rw [← about_report_indexShapedAttribute h hcut hsegment] at habout
    exact (Diagnostic.mem_about_iff.mp habout).1

/-- **No failed index goes unnoticed.** Take a bracketed text of a selector that compiles, and let
it look like an index, blanks around it aside, without being one. Then the rule reports it at its
level, with a message that names what it is without these blanks. A level has at least as many
diagnostics as it has such bracketed texts. -/
theorem check_indexShapedAttribute_complete (h : Chain.compile caseSensitive selector = .ok chain) :
    ∃ segments report, Chain.cut selector = .ok segments ∧ segments.length = chain.length ∧
      indexShapedAttribute.check chain = .ok report ∧
      ∀ (position : Nat) (segment : Segment), segments[position]? = some segment →
        (∀ body ∈ segment.bodies, Index.Failed body →
          ∃ d ∈ report, d.level = some (position : Int) ∧
            d.message = "Modifier [".toList ++ Text.trim body ++
              "] is not a valid index and was read as a test for an attribute named '".toList ++
              Text.trim body ++ "'.".toList) ∧
        (segment.bodies.filter Index.Failed).length ≤
          (Diagnostic.about position report).length := by
  obtain ⟨segments, hcut, hread⟩ := Chain.parse_eq_ok_iff.mp (Chain.compile_eq_ok_iff.mp h)
  refine ⟨segments, _, hcut, (mapM_eq_ok_iff.mp hread).length_eq, check_of_ne (by decide) chain,
    fun position segment hsegment => ?_⟩
  have hnames := segment.failed_sublist_indexNames
  refine ⟨fun body hbody hfailed => ?_, ?_⟩
  · have hname : Text.trim body ∈ segment.indexNames :=
      hnames.subset (List.mem_map_of_mem (List.mem_filter.mpr ⟨hbody, decide_eq_true hfailed⟩))
    exact ⟨_, (mem_report_indexShapedAttribute_iff h hcut).mpr
      ⟨position, segment, hsegment, _, hname, rfl⟩, rfl, rfl⟩
  · rw [about_report_indexShapedAttribute h hcut hsegment, List.length_map]
    exact List.length_map Text.trim ▸ hnames.length_le

/-- Two bracketed texts of the first level of `/x[> 99999999999 ][-3000000000]/y[ <3]` are out of
range, and the sign of comparison in the second level stands behind a blank. -/
theorem check_indexShapedAttribute_complete_bounds :
    ∃ chain report,
      Chain.compile true "/x[> 99999999999 ][-3000000000]/y[ <3]".toList = .ok chain ∧
        indexShapedAttribute.check chain = .ok report ∧
        (∃ d ∈ report, d.level = some 0 ∧
          d.message = "Modifier [> 99999999999] is not a valid index and was ".toList ++
            "read as a test for an attribute named '> 99999999999'.".toList) ∧
        (∃ d ∈ report, d.level = some 1 ∧
          d.message = "Modifier [<3] is not a valid index and was ".toList ++
            "read as a test for an attribute named '<3'.".toList) ∧
        2 ≤ (Diagnostic.about 0 report).length := by
  let first : Level :=
    { caseSensitive := true
      target := .element ['x']
      conditions :=
        [⟨"> 99999999999".toList, .present, none⟩, ⟨"-3000000000".toList, .present, none⟩] }
  let second : Level :=
    { caseSensitive := true
      target := .element ['y']
      conditions := [⟨"<3".toList, .present, none⟩] }
  have hcompile : Chain.compile true "/x[> 99999999999 ][-3000000000]/y[ <3]".toList =
      .ok [first, second] := by decide +kernel
  have hsegments : Chain.cut "/x[> 99999999999 ][-3000000000]/y[ <3]".toList =
      .ok [⟨['/'], ['x'], ["> 99999999999 ".toList, "-3000000000".toList]⟩,
        ⟨['/'], ['y'], [" <3".toList]⟩] := by decide +kernel
  obtain ⟨segments, report, hcut, -, hcheck, hlevels⟩ :=
    check_indexShapedAttribute_complete hcompile
  obtain rfl := Except.ok.inj (hsegments.symm.trans hcut)
  obtain ⟨hfirst, hcount⟩ := hlevels 0 _ rfl
  obtain ⟨hsecond, -⟩ := hlevels 1 _ rfl
  refine ⟨[first, second], report, hcompile, hcheck, ?_, ?_, ?_⟩
  · obtain ⟨d, hd, hlevel, hmessage⟩ :=
      hfirst "> 99999999999 ".toList (by simp) (by decide +kernel)
    exact ⟨d, hd, hlevel, hmessage.trans (by decide +kernel)⟩
  · obtain ⟨d, hd, hlevel, hmessage⟩ := hsecond " <3".toList (by simp) (by decide +kernel)
    exact ⟨d, hd, hlevel, hmessage.trans (by decide +kernel)⟩
  · exact le_trans (by decide +kernel) hcount

/-! ### Names that are reported and are an index -/

/-- **When reports about names that look like an index are right.** A report says of a name that it
is no index. For a selector that compiles, this is so of all names reported exactly when the
numerals among the names in its bracketed texts, those texts apart that are an index, are out of
range and short enough to tell. Every name reported stands in such a bracketed text, and it is no
index if it is all of that text, without the sign of an attribute and without blanks in front of a
sign of comparison. -/
theorem check_indexShapedAttribute_right_iff
    (h : Chain.compile caseSensitive selector = .ok chain) :
    ∃ segments report, Chain.cut selector = .ok segments ∧
      indexShapedAttribute.check chain = .ok report ∧
      ((∀ d ∈ report, ∀ name, d.message = (Finding.indexShaped name).message →
          Index.parse? name = .ok none) ↔
        ∀ segment ∈ segments, ∀ body ∈ segment.bodies, Index.parse? body = .ok none →
          ∀ atom ∈ Condition.atoms body, ∀ kind numeral,
            Index.Spells kind numeral (Condition.bareName (Text.trim atom)) →
              numeral.digits.length ≤ Numeral.digitLimit ∧
                ¬ (Index.least ≤ numeral.toInt ∧ numeral.toInt ≤ Index.greatest)) ∧
      ∀ d ∈ report, ∃ (position : Nat) (segment : Segment) (body atom : Text),
        segments[position]? = some segment ∧ body ∈ segment.bodies ∧
        Index.parse? body = .ok none ∧ atom ∈ Condition.atoms body ∧
        d = (Finding.indexShaped (Condition.bareName (Text.trim atom))).diagnostic position ∧
        (Condition.IsWhole body atom →
          Index.parse? (Condition.bareName (Text.trim atom)) = .ok none) := by
  obtain ⟨segments, hcut, -⟩ := Chain.parse_eq_ok_iff.mp (Chain.compile_eq_ok_iff.mp h)
  refine ⟨segments, _, hcut, check_of_ne (by decide) chain, ?_, fun d hd => ?_⟩
  · simp only [← Segment.indexNames_out_of_range_iff]
    constructor
    · intro hright segment hsegment name hname
      obtain ⟨position, hposition⟩ := List.mem_iff_getElem?.mp hsegment
      exact hright _ ((mem_report_indexShapedAttribute_iff h hcut).mpr
        ⟨position, segment, hposition, name, hname, rfl⟩) name rfl
    · intro hnames d hd name hmessage
      obtain ⟨position, segment, hposition, other, hother, rfl⟩ :=
        (mem_report_indexShapedAttribute_iff h hcut).mp hd
      rw [← Finding.name_eq_of_message hmessage]
      exact hnames segment (List.mem_of_getElem? hposition) other hother
  · obtain ⟨position, segment, hposition, name, hname, rfl⟩ :=
      (mem_report_indexShapedAttribute_iff h hcut).mp hd
    obtain ⟨body, hbody, hindex, ⟨atom, hatom, rfl⟩, hresembles⟩ :=
      Segment.mem_indexNames_iff.mp hname
    exact ⟨position, segment, body, atom, hposition, hbody, hindex, hatom, rfl,
      fun hwhole => hwhole.parse?_eq_none hindex hresembles⟩

/-- The first name that `/x[3 and @b]` tests the presence of is an index and is reported to be none,
so a numeral among its names is in range. -/
theorem check_indexShapedAttribute_right_iff_joined :
    let level : Level :=
      { caseSensitive := true
        target := .element ['x']
        conditions := [⟨['3'], .present, none⟩, ⟨['b'], .present, none⟩] }
    Chain.compile true "/x[3 and @b]".toList = .ok [level] ∧
      ∃ segments, Chain.cut "/x[3 and @b]".toList = .ok segments ∧
        ¬ ∀ segment ∈ segments, ∀ body ∈ segment.bodies, Index.parse? body = .ok none →
          ∀ atom ∈ Condition.atoms body, ∀ kind numeral,
            Index.Spells kind numeral (Condition.bareName (Text.trim atom)) →
              numeral.digits.length ≤ Numeral.digitLimit ∧
                ¬ (Index.least ≤ numeral.toInt ∧ numeral.toInt ≤ Index.greatest) := by
  intro level
  have hcompile : Chain.compile true "/x[3 and @b]".toList = .ok [level] := by decide +kernel
  obtain ⟨segments, report, hcut, hcheck, hiff, -⟩ := check_indexShapedAttribute_right_iff hcompile
  obtain rfl : [(Finding.indexShaped ['3']).diagnostic 0] = report := Except.ok.inj hcheck
  refine ⟨hcompile, segments, hcut, mt hiff.mpr fun hright => ?_⟩
  exact absurd (hright _ (List.mem_singleton_self _) ['3'] rfl) (by decide +kernel)

/-- The name that `/x[@3]` tests the presence of is reported not to be an index and is one. -/
theorem not_forall_indexShapedAttribute_right :
    ¬ ∀ (caseSensitive : Bool) (selector : Text) (chain : Chain) (report : List Diagnostic),
      Chain.compile caseSensitive selector = .ok chain →
        indexShapedAttribute.check chain = .ok report →
          ∀ d ∈ report, ∀ name, d.message = (Finding.indexShaped name).message →
            Index.parse? name = .ok none := by
  intro hall
  let level : Level :=
    { caseSensitive := true
      target := .element ['x']
      conditions := [⟨['3'], .present, none⟩] }
  have hcompile : Chain.compile true "/x[@3]".toList = .ok [level] := by decide +kernel
  have hright := hall true _ _ _ hcompile rfl ((Finding.indexShaped ['3']).diagnostic 0)
    (List.mem_singleton_self _) ['3'] rfl
  exact absurd hright (by decide +kernel)

end Rule

end PathSelector
