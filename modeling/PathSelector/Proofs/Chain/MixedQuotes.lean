import Mathlib.Tactic.TFAE
import PathSelector.Proofs.Chain.Writable
import PathSelector.Proofs.Level.Assembly

/-!
# Values that hold both kinds of quotes

A value that holds one kind of quotes at most is enclosed in the other when it is written. A
shorthand whose value holds both kinds is refused, but a value between brackets is only asked to
start and to end with the same quote. It may be several quoted texts in a row, and what stands
between the first quote and the last then holds that quote, and possibly the other. This is the only
way for a compiled chain to have a value that no quotes can enclose.

Main definitions:

* `Text.MixesQuotes`: a text holds both kinds of quotes;
* `Condition.WritesMixed`: a text compares with a value that does.

Main statements:

* `Condition.writesMixed_iff_of_parse`: such a text is read as a condition on such a value;
* `Level.writesMixed_iff_of_ofSegment`: a level has one exactly when its bracketed texts do;
* `Chain.values_enclosed_tfae`: which selectors compile to values that can all be enclosed.
-/

namespace PathSelector

/-- A text holds both kinds of quotes, so that neither can enclose it. -/
def Text.MixesQuotes (text : Text) : Prop := singleQuote ∈ text ∧ doubleQuote ∈ text

instance (text : Text) : Decidable (Text.MixesQuotes text) := inferInstanceAs (Decidable (_ ∧ _))

namespace Condition

/-- A text compares with a value that holds both kinds of quotes: what stands behind its first
equals sign starts and ends with the same quote, and both kinds occur between these two. -/
def WritesMixed (atom : Text) : Prop :=
  ∃ behind quote value, Text.after? '=' atom = some behind ∧ Text.isQuote quote = true ∧
    Text.trim behind = quote :: value ++ [quote] ∧ Text.MixesQuotes value

/-- A value is enclosed in quotes that it does not hold exactly when it does not hold both kinds. -/
theorem exists_enclose_eq_notMem_iff {value : Text} :
    (∃ quote, Text.isQuote quote = true ∧ quote ∉ value ∧
        enclose value = quote :: value ++ [quote]) ↔ ¬ Text.MixesQuotes value := by
  refine ⟨?_, exists_enclose_eq_notMem⟩
  rintro ⟨quote, hquote, hmem, -⟩ ⟨hsingle, hdouble⟩
  simp only [Text.isQuote, Bool.or_eq_true, beq_iff_eq] at hquote
  rcases hquote with rfl | rfl
  · exact hmem hsingle
  · exact hmem hdouble

/-- The value of a condition is what stands between quotes behind the first equals sign of its
text. -/
theorem value_eq_some_iff_of_parse {caseSensitive : Bool} {atom : Text} {c : Condition}
    (h : parse caseSensitive atom = .ok c) {value : Text} :
    c.value = some value ↔
      ∃ behind quote, Text.after? '=' atom = some behind ∧ Text.isQuote quote = true ∧
        Text.trim behind = quote :: value ++ [quote] := by
  have hafter := Text.map_trim_after?_trim (by decide : Text.isBlank '=' = false) atom
  obtain ⟨-, -, -, -, hvalue⟩ := parse_eq_ok_iff.mp h
  rw [Fragment.value_split, hafter] at hvalue
  rcases hvalue with ⟨hnone, hc⟩ | ⟨written, found, hsome, hunquote, hc⟩
  · rw [Option.map_eq_none_iff] at hnone
    simp [hc, hnone]
  · obtain ⟨behind, hbehind, rfl⟩ := Option.map_eq_some_iff.mp hsome
    rw [hc, ← hunquote, unquote?_eq_some_iff]
    simp [hbehind]

/-- A condition has a value with both kinds of quotes exactly when its text writes one. -/
theorem writesMixed_iff_of_parse {caseSensitive : Bool} {atom : Text} {c : Condition}
    (h : parse caseSensitive atom = .ok c) :
    (∃ value ∈ c.value, Text.MixesQuotes value) ↔ WritesMixed atom := by
  simp only [Option.mem_def, value_eq_some_iff_of_parse h, WritesMixed]
  constructor
  · rintro ⟨value, ⟨behind, quote, hbehind, hquote, htrim⟩, hmixes⟩
    exact ⟨behind, quote, value, hbehind, hquote, htrim, hmixes⟩
  · rintro ⟨behind, quote, value, hbehind, hquote, htrim, hmixes⟩
    exact ⟨value, ⟨behind, quote, hbehind, hquote, htrim⟩, hmixes⟩

end Condition

/-- No condition that a shorthand stands for has a value with both kinds of quotes. -/
theorem LevelName.not_mixesQuotes_of_split {name : Text} {parts : LevelName}
    (h : split name = .ok parts) :
    ∀ c ∈ parts.conditions, ∀ value ∈ c.value, ¬ Text.MixesQuotes value := by
  rcases conditions_of_split h with ⟨-, hnone⟩ | ⟨kind, path, value, -, -, -, -, hquotes, hone⟩
  · simp [hnone]
  · simp only [hone, List.forall_mem_singleton, Option.mem_def, Option.some.injEq, forall_eq']
    exact hquotes

/-- A level has a value with both kinds of quotes exactly when a bracketed text of it that is no
index writes one. -/
theorem Level.writesMixed_iff_of_ofSegment {caseSensitive : Bool} {segment : Segment}
    {level : Level} (h : ofSegment caseSensitive segment = .ok level) :
    (∃ c ∈ level.conditions, ∃ value ∈ c.value, Text.MixesQuotes value) ↔
      ∃ body ∈ segment.bodies, Index.parse? body = .ok none ∧
        ∃ atom ∈ Condition.atoms body, Condition.WritesMixed atom := by
  obtain ⟨-, -, -, parts, modifiers, hsplit, hbodies, -, -, -, hconditions⟩ :=
    ofSegment_eq_ok_iff.mp h
  rw [hconditions]
  constructor
  · rintro ⟨c, hc, value, hvalue, hmixes⟩
    rcases List.mem_append.mp hc with hc | hc
    · exact absurd hmixes (LevelName.not_mixesQuotes_of_split hsplit c hc value hvalue)
    · obtain ⟨body, hbody, hindex, atom, hatom, hparse⟩ :=
        Modifiers.exists_atom_of_mem_conditions hbodies hc
      exact ⟨body, hbody, hindex, atom, hatom,
        (Condition.writesMixed_iff_of_parse hparse).mp ⟨value, hvalue, hmixes⟩⟩
  · rintro ⟨body, hbody, hindex, atom, hatom, hwrites⟩
    obtain ⟨tests, htests, hsubset⟩ := Modifiers.exists_parseAll_of_mem hbodies hbody hindex
    obtain ⟨c, hc, hparse⟩ := exists_of_mem_left htests hatom
    exact ⟨c, List.mem_append_right _ (hsubset hc),
      (Condition.writesMixed_iff_of_parse hparse).mpr hwrites⟩

namespace Chain

/-- A compiled chain has a value with both kinds of quotes exactly when a bracketed text of the
selector that is no index writes one. -/
theorem writesMixed_iff_of_parse {caseSensitive : Bool} {selector : Text} {chain : Chain}
    (h : parse caseSensitive selector = .ok chain) :
    (∃ level ∈ chain, ∃ c ∈ level.conditions, ∃ value ∈ c.value, Text.MixesQuotes value) ↔
      ∃ segments, cut selector = .ok segments ∧ ∃ segment ∈ segments, ∃ body ∈ segment.bodies,
        Index.parse? body = .ok none ∧
          ∃ atom ∈ Condition.atoms body, Condition.WritesMixed atom := by
  obtain ⟨segments, hcut, hsegments⟩ := parse_eq_ok_iff.mp h
  have hlevels := mapM_eq_ok_iff.mp hsegments
  constructor
  · rintro ⟨level, hlevel, hmixes⟩
    obtain ⟨segment, hsegment, hread⟩ := exists_of_mem_right hlevels hlevel
    exact ⟨segments, hcut, segment, hsegment, (Level.writesMixed_iff_of_ofSegment hread).mp hmixes⟩
  · rintro ⟨others, hothers, segment, hsegment, hwrites⟩
    obtain rfl := Except.ok.inj (hcut.symm.trans hothers)
    obtain ⟨level, hlevel, hread⟩ := exists_of_mem_left hlevels hsegment
    exact ⟨level, hlevel, (Level.writesMixed_iff_of_ofSegment hread).mpr hwrites⟩

/-- **The values that can be enclosed.** For a selector that compiles it is the same to say that no
value of its chain holds both kinds of quotes, that every value is enclosed in quotes that it does
not hold, and that no bracketed text of the selector that is read as conditions writes a value with
both kinds of quotes. -/
theorem values_enclosed_tfae {caseSensitive : Bool} {selector : Text} {chain : Chain}
    (h : compile caseSensitive selector = .ok chain) :
    List.TFAE [
      ∀ level ∈ chain, ∀ c ∈ level.conditions, ∀ value ∈ c.value, ¬ Text.MixesQuotes value,
      ∀ level ∈ chain, ∀ c ∈ level.conditions, ∀ value ∈ c.value,
        ∃ quote, Text.isQuote quote = true ∧ quote ∉ value ∧
          Condition.enclose value = quote :: value ++ [quote],
      ∀ segments, cut selector = .ok segments → ∀ segment ∈ segments, ∀ body ∈ segment.bodies,
        Index.parse? body = .ok none →
          ∀ atom ∈ Condition.atoms body, ¬ Condition.WritesMixed atom] := by
  tfae_have 1 ↔ 2 := by
    simp only [Condition.exists_enclose_eq_notMem_iff]
  tfae_have 1 ↔ 3 := by
    have hmixed := not_congr (writesMixed_iff_of_parse (compile_eq_ok_iff.mp h))
    push Not at hmixed
    exact hmixed
  tfae_finish

/-- The value of `/a[@b='"''']` holds both kinds of quotes, so a bracketed text of it writes one
that does. -/
theorem values_enclosed_tfae_quotes :
    let chain : Chain :=
      [{ caseSensitive := true
         target := .element "a".toList
         conditions := [⟨"b".toList, .equals, some "\"''".toList⟩] }]
    compile true "/a[@b='\"''']".toList = .ok chain ∧
      ¬ (∀ segments, cut "/a[@b='\"''']".toList = .ok segments → ∀ segment ∈ segments,
        ∀ body ∈ segment.bodies, Index.parse? body = .ok none →
          ∀ atom ∈ Condition.atoms body, ¬ Condition.WritesMixed atom) := by
  intro chain
  have h : compile true "/a[@b='\"''']".toList = .ok chain := by decide +kernel
  refine ⟨h, mt ((values_enclosed_tfae h).out 0 2).mpr ?_⟩
  decide +kernel

/-- Not every value of a compiled chain can be enclosed in quotes. -/
theorem not_forall_values_enclosed :
    ¬ ∀ (caseSensitive : Bool) (selector : Text) (chain : Chain),
      compile caseSensitive selector = .ok chain →
        ∀ level ∈ chain, ∀ c ∈ level.conditions, ∀ value ∈ c.value,
          ¬ (Text.singleQuote ∈ value ∧ Text.doubleQuote ∈ value) := by
  intro hall
  let level : Level :=
    { caseSensitive := true
      target := .element "a".toList
      conditions := [⟨"b".toList, .equals, some "\"''".toList⟩] }
  have h : compile true "/a[@b='\"''']".toList = .ok [level] := by decide +kernel
  exact hall true _ _ h level (by simp) _ (List.mem_singleton_self _) "\"''".toList rfl (by decide)

end Chain

end PathSelector
