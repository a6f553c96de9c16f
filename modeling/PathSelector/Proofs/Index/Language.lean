import Mathlib.Data.Nat.Digits.Defs
import PathSelector.Proofs.Index.Numeral

/-!
# The language of indexes

A bracketed text is an index in one of three ways: it is the word for a parity in any case of the
basic alphabet, or it is a numeral in the range of 32 bits with blanks around it, alone or behind a
sign of comparison. What is read is the parity, or the kind that the sign writes with the number
that the digits stand for in decimal notation. Every other text is no index. Letters outside the
basic alphabet never make up a parity, although some of them have small forms in it.

Main definitions:

* `Numeral.positional`: the integer that a numeral stands for, its digits weighted by powers of ten;
* `Index.Denotes`: a bracketed text is an index in one of the three ways.

Main statements:

* `Index.parse?_of_denotes`, `Index.denotes_of_parse?`: the two directions, the first for texts
  that are not overlong;
* `Index.parse?_iff_denotes`: both, with the texts that are no index and the texts that write one.
-/

namespace PathSelector

/-- The number a digit character stands for. -/
def Text.digitValue (c : Char) : Nat := c.toNat - '0'.toNat

namespace Numeral

/-- The integer that a numeral stands for: its digits weighted by powers of ten, with its sign. -/
def positional (n : Numeral) : Int :=
  (if n.negative then -1 else 1) * (Nat.ofDigits 10 (n.digits.reverse.map Text.digitValue) : ℕ)

/-- Adding up from the most significant digit gives the weighted sum. -/
theorem magnitude_eq_ofDigits (n : Numeral) :
    n.magnitude = Nat.ofDigits 10 (n.digits.reverse.map Text.digitValue) := by
  rw [magnitude, Nat.ofDigitChars_eq_foldl, Nat.ofDigits_eq_foldr, List.foldr_map,
    List.foldr_reverse]
  refine List.foldl_ext _ _ 0 fun value c _ => ?_
  rw [Nat.cast_id, Nat.add_comm, Text.digitValue]

theorem toInt_eq_positional (n : Numeral) : n.toInt = n.positional := by
  unfold toInt positional
  rw [magnitude_eq_ofDigits]
  split <;> simp

end Numeral

namespace Index

/-- The bracketed text is the index: a parity in any case of the basic alphabet, or a numeral in the
range of 32 bits behind the sign of a kind of index. -/
inductive Denotes (body : Text) : Index → Prop
  | odd (h : body.map Char.toLower = "odd()".toList) : Denotes body ⟨.odd, -1⟩
  | even (h : body.map Char.toLower = "even()".toList) : Denotes body ⟨.even, -1⟩
  | numbered {kind : IndexKind} {numeral : Numeral} (h : Spells kind numeral body)
      (hrange : -2 ^ 31 ≤ numeral.positional ∧ numeral.positional ≤ 2 ^ 31 - 1) :
      Denotes body ⟨kind, numeral.positional⟩

theorem range_iff {value : Int} :
    -2 ^ 31 ≤ value ∧ value ≤ 2 ^ 31 - 1 ↔ least ≤ value ∧ value ≤ greatest := by
  unfold least greatest
  norm_num

/-- A text that is not overlong is read as the index that it is. -/
theorem parse?_of_denotes {body : Text} {index : Index} (hshort : ¬ Overlong body)
    (h : Denotes body index) : parse? body = .ok (some index) := by
  cases h with
  | odd h =>
    unfold parse?
    simp only [lower_eq_oddWord_iff.mpr h, if_true]
  | even h =>
    have hodd : evenWord ≠ oddWord := by decide
    unfold parse?
    simp only [lower_eq_evenWord_iff.mpr h, if_neg hodd, if_true]
  | @numbered kind numeral h hrange =>
    have hle : numeral.digits.length ≤ Numeral.digitLimit :=
      Nat.le_of_not_lt fun hlong => hshort ⟨kind, numeral, h, hlong⟩
    rw [range_iff, ← Numeral.toInt_eq_positional] at hrange
    rw [parse?_of_spells h, Numeral.value, if_pos hle, Except.map, if_pos hrange,
      Numeral.toInt_eq_positional]

/-- What it takes for a text to be read as the number of an index. -/
theorem exists_numeral_of_numbered? {kind : IndexKind} {text : Text} {index : Index}
    (h : numbered? kind text = .ok (some index)) :
    ∃ numeral, Numeral.read? (Text.trim text) = some numeral ∧ index = ⟨kind, numeral.toInt⟩ ∧
      least ≤ numeral.toInt ∧ numeral.toInt ≤ greatest := by
  cases hread : Numeral.read? (Text.trim text) with
  | none =>
    rw [numbered?, number?, hread] at h
    cases h
  | some numeral =>
    rw [numbered?_of_read? hread, Numeral.value] at h
    split at h
    · obtain ⟨hrange, hindex⟩ := Option.ite_none_right_eq_some.mp (Except.ok.inj h)
      exact ⟨numeral, rfl, (Option.some.inj hindex).symm, hrange⟩
    · cases h

/-- A text that is read as an index is that index. -/
theorem denotes_of_parse? {body : Text} {index : Index} (h : parse? body = .ok (some index)) :
    Denotes body index := by
  rcases parse?_cases body with ⟨hword, hodd⟩ | ⟨hword, heven⟩ | ⟨kind, text, hkind, hbody, hparse⟩
  · obtain rfl := Option.some.inj (Except.ok.inj (hodd.symm.trans h))
    exact .odd (lower_eq_oddWord_iff.mp hword)
  · obtain rfl := Option.some.inj (Except.ok.inj (heven.symm.trans h))
    exact .even (lower_eq_evenWord_iff.mp hword)
  · obtain ⟨numeral, hread, rfl, hrange⟩ := exists_numeral_of_numbered? (hparse.symm.trans h)
    obtain ⟨front, written, back, hfront, hback, hwritten, rfl⟩ :=
      Numeral.read?_trim_eq_some_iff.mp hread
    rw [Numeral.toInt_eq_positional] at hrange ⊢
    exact .numbered ⟨hkind, front, written, back, hfront, hback, hwritten, hbody⟩
      (range_iff.mpr hrange)

/-- **The language of indexes.** A bracketed text that is not overlong is read as an index exactly
when it is that index, and as none exactly when it is none. An index that can be read is read from
its own writing between the brackets. -/
theorem parse?_iff_denotes :
    (∀ body, ¬ Overlong body →
      (∀ index, parse? body = .ok (some index) ↔ Denotes body index) ∧
        (parse? body = .ok none ↔ ∀ index, ¬ Denotes body index)) ∧
    ∀ index : Index, index.WellFormed → parse? index.render.tail.dropLast = .ok (some index) := by
  refine ⟨fun body hshort => ?_, fun index hindex => ?_⟩
  · have hread : ∀ index, parse? body = .ok (some index) ↔ Denotes body index :=
      fun index => ⟨denotes_of_parse?, parse?_of_denotes hshort⟩
    obtain ⟨found, hfound⟩ := exists_parse?_eq_ok_iff.mpr hshort
    refine ⟨hread, ?_⟩
    simp only [← hread, hfound, Except.ok.injEq]
    cases found <;> simp
  · rw [render, List.cons_append, List.tail_cons, List.dropLast_concat]
    exact parse?_body hindex

/-- The least number behind a sign of comparison, with blanks around it and a leading zero, and the
greatest number read back. -/
theorem parse?_iff_denotes_limits :
    let body := "> -02147483648 ".toList
    let index : Index := ⟨.lessThan, 2147483647⟩
    ¬ Overlong body ∧ index.WellFormed ∧ Denotes body ⟨.moreThan, -2147483648⟩ ∧
      parse? index.render.tail.dropLast = .ok (some index) := by
  intro body index
  have hread : parse? body = .ok (some ⟨.moreThan, -2147483648⟩) := by decide +kernel
  have hshort : ¬ Overlong body := exists_parse?_eq_ok_iff.mp ⟨_, hread⟩
  have hindex : index.WellFormed := by constructor <;> decide
  obtain ⟨hlanguage, hback⟩ := parse?_iff_denotes
  exact ⟨hshort, hindex, ((hlanguage body hshort).1 _).mp hread, hback index hindex⟩

-- blanks may stand around a number but not around a parity, and only the ten basic digits count
example : parse? "oDD()".toList = .ok (some ⟨.odd, -1⟩) ∧ parse? " odd()".toList = .ok none ∧
    parse? " 3 ".toList = .ok (some ⟨.exactly, 3⟩) ∧ parse? "\u0663".toList = .ok none := by
  decide +kernel

end Index

end PathSelector
