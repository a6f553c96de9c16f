import Mathlib.Tactic.IntervalCases
import PathSelector.Index.Parser
import PathSelector.Proofs.Text.Lower
import PathSelector.Proofs.Text.Trim

/-!
# Reading back an index

A number in decimal is a numeral of the same value, short enough to be valued when it fits an
index, so what stands between the brackets of a written index is read as that index. A text that
opens like a condition is no index.

Main definition: `Index.WellFormed`, the numbers that an index read from a text can hold.

Main statements:

* `Index.number?_decimal`: a number in range is read back from its decimal writing;
* `Index.parse?_body`: an index is read back from what stands between its brackets;
* `Index.parse?_of_head`: what opens with the sign of an attribute or of absence is no index;
* `Index.wellFormed_of_parse?`: an index that is read is well formed.
-/

namespace PathSelector

namespace Text

/-! ### Decimal writing -/

/-- The digits, smallest first. -/
def digits : Text := "0123456789".toList

theorem mem_digits_of_isDigit {c : Char} (h : c.isDigit = true) : c ∈ digits := by
  have hrange : 48 ≤ c.toNat ∧ c.toNat ≤ 57 := by
    simpa [Char.isDigit, UInt32.le_iff_toNat_le] using h
  obtain ⟨hlow, hhigh⟩ := hrange
  have hc : c = Char.ofNat c.toNat := (Char.ofNat_toNat c).symm
  generalize c.toNat = code at hlow hhigh hc
  subst hc
  interval_cases code <;> decide

/-- A number in decimal is made of digits and the minus sign. -/
theorem mem_of_mem_decimal {value : Int} {c : Char} (h : c ∈ decimal value) :
    c ∈ '-' :: digits := by
  have hdigit : ∀ {n : Nat}, c ∈ Nat.toDigits 10 n → c ∈ digits :=
    fun h => mem_digits_of_isDigit (Nat.isDigit_of_mem_toDigits (by decide) (by decide) h)
  cases value with
  | ofNat n => exact List.mem_cons_of_mem _ (hdigit h)
  | negSucc n =>
    rcases List.mem_cons.mp h with rfl | h
    · exact List.mem_cons_self
    · exact List.mem_cons_of_mem _ (hdigit h)

theorem isBlank_of_mem_decimal {value : Int} {c : Char} (h : c ∈ decimal value) :
    isBlank c = false := by
  have hall : ∀ d ∈ '-' :: digits, isBlank d = false := by decide
  exact hall c (mem_of_mem_decimal h)

theorem decimal_ne_nil (value : Int) : decimal value ≠ [] := by
  cases value with
  | ofNat n => exact Nat.toDigits_ne_nil
  | negSucc n => exact List.cons_ne_nil _ _

theorem trim_decimal (value : Int) : trim (decimal value) = decimal value :=
  trim_eq_self (fun _ h => isBlank_of_mem_decimal (List.mem_of_head? h))
    fun _ h => isBlank_of_mem_decimal (List.mem_of_getLast? h)

end Text

namespace Numeral

theorem ofDigits?_toDigits (negative : Bool) (n : Nat) :
    ofDigits? negative (Nat.toDigits 10 n) = some ⟨negative, Nat.toDigits 10 n⟩ := by
  have hall : (Nat.toDigits 10 n).all Char.isDigit = true :=
    List.all_eq_true.mpr fun _ => Nat.isDigit_of_mem_toDigits (by decide) (by decide)
  rw [ofDigits?, if_pos ⟨Nat.toDigits_ne_nil, hall⟩]

/-- A text that opens with neither sign is a numeral when it is one or more digits. -/
theorem read?_of_head {c : Char} (hplus : c ≠ '+') (hminus : c ≠ '-') (rest : Text) :
    read? (c :: rest) = ofDigits? false (c :: rest) := by
  unfold read?
  split
  · next heq => exact absurd (List.cons.inj heq).1 hplus
  · next heq => exact absurd (List.cons.inj heq).1 hminus
  · rfl

/-- A number in decimal is a numeral of the same value. -/
theorem exists_read?_decimal (value : Int) :
    ∃ numeral, read? (Text.decimal value) = some numeral ∧ numeral.toInt = value ∧
      numeral.digits = Nat.toDigits 10 value.natAbs := by
  cases value with
  | ofNat n =>
    refine ⟨⟨false, Nat.toDigits 10 n⟩, ?_, ?_, rfl⟩
    · obtain ⟨c, rest, hc⟩ := List.exists_cons_of_ne_nil (Nat.toDigits_ne_nil (n := n))
      have hmem : c ∈ Nat.toDigits 10 n := by rw [hc]; exact List.mem_cons_self
      have hdigit := Nat.isDigit_of_mem_toDigits (by decide) (by decide) hmem
      have hplus : c ≠ '+' := by rintro rfl; exact absurd hdigit (by decide)
      have hminus : c ≠ '-' := by rintro rfl; exact absurd hdigit (by decide)
      rw [Text.decimal, hc, read?_of_head hplus hminus, ← hc, ofDigits?_toDigits]
    · simp [toInt, magnitude, Nat.ofDigitChars_toDigits]
  | negSucc n =>
    refine ⟨⟨true, Nat.toDigits 10 (n + 1)⟩, ofDigits?_toDigits true (n + 1), ?_, rfl⟩
    simp only [toInt, magnitude, Nat.ofDigitChars_ten_toDigits, if_true]
    exact (Int.negSucc_eq n).symm

end Numeral

namespace Index

/-- The numbers that an index read from a text can hold. -/
def WellFormed (index : Index) : Prop :=
  match index.kind with
  | .even | .odd => index.value = -1
  | _ => least ≤ index.value ∧ index.value ≤ greatest

/-- A number in range is read back from its decimal writing. -/
theorem number?_decimal {value : Int} (h : least ≤ value ∧ value ≤ greatest) :
    number? (Text.decimal value) = .ok (some value) := by
  obtain ⟨numeral, hread, hvalue, hdigits⟩ := Numeral.exists_read?_decimal value
  have hlength : numeral.digits.length ≤ Numeral.digitLimit := by
    have hshort : (Nat.toDigits 10 value.natAbs).length ≤ 10 := by
      refine (Nat.length_toDigits_le_iff (by decide) (by decide)).mpr ?_
      simp only [least, greatest] at h
      omega
    rw [hdigits, Numeral.digitLimit]
    omega
  rw [number?, Text.trim_decimal, hread]
  simp only [Numeral.value, if_pos hlength, hvalue, if_pos h]

/-- The word for the odd positions is the small form of the texts that differ from it in the case of
the basic alphabet only. -/
theorem lower_eq_oddWord_iff {body : Text} :
    Text.lower body = oddWord ↔ body.map Char.toLower = oddWord :=
  Text.lower_eq_iff (by decide)

/-- The word for the even positions is the small form of the texts that differ from it in the case
of the basic alphabet only. -/
theorem lower_eq_evenWord_iff {body : Text} :
    Text.lower body = evenWord ↔ body.map Char.toLower = evenWord :=
  Text.lower_eq_iff (by decide)

/-- A text is read as a number when it does not open with a letter of a parity or a sign of
comparison. -/
theorem parse?_cons {c : Char} {rest : Text} (hodd : c.toLower ≠ 'o') (heven : c.toLower ≠ 'e')
    (hmore : c ≠ '>') (hless : c ≠ '<') :
    parse? (c :: rest) = numbered? .exactly (c :: rest) := by
  have hoddWord : Text.lower (c :: rest) ≠ oddWord :=
    fun heq => hodd (List.cons.inj (lower_eq_oddWord_iff.mp heq)).1
  have hevenWord : Text.lower (c :: rest) ≠ evenWord :=
    fun heq => heven (List.cons.inj (lower_eq_evenWord_iff.mp heq)).1
  unfold parse?
  simp only
  rw [if_neg hoddWord, if_neg hevenWord]
  split
  · next heq => exact absurd (List.cons.inj heq).1 hmore
  · next heq => exact absurd (List.cons.inj heq).1 hless
  · rfl

/-- An index is read back from what stands between its brackets. -/
theorem parse?_body {index : Index} (h : index.WellFormed) :
    parse? index.body = .ok (some index) := by
  obtain ⟨kind, value⟩ := index
  cases kind with
  | exactly =>
    obtain ⟨c, rest, hdecimal⟩ := List.exists_cons_of_ne_nil (Text.decimal_ne_nil value)
    have hc : c ∈ '-' :: Text.digits :=
      Text.mem_of_mem_decimal (by rw [hdecimal]; exact List.mem_cons_self)
    have hall : ∀ d ∈ '-' :: Text.digits,
        d.toLower ≠ 'o' ∧ d.toLower ≠ 'e' ∧ d ≠ '>' ∧ d ≠ '<' := by decide
    obtain ⟨hodd, heven, hmore, hless⟩ := hall c hc
    rw [body, hdecimal, parse?_cons hodd heven hmore hless, ← hdecimal, numbered?,
      number?_decimal h]
    rfl
  | lessThan =>
    have hread : parse? ('<' :: Text.decimal value) = numbered? .lessThan (Text.decimal value) :=
      rfl
    rw [body, hread, numbered?, number?_decimal h]
    rfl
  | moreThan =>
    have hread : parse? ('>' :: Text.decimal value) = numbered? .moreThan (Text.decimal value) :=
      rfl
    rw [body, hread, numbered?, number?_decimal h]
    rfl
  | even =>
    obtain rfl : value = -1 := h
    rfl
  | odd =>
    obtain rfl : value = -1 := h
    rfl

/-- What stands between the brackets of an index is neither quoted nor bracketed itself. -/
theorem plain_of_mem_body {index : Index} {c : Char} (h : c ∈ index.body) :
    Text.isQuote c = false ∧ c ≠ ']' := by
  obtain ⟨kind, value⟩ := index
  have hdecimal : ∀ d ∈ Text.decimal value, Text.isQuote d = false ∧ d ≠ ']' := by
    intro d hd
    have hall : ∀ d ∈ '-' :: Text.digits, Text.isQuote d = false ∧ d ≠ ']' := by decide
    exact hall d (Text.mem_of_mem_decimal hd)
  have hwords : ∀ d ∈ evenWord ++ oddWord, Text.isQuote d = false ∧ d ≠ ']' := by decide
  cases kind with
  | exactly => exact hdecimal c h
  | lessThan =>
    rcases List.mem_cons.mp h with rfl | h
    · decide
    · exact hdecimal c h
  | moreThan =>
    rcases List.mem_cons.mp h with rfl | h
    · decide
    · exact hdecimal c h
  | even => exact hwords c (List.mem_append_left _ h)
  | odd => exact hwords c (List.mem_append_right _ h)

theorem body_ne_nil (index : Index) : index.body ≠ [] := by
  obtain ⟨kind, value⟩ := index
  cases kind with
  | exactly => exact Text.decimal_ne_nil value
  | lessThan => exact List.cons_ne_nil _ _
  | moreThan => exact List.cons_ne_nil _ _
  | even => exact List.cons_ne_nil _ _
  | odd => exact List.cons_ne_nil _ _

/-- What opens with the sign of an attribute or of absence is no index. -/
theorem parse?_of_head {text : Text} {c : Char} (h : text.head? = some c)
    (hc : c = '@' ∨ c = '!') : parse? text = .ok none := by
  obtain ⟨rest, rfl⟩ : ∃ rest, text = c :: rest := List.head?_eq_some_iff.mp h
  have hsign : c.toLower ≠ 'o' ∧ c.toLower ≠ 'e' ∧ c ≠ '>' ∧ c ≠ '<' ∧ c ≠ '+' ∧ c ≠ '-' ∧
      c.isDigit = false ∧ Text.isBlank c = false := by
    rcases hc with rfl | rfl <;> decide
  obtain ⟨hodd, heven, hmore, hless, hplus, hminus, hdigit, hblank⟩ := hsign
  obtain ⟨trimmed, htrim⟩ : ∃ trimmed, Text.trim (c :: rest) = c :: trimmed :=
    List.head?_eq_some_iff.mp (Text.head?_trim rfl hblank)
  have hread : Numeral.read? (Text.trim (c :: rest)) = none := by
    rw [htrim, Numeral.read?_of_head hplus hminus, Numeral.ofDigits?, if_neg]
    simp [hdigit]
  rw [parse?_cons hodd heven hmore hless, numbered?, number?, hread]
  rfl

/-- A number that is read is in range. -/
theorem range_of_number? {text : Text} {value : Int} (h : number? text = .ok (some value)) :
    least ≤ value ∧ value ≤ greatest := by
  unfold number? at h
  split at h
  · cases h
  · split at h
    · cases h
    · next found _ =>
      have hfound := Except.ok.inj h
      split at hfound
      · next hrange =>
        obtain rfl := Option.some.inj hfound
        exact hrange
      · cases hfound

theorem wellFormed_of_numbered? {kind : IndexKind} {text : Text} {index : Index}
    (heven : kind ≠ .even) (hodd : kind ≠ .odd) (h : numbered? kind text = .ok (some index)) :
    index.WellFormed := by
  unfold numbered? at h
  cases hnumber : number? text with
  | error limit =>
    rw [hnumber] at h
    cases h
  | ok found =>
    rw [hnumber] at h
    obtain ⟨value, rfl, rfl⟩ := Option.map_eq_some_iff.mp (Except.ok.inj h)
    have hrange := range_of_number? hnumber
    cases kind with
    | even => exact absurd rfl heven
    | odd => exact absurd rfl hodd
    | exactly => exact hrange
    | lessThan => exact hrange
    | moreThan => exact hrange

/-- An index that is read holds a number that an index can hold. -/
theorem wellFormed_of_parse? {body : Text} {index : Index} (h : parse? body = .ok (some index)) :
    index.WellFormed := by
  unfold parse? at h
  simp only at h
  split at h
  · obtain rfl := Option.some.inj (Except.ok.inj h)
    rfl
  · split at h
    · obtain rfl := Option.some.inj (Except.ok.inj h)
      rfl
    · split at h <;> refine wellFormed_of_numbered? ?_ ?_ h <;> decide

end Index

end PathSelector
