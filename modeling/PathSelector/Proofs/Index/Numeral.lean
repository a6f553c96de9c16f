import PathSelector.Proofs.Index.Reading

/-!
# Numerals in an index

A bracketed text is read as a number when it is one or more digits with a sign or none, blanks
around them, and a sign of comparison or none in front. Such a text gives an index when its number
is in range and is no index otherwise, but only if its digits are few enough to be valued: reading
an index fails on the texts of too many digits and on no others.

Main definitions:

* `Numeral.Writes`: a text is the numeral with its sign;
* `Index.Spells`: a bracketed text is the numeral behind the sign of a kind of index;
* `Index.Overlong`: a bracketed text is a numeral of too many digits.

Main statements:

* `Numeral.read?_eq_some_iff`: a text is read as the numeral that it writes;
* `Index.parse?_of_spells`: what a numeral in brackets is read as;
* `Index.parse?_eq_error_iff`: reading an index fails exactly on the overlong texts.
-/

namespace PathSelector

namespace Numeral

/-! ### Written numerals -/

/-- The signs that may stand in front of the numeral. -/
def signs (numeral : Numeral) : List Text := if numeral.negative then [['-']] else [[], ['+']]

/-- The text is the numeral with its sign: one or more digits behind it. -/
structure Writes (numeral : Numeral) (text : Text) : Prop where
  digits_ne_nil : numeral.digits ≠ []
  isDigit : ∀ c ∈ numeral.digits, c.isDigit = true
  eq_append : ∃ sign ∈ numeral.signs, text = sign ++ numeral.digits

theorem ofDigits?_eq_some_iff {negative : Bool} {digits : Text} {numeral : Numeral} :
    ofDigits? negative digits = some numeral ↔
      digits ≠ [] ∧ (∀ c ∈ digits, c.isDigit = true) ∧ ⟨negative, digits⟩ = numeral := by
  simp only [ofDigits?, Option.ite_none_right_eq_some, List.all_eq_true, Option.some.injEq,
    and_assoc]

/-- A text is read as the numeral that it writes. -/
theorem read?_eq_some_iff {text : Text} {numeral : Numeral} :
    read? text = some numeral ↔ numeral.Writes text := by
  constructor
  · intro h
    unfold read? at h
    split at h
    · obtain ⟨hne, hdigits, rfl⟩ := ofDigits?_eq_some_iff.mp h
      exact ⟨hne, hdigits, ['+'], by simp [signs], rfl⟩
    · obtain ⟨hne, hdigits, rfl⟩ := ofDigits?_eq_some_iff.mp h
      exact ⟨hne, hdigits, ['-'], by simp [signs], rfl⟩
    · obtain ⟨hne, hdigits, rfl⟩ := ofDigits?_eq_some_iff.mp h
      exact ⟨hne, hdigits, [], by simp [signs], rfl⟩
  · rintro ⟨hne, hdigits, sign, hsign, rfl⟩
    obtain ⟨negative, digits⟩ := numeral
    have hread : ofDigits? negative digits = some ⟨negative, digits⟩ :=
      ofDigits?_eq_some_iff.mpr ⟨hne, hdigits, rfl⟩
    cases negative with
    | true =>
      obtain rfl : sign = ['-'] := by simpa [signs] using hsign
      exact hread
    | false =>
      have hcases : sign = [] ∨ sign = ['+'] := by simpa [signs] using hsign
      rcases hcases with rfl | rfl
      · -- the first digit is no sign
        obtain ⟨c, rest, rfl⟩ := List.exists_cons_of_ne_nil hne
        have hc := hdigits c List.mem_cons_self
        have hplus : c ≠ '+' := by
          rintro rfl
          exact absurd hc (by decide)
        have hminus : c ≠ '-' := by
          rintro rfl
          exact absurd hc (by decide)
        exact (read?_of_head hplus hminus rest).trans hread
      · exact hread

/-- A written numeral is made of signs and digits. -/
theorem Writes.mem_of_mem {numeral : Numeral} {text : Text} (h : numeral.Writes text) {c : Char}
    (hc : c ∈ text) : c ∈ '+' :: '-' :: Text.digits := by
  obtain ⟨-, hdigits, sign, hsign, rfl⟩ := h
  rcases List.mem_append.mp hc with hc | hc
  · have hsigns : ∀ sign ∈ numeral.signs, ∀ d ∈ sign, d ∈ '+' :: '-' :: Text.digits := by
      unfold signs
      split <;> decide
    exact hsigns sign hsign c hc
  · refine List.mem_cons_of_mem _ (List.mem_cons_of_mem _ ?_)
    exact Text.mem_digits_of_isDigit (hdigits c hc)

theorem Writes.tight {numeral : Numeral} {text : Text} (h : numeral.Writes text) :
    Text.Tight text := by
  have hall : ∀ c ∈ '+' :: '-' :: Text.digits, Text.isBlank c = false := by decide
  exact ⟨fun c hc => hall c (h.mem_of_mem (List.mem_of_mem_head? hc)),
    fun c hc => hall c (h.mem_of_mem (List.mem_of_getLast? hc))⟩

/-- Blanks around a written numeral do not matter. -/
theorem read?_trim_eq_some_iff {text : Text} {numeral : Numeral} :
    read? (Text.trim text) = some numeral ↔
      ∃ front written back, Text.Blank front ∧ Text.Blank back ∧ numeral.Writes written ∧
        text = front ++ written ++ back := by
  rw [read?_eq_some_iff]
  constructor
  · intro h
    obtain ⟨front, back, hfront, hback, heq⟩ := Text.exists_blank_append_trim text
    exact ⟨front, Text.trim text, back, hfront, hback, h, heq⟩
  · rintro ⟨front, written, back, hfront, hback, hwritten, rfl⟩
    rwa [Text.trim_blank_append hfront hwritten.tight hback]

theorem value_eq_error_iff {numeral : Numeral} {limit : DigitLimitExceeded} :
    numeral.value = .error limit ↔
      digitLimit < numeral.digits.length ∧ limit = ⟨numeral.digits.length⟩ := by
  unfold value
  split
  · next hle => exact ⟨nofun, fun h => absurd h.1 (Nat.not_lt.mpr hle)⟩
  · next hlt => simp [Nat.lt_of_not_le hlt, eq_comm]

end Numeral

/-- The kinds of index that hold a number. -/
def IndexKind.numbered : List IndexKind := [.exactly, .lessThan, .moreThan]

/-- The sign of comparison that writes the kind. -/
def IndexKind.sign : IndexKind → Text
  | .lessThan => ['<']
  | .moreThan => ['>']
  | _ => []

namespace Index

/-! ### Numerals in brackets -/

/-- The bracketed text is the numeral with blanks around it, behind the sign of a kind of index. -/
def Spells (kind : IndexKind) (numeral : Numeral) (body : Text) : Prop :=
  kind ∈ IndexKind.numbered ∧ ∃ front written back, Text.Blank front ∧ Text.Blank back ∧
    numeral.Writes written ∧ body = kind.sign ++ (front ++ written ++ back)

/-- The bracketed text is a numeral of more digits than are valued. -/
def Overlong (body : Text) : Prop :=
  ∃ kind numeral, Spells kind numeral body ∧ Numeral.digitLimit < numeral.digits.length

/-- A text is the number of an index when it is a numeral in range. -/
theorem numbered?_of_read? {text : Text} {numeral : Numeral}
    (h : Numeral.read? (Text.trim text) = some numeral) (kind : IndexKind) :
    numbered? kind text =
      numeral.value.map fun value =>
        if least ≤ value ∧ value ≤ greatest then some ⟨kind, value⟩ else none := by
  simp only [numbered?, number?, h]
  cases numeral.value with
  | error limit => rfl
  | ok value => by_cases hrange : least ≤ value ∧ value ≤ greatest <;> simp [Except.map, hrange]

/-- Only a numeral of too many digits keeps a text from being read as the number of an index. -/
theorem exists_read?_of_numbered? {kind : IndexKind} {text : Text} {limit : DigitLimitExceeded}
    (h : numbered? kind text = .error limit) :
    ∃ numeral, Numeral.read? (Text.trim text) = some numeral ∧ numeral.value = .error limit := by
  cases hread : Numeral.read? (Text.trim text) with
  | none =>
    rw [numbered?, number?, hread] at h
    cases h
  | some numeral =>
    rw [numbered?_of_read? hread] at h
    refine ⟨numeral, rfl, ?_⟩
    cases hvalue : numeral.value with
    | error found =>
      rw [hvalue] at h
      exact congrArg Except.error (Except.error.inj h)
    | ok value =>
      rw [hvalue] at h
      cases h

theorem Spells.exists_digit {kind : IndexKind} {numeral : Numeral} {body : Text}
    (h : Spells kind numeral body) : ∃ c ∈ body, c ∈ Text.digits := by
  obtain ⟨-, front, written, back, -, -, ⟨hne, hdigits, sign, -, rfl⟩, rfl⟩ := h
  obtain ⟨c, rest, hc⟩ := List.exists_cons_of_ne_nil hne
  refine ⟨c, by simp [hc], Text.mem_digits_of_isDigit (hdigits c ?_)⟩
  rw [hc]
  exact List.mem_cons_self

/-- A text that holds a digit is none of the words for the parities. -/
theorem lower_ne_word {body : Text} (h : ∃ c ∈ body, c ∈ Text.digits) :
    Text.lower body ≠ oddWord ∧ Text.lower body ≠ evenWord := by
  rw [Ne, Ne, lower_eq_oddWord_iff, lower_eq_evenWord_iff]
  obtain ⟨c, hc, hdigit⟩ := h
  have hwords : ∀ d ∈ Text.digits, d.toLower ∉ oddWord ∧ d.toLower ∉ evenWord := by decide
  have hmem : c.toLower ∈ body.map Char.toLower := List.mem_map_of_mem hc
  exact ⟨fun heq => (hwords c hdigit).1 (heq ▸ hmem), fun heq => (hwords c hdigit).2 (heq ▸ hmem)⟩

/-- **What a numeral in brackets is read as**: an index if its number is in range, no index if it
is not, and an error if it has too many digits to tell. -/
theorem parse?_of_spells {kind : IndexKind} {numeral : Numeral} {body : Text}
    (h : Spells kind numeral body) :
    parse? body =
      numeral.value.map fun value =>
        if least ≤ value ∧ value ≤ greatest then some ⟨kind, value⟩ else none := by
  obtain ⟨hodd, heven⟩ := lower_ne_word h.exists_digit
  obtain ⟨hkind, front, written, back, hfront, hback, hwritten, rfl⟩ := h
  have hread := Numeral.read?_trim_eq_some_iff.mpr
    ⟨front, written, back, hfront, hback, hwritten, rfl⟩
  simp only [parse?, if_neg hodd, if_neg heven]
  cases kind with
  | lessThan => exact numbered?_of_read? hread .lessThan
  | moreThan => exact numbered?_of_read? hread .moreThan
  | even | odd => exact absurd hkind (by decide)
  | exactly =>
    -- no sign of comparison is a blank or part of a numeral
    have hplain : ∀ c ∈ front ++ written ++ back, c ≠ '<' ∧ c ≠ '>' := by
      have hsigns : ∀ c ∈ '+' :: '-' :: Text.digits, c ≠ '<' ∧ c ≠ '>' := by decide
      have hblanks : ∀ c, Text.isBlank c = true → c ≠ '<' ∧ c ≠ '>' := by
        intro c hc
        constructor <;> rintro rfl <;> exact absurd hc (by decide)
      intro c hc
      simp only [List.mem_append] at hc
      rcases hc with (hc | hc) | hc
      · exact hblanks c (hfront c hc)
      · exact hsigns c (hwritten.mem_of_mem hc)
      · exact hblanks c (hback c hc)
    simp only [IndexKind.sign, List.nil_append]
    split
    · next heq => exact absurd rfl (hplain '>' (by rw [heq]; exact List.mem_cons_self)).2
    · next heq => exact absurd rfl (hplain '<' (by rw [heq]; exact List.mem_cons_self)).1
    · exact numbered?_of_read? hread .exactly

/-- A bracketed text is read as a parity by its small form, and otherwise as the number behind the
sign of a kind of index. -/
theorem parse?_cases (body : Text) :
    Text.lower body = oddWord ∧ parse? body = .ok (some ⟨.odd, -1⟩) ∨
      Text.lower body = evenWord ∧ parse? body = .ok (some ⟨.even, -1⟩) ∨
        ∃ kind text, kind ∈ IndexKind.numbered ∧ body = IndexKind.sign kind ++ text ∧
          parse? body = numbered? kind text := by
  unfold parse?
  simp only
  split
  · next hodd => exact Or.inl ⟨hodd, rfl⟩
  · split
    · next heven => exact Or.inr (Or.inl ⟨heven, rfl⟩)
    · refine Or.inr (Or.inr ?_)
      split
      · exact ⟨.moreThan, _, by decide, rfl, rfl⟩
      · exact ⟨.lessThan, _, by decide, rfl, rfl⟩
      · exact ⟨.exactly, _, by decide, rfl, rfl⟩

/-- **Reading an index fails** exactly on a numeral of too many digits. -/
theorem parse?_eq_error_iff {body : Text} {limit : DigitLimitExceeded} :
    parse? body = .error limit ↔
      ∃ kind numeral, Spells kind numeral body ∧ Numeral.digitLimit < numeral.digits.length ∧
        limit = ⟨numeral.digits.length⟩ := by
  constructor
  · intro h
    rcases parse?_cases body with ⟨-, hodd⟩ | ⟨-, heven⟩ | ⟨kind, text, hkind, hbody, hparse⟩
    · rw [hodd] at h
      cases h
    · rw [heven] at h
      cases h
    · rw [hparse] at h
      obtain ⟨numeral, hread, hvalue⟩ := exists_read?_of_numbered? h
      obtain ⟨front, written, back, hfront, hback, hwritten, rfl⟩ :=
        Numeral.read?_trim_eq_some_iff.mp hread
      exact ⟨kind, numeral, ⟨hkind, front, written, back, hfront, hback, hwritten, hbody⟩,
        Numeral.value_eq_error_iff.mp hvalue⟩
  · rintro ⟨kind, numeral, hspells, hlimit⟩
    rw [parse?_of_spells hspells, Numeral.value_eq_error_iff.mpr hlimit]
    rfl

theorem overlong_iff {body : Text} : Overlong body ↔ ∃ limit, parse? body = .error limit := by
  simp only [parse?_eq_error_iff]
  constructor
  · rintro ⟨kind, numeral, hspells, hlong⟩
    exact ⟨_, kind, numeral, hspells, hlong, rfl⟩
  · rintro ⟨_, kind, numeral, hspells, hlong, -⟩
    exact ⟨kind, numeral, hspells, hlong⟩

/-- Every text that is not overlong is read, as an index or as none. -/
theorem exists_parse?_eq_ok_iff {body : Text} :
    (∃ found, parse? body = .ok found) ↔ ¬ Overlong body := by
  rw [overlong_iff]
  cases parse? body <;> simp

/-- A numeral out of range is no index, if it has few enough digits to be valued. -/
theorem parse?_of_out_of_range {kind : IndexKind} {numeral : Numeral} {body : Text}
    (h : Spells kind numeral body) (hshort : ¬ Overlong body)
    (hrange : ¬ (least ≤ numeral.toInt ∧ numeral.toInt ≤ greatest)) : parse? body = .ok none := by
  have hle : numeral.digits.length ≤ Numeral.digitLimit :=
    Nat.le_of_not_lt fun hlong => hshort ⟨kind, numeral, h, hlong⟩
  rw [parse?_of_spells h, Numeral.value, if_pos hle, Except.map, if_neg hrange]

/-- A run of digits is a numeral of an index for one position. -/
theorem spells_of_isDigit {digits : Text} (hne : digits ≠ [])
    (h : ∀ c ∈ digits, c.isDigit = true) : Spells .exactly ⟨false, digits⟩ digits := by
  refine ⟨by decide, [], digits, [], Text.blank_nil, Text.blank_nil, ⟨hne, h, [], ?_, rfl⟩, ?_⟩
  · simp [Numeral.signs]
  · simp [IndexKind.sign]

end Index

end PathSelector
