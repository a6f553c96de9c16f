import Mathlib.Data.List.Forall2
import PathSelector.Proofs.Text.Trim
import PathSelector.Text.Lower

/-!
# Small forms are settled

The small form of a text is its own small form, and taking it brings in no blank and no character
in front of the small letters of the basic alphabet. Both rest on the table of capitals: no small
form in it is a capital of any run, and all of them lie behind those letters and outside the runs
of blanks. The runs are checked against each other in pairs, not code point by code point.

Main definitions:

* `CaseRun.Holds`: a code point is a capital of the run;
* `Text.IsSmall`: a character that is its own small form wherever it stands.

Main statements:

* `lower_lower`: the small form of a text is its own small form;
* `mem_lower`: a character of the small form was there before, or is a small letter;
* `length_le_length_lower`: the small form is no shorter;
* `lower_eq_iff`: the texts that have a given word of the basic alphabet as their small form.
-/

namespace PathSelector

namespace CaseRun

/-! ### Runs of capitals -/

/-- The code point is a capital of the run. -/
def Holds (r : CaseRun) (code : Nat) : Prop :=
  r.first ≤ code ∧ code ≤ r.last ∧ (code - r.first) % r.stride = 0

/-- The last small form of the run. -/
def lastSmall (r : CaseRun) : Nat := r.small + (r.last - r.first)

/-- A test that no small form of `r` is a capital of `s`: they lie apart, or both take every second
code point of different parity. -/
def avoids (r s : CaseRun) : Bool :=
  Nat.blt r.lastSmall s.first || (Nat.blt s.last r.small ||
    ((Nat.beq r.stride 2 || Nat.beq r.first r.last) &&
      (Nat.beq s.stride 2 && Nat.beq ((r.small + s.first) % 2) 1)))

theorem lowerCode_eq_self {table : List CaseRun} {code : Nat}
    (h : ∀ r ∈ table, ¬ r.Holds code) : lowerCode table code = code := by
  induction table with
  | nil => rfl
  | cons r rest ih =>
    obtain ⟨hr, hrest⟩ := List.forall_mem_cons.mp h
    rw [lowerCode]
    split
    · rfl
    · next hfirst =>
      rw [if_neg fun hcode => hr ⟨Nat.le_of_not_lt hfirst, hcode⟩]
      exact ih hrest

/-- A code point is its own small form or a capital of some run. -/
theorem lowerCode_eq_self_or (table : List CaseRun) (code : Nat) :
    lowerCode table code = code ∨
      ∃ r ∈ table, r.Holds code ∧ lowerCode table code = r.small + (code - r.first) := by
  induction table with
  | nil => exact Or.inl rfl
  | cons r rest ih =>
    rw [lowerCode]
    split
    · exact Or.inl rfl
    · next hfirst =>
      split
      · next hcode =>
        exact Or.inr ⟨r, List.mem_cons_self, ⟨Nat.le_of_not_lt hfirst, hcode⟩, rfl⟩
      · rcases ih with hself | ⟨s, hs, hholds, heq⟩
        · exact Or.inl hself
        · exact Or.inr ⟨s, List.mem_cons_of_mem r hs, hholds, heq⟩

/-- What the test of two runs shows. -/
theorem not_holds_of_avoids {r s : CaseRun} (h : r.avoids s = true) {code : Nat}
    (hcode : r.Holds code) : ¬ s.Holds (r.small + (code - r.first)) := by
  obtain ⟨hfirst, hlast, hstride⟩ := hcode
  rintro ⟨hlow, hhigh, hparity⟩
  simp only [avoids, lastSmall, Bool.or_eq_true, Bool.and_eq_true, Nat.blt_eq, Nat.beq_eq] at h
  rcases h with h | h | ⟨hr, hs, hodd⟩
  · omega
  · omega
  · -- the small forms of `r` and the capitals of `s` differ in parity
    rw [hs] at hparity
    rcases hr with hr | hr
    · rw [hr] at hstride
      omega
    · omega

end CaseRun

namespace Text

/-! ### The table of capitals -/

theorem lowerTable_avoids : ∀ r ∈ lowerTable, ∀ s ∈ lowerTable, r.avoids s = true := by
  have h : lowerTable.all (fun r => lowerTable.all r.avoids) = true := by decide +kernel
  intro r hr s hs
  exact List.all_eq_true.mp (List.all_eq_true.mp h r hr) s hs

/-- The small forms of a run are code points of characters and lie behind the capitals of the
basic alphabet, apart from the blanks and from the two capitals with rules of their own. -/
def placed (r : CaseRun) : Bool :=
  0x61 ≤ r.small && (r.lastSmall < 0x130 || 0x130 < r.small) &&
    (r.lastSmall < 0x3A3 || 0x3A3 < r.small) &&
    (r.lastSmall < 0xD800 || (0xDFFF < r.small && r.lastSmall < 0x110000)) &&
    blankTable.all fun b => r.lastSmall < b.first || b.last < r.small

theorem lowerTable_placed : ∀ r ∈ lowerTable, placed r = true := by
  have h : lowerTable.all placed = true := by decide +kernel
  exact List.all_eq_true.mp h

/-! ### Characters -/

theorem toNat_ofNat {code : Nat} (h : code.isValidChar) : (Char.ofNat code).toNat = code := by
  rw [Char.ofNat, dif_pos h]
  rfl

/-- A character that is its own small form wherever it stands. -/
def IsSmall (c : Char) : Prop := lowerChar c = c ∧ c ≠ '\u0130' ∧ c ≠ '\u03A3'

/-- A small letter: it stands behind the capitals of the basic alphabet and is not blank. -/
def IsLetter (c : Char) : Prop := 'a'.toNat ≤ c.toNat ∧ isBlank c = false

theorem IsLetter.ne {c d : Char} (h : IsLetter c) (hd : d.toNat < 'a'.toNat) :
    c ≠ d := by
  rintro rfl
  exact absurd h.1 (Nat.not_le.mpr hd)

/-- The small form of a character by the table is the character itself, or stands where the small
forms of a run do, as far behind the first as the character behind the first capital. -/
theorem lowerChar_eq_self_or_toNat (c : Char) :
    lowerChar c = c ∨ ∃ r ∈ lowerTable, r.Holds c.toNat ∧
      (lowerChar c).toNat = r.small + (c.toNat - r.first) := by
  rcases CaseRun.lowerCode_eq_self_or lowerTable c.toNat with
    hself | ⟨r, hr, hholds, hcode⟩
  · left
    rw [lowerChar, hself, Char.ofNat_toNat]
  · right
    have hplaced := lowerTable_placed r hr
    simp only [placed, Bool.and_eq_true, Bool.or_eq_true, decide_eq_true_eq] at hplaced
    simp only [CaseRun.lastSmall] at hplaced
    have hvalid := hplaced.1.2
    have hfirst := hholds.1
    have hlast := hholds.2.1
    refine ⟨r, hr, hholds, ?_⟩
    rw [lowerChar, hcode]
    refine toNat_ofNat ?_
    rcases hvalid with hlow | hhigh
    · exact Or.inl (by omega)
    · exact Or.inr ⟨by omega, by omega⟩

/-- The small form of a character by the table is the character itself or a settled small
letter. -/
theorem lowerChar_eq_self_or (c : Char) :
    lowerChar c = c ∨ IsSmall (lowerChar c) ∧ IsLetter (lowerChar c) := by
  rcases lowerChar_eq_self_or_toNat c with hself | ⟨r, hr, hholds, htoNat⟩
  · exact Or.inl hself
  · right
    have hplaced := lowerTable_placed r hr
    simp only [placed, Bool.and_eq_true, Bool.or_eq_true, decide_eq_true_eq,
      List.all_eq_true] at hplaced
    simp only [CaseRun.lastSmall] at hplaced
    obtain ⟨⟨⟨⟨hletter, hdotted⟩, hsigma⟩, -⟩, hblank⟩ := hplaced
    have hfirst := hholds.1
    have hlast := hholds.2.1
    -- the small form is no capital of any run, and lies apart from the two irregular capitals
    refine ⟨⟨?_, ?_, ?_⟩, ?_, ?_⟩
    · have hsettled : CaseRun.lowerCode lowerTable (lowerChar c).toNat = (lowerChar c).toNat := by
        refine CaseRun.lowerCode_eq_self fun s hs => ?_
        rw [htoNat]
        exact CaseRun.not_holds_of_avoids (lowerTable_avoids r hr s hs) hholds
      rw [lowerChar, hsettled, Char.ofNat_toNat]
    · intro heq
      have hcodeEq : (lowerChar c).toNat = 0x130 := congrArg Char.toNat heq
      omega
    · intro heq
      have hcodeEq : (lowerChar c).toNat = 0x3A3 := congrArg Char.toNat heq
      omega
    · have ha : 'a'.toNat = 0x61 := rfl
      omega
    · rw [Bool.eq_false_iff, ne_eq, isBlank_iff]
      rintro ⟨b, hb, hcontains⟩
      simp only [CodeRange.contains, Bool.and_eq_true, decide_eq_true_eq] at hcontains
      have hapart := hblank b hb
      omega

/-- Each character of a small form is settled, and it was there before or is a small letter. -/
theorem isSmall_of_mem_lowerAt {before rest : Text} {c d : Char} (h : d ∈ lowerAt before c rest) :
    IsSmall d ∧ (d = c ∨ IsLetter d) := by
  unfold lowerAt at h
  split at h
  · have hd : d = 'i' ∨ d = '\u0307' := by simpa using h
    rcases hd with rfl | rfl
    · exact ⟨⟨by decide +kernel, by decide, by decide⟩, Or.inr ⟨by decide, by decide⟩⟩
    · exact ⟨⟨by decide +kernel, by decide, by decide⟩, Or.inr ⟨by decide, by decide⟩⟩
  · next hdotted =>
    split at h
    · split at h
      · obtain rfl : d = '\u03C2' := by simpa using h
        exact ⟨⟨by decide +kernel, by decide, by decide⟩, Or.inr ⟨by decide, by decide⟩⟩
      · obtain rfl : d = '\u03C3' := by simpa using h
        exact ⟨⟨by decide +kernel, by decide, by decide⟩, Or.inr ⟨by decide, by decide⟩⟩
    · next hsigma =>
      obtain rfl : d = lowerChar c := by simpa using h
      rcases lowerChar_eq_self_or c with hself | ⟨hsmall, hletter⟩
      · rw [hself]
        exact ⟨⟨hself, hdotted, hsigma⟩, Or.inl rfl⟩
      · exact ⟨hsmall, Or.inr hletter⟩

theorem lowerAt_of_isSmall {c : Char} (h : IsSmall c) (before rest : Text) :
    lowerAt before c rest = [c] := by
  rw [lowerAt, if_neg h.2.1, if_neg h.2.2, h.1]

/-! ### Texts -/

/-- A text is its own small form when each of its characters is settled. -/
theorem lower_eq_self {text : Text} (h : ∀ c ∈ text, IsSmall c) : lower text = text := by
  have hbehind : ∀ before, lowerBehind before text = text := by
    induction text with
    | nil => intro before; rfl
    | cons c rest ih =>
      intro before
      obtain ⟨hc, hrest⟩ := List.forall_mem_cons.mp h
      rw [lowerBehind, lowerAt_of_isSmall hc, ih hrest, List.singleton_append]
  exact hbehind []

theorem exists_mem_lowerAt {before text : Text} {d : Char} (h : d ∈ lowerBehind before text) :
    ∃ front c rest, c ∈ text ∧ d ∈ lowerAt front c rest := by
  induction text generalizing before with
  | nil => cases h
  | cons c rest ih =>
    rcases List.mem_append.mp h with h | h
    · exact ⟨before, c, rest, List.mem_cons_self, h⟩
    · obtain ⟨front, e, tail, hmem, hat⟩ := ih h
      exact ⟨front, e, tail, List.mem_cons_of_mem c hmem, hat⟩

theorem isSmall_of_mem_lower {text : Text} {d : Char} (h : d ∈ lower text) : IsSmall d := by
  obtain ⟨front, c, rest, -, hat⟩ := exists_mem_lowerAt h
  exact (isSmall_of_mem_lowerAt hat).1

/-- The small form of a text is its own small form. -/
@[simp]
theorem lower_lower (text : Text) : lower (lower text) = lower text :=
  lower_eq_self fun _ h => isSmall_of_mem_lower h

/-- A character of the small form was there before, or is a small letter. -/
theorem mem_lower {text : Text} {d : Char} (h : d ∈ lower text) : d ∈ text ∨ IsLetter d := by
  obtain ⟨front, c, rest, hmem, hat⟩ := exists_mem_lowerAt h
  rcases (isSmall_of_mem_lowerAt hat).2 with rfl | hletter
  · exact Or.inl hmem
  · exact Or.inr hletter

theorem exists_lowerAt_subset {text : Text} {c : Char} (h : c ∈ text) (before : Text) :
    ∃ front rest, lowerAt front c rest ⊆ lowerBehind before text := by
  induction text generalizing before with
  | nil => cases h
  | cons e tail ih =>
    rcases List.mem_cons.mp h with rfl | h
    · exact ⟨before, tail, List.subset_append_left _ _⟩
    · obtain ⟨front, rest, hsubset⟩ := ih h (e :: before)
      exact ⟨front, rest, List.subset_append_of_subset_right _ hsubset⟩

/-- A text whose small form has no small letters is its own small form. -/
theorem lower_eq_self_of_not_isLetter {text : Text} (h : ∀ d ∈ lower text, ¬ IsLetter d) :
    lower text = text := by
  refine lower_eq_self fun c hc => ?_
  obtain ⟨front, rest, hsubset⟩ := exists_lowerAt_subset hc []
  obtain ⟨d, hd⟩ := List.exists_mem_of_ne_nil _ (lowerAt_ne_nil front c rest)
  obtain ⟨hsmall, rfl | hletter⟩ := isSmall_of_mem_lowerAt hd
  · exact hsmall
  · exact absurd hletter (h d (hsubset hd))

/-- No run of capitals meets a run of blanks. -/
theorem lowerTable_apart_blankTable :
    ∀ r ∈ lowerTable, ∀ b ∈ blankTable, r.last < b.first ∨ b.last < r.first := by
  have h : (lowerTable.all fun r => blankTable.all fun b =>
      r.last < b.first || b.last < r.first) = true := by decide +kernel
  simpa using h

/-- Blanks have no small form. -/
theorem isSmall_of_isBlank {c : Char} (h : isBlank c = true) : IsSmall c := by
  obtain ⟨b, hb, hcontains⟩ := isBlank_iff.mp h
  simp only [CodeRange.contains, Bool.and_eq_true, decide_eq_true_eq] at hcontains
  refine ⟨?_, ?_, ?_⟩
  · have hcode : CaseRun.lowerCode lowerTable c.toNat = c.toNat := by
      refine CaseRun.lowerCode_eq_self fun r hr hholds => ?_
      have hfirst := hholds.1
      have hlast := hholds.2.1
      have hapart := lowerTable_apart_blankTable r hr b hb
      omega
    rw [lowerChar, hcode, Char.ofNat_toNat]
  · rintro rfl
    exact absurd h (by decide)
  · rintro rfl
    exact absurd h (by decide)

theorem length_le_length_lowerBehind (before text : Text) :
    text.length ≤ (lowerBehind before text).length := by
  induction text generalizing before with
  | nil => exact Nat.le_refl _
  | cons c rest ih =>
    have hpos := List.length_pos_iff.mpr (lowerAt_ne_nil before c rest)
    have hrest := ih (c :: before)
    rw [lowerBehind, List.length_append, List.length_cons]
    omega

/-- The small form of a text is no shorter than the text. -/
theorem length_le_length_lower (text : Text) : text.length ≤ (lower text).length :=
  length_le_length_lowerBehind [] text

/-- The small form ends with the small form of the last character. -/
theorem exists_lowerBehind_concat (before text : Text) (c : Char) :
    ∃ front behind, lowerBehind before (text ++ [c]) = front ++ lowerAt behind c [] := by
  induction text generalizing before with
  | nil => exact ⟨[], before, by simp [lowerBehind]⟩
  | cons d rest ih =>
    obtain ⟨front, behind, heq⟩ := ih (d :: before)
    refine ⟨lowerAt before d (rest ++ [c]) ++ front, behind, ?_⟩
    rw [List.cons_append, lowerBehind, heq, List.append_assoc]

/-- The small form of a text that does not end with a blank does not end with a blank either. -/
theorem isBlank_getLast?_lower {text : Text}
    (h : ∀ c, text.getLast? = some c → isBlank c = false) {d : Char}
    (hd : (lower text).getLast? = some d) : isBlank d = false := by
  rcases List.eq_nil_or_concat text with rfl | ⟨init, c, rfl⟩
  · cases hd
  · obtain ⟨front, behind, heq⟩ := exists_lowerBehind_concat [] init c
    have hc : isBlank c = false := h c (by simp)
    have hlast : (lowerAt behind c []).getLast? = some d := by
      obtain ⟨e, he⟩ := Option.ne_none_iff_exists'.mp
        (mt List.getLast?_eq_none_iff.mp (lowerAt_ne_nil behind c []))
      rw [lower, List.concat_eq_append, heq, List.getLast?_append, he] at hd
      rw [he]
      exact hd
    rcases (isSmall_of_mem_lowerAt (List.mem_of_getLast? hlast)).2 with rfl | hletter
    · exact hc
    · exact hletter.2

/-! ### Letters of the basic alphabet -/

/-- A test that the small forms of a run lie behind the basic alphabet or its capitals in it, or
that its only small form is the letter k. -/
def keepsBasic (r : CaseRun) : Bool :=
  0x80 ≤ r.small || r.last < 0x80 || (r.first = r.last && r.small = 'k'.toNat)

theorem lowerTable_keepsBasic : ∀ r ∈ lowerTable, keepsBasic r = true := by
  have h : lowerTable.all keepsBasic = true := by decide +kernel
  exact List.all_eq_true.mp h

/-- In the basic alphabet the table is the case of that alphabet. -/
theorem lowerChar_of_basic {c : Char} (h : c.toNat < 0x80) : lowerChar c = c.toLower := by
  have hall : ∀ code < 0x80, lowerChar (Char.ofNat code) = (Char.ofNat code).toLower := by
    decide +kernel
  have hc := hall c.toNat h
  rwa [Char.ofNat_toNat] at hc

theorem lowerAt_of_basic {c : Char} (h : c.toNat < 0x80) (before rest : Text) :
    lowerAt before c rest = [c.toLower] := by
  have hdotted : c ≠ '\u0130' := by
    rintro rfl
    exact absurd h (by decide)
  have hsigma : c ≠ '\u03A3' := by
    rintro rfl
    exact absurd h (by decide)
  rw [lowerAt, if_neg hdotted, if_neg hsigma, lowerChar_of_basic h]

/-- A character of the basic alphabet other than i and k is the small form of characters of that
alphabet only. -/
theorem basic_of_mem_lowerAt {before rest : Text} {c d : Char} (h : d ∈ lowerAt before c rest)
    (hd : d.toNat < 0x80) (hi : d ≠ 'i') (hk : d ≠ 'k') : c.toNat < 0x80 := by
  unfold lowerAt at h
  split at h
  · have hcases : d = 'i' ∨ d = '\u0307' := by simpa using h
    rcases hcases with rfl | rfl
    · exact absurd rfl hi
    · exact absurd hd (by decide)
  · split at h
    · have hcases : d = '\u03C2' ∨ d = '\u03C3' := by
        split at h
        · exact Or.inl (List.mem_singleton.mp h)
        · exact Or.inr (List.mem_singleton.mp h)
      rcases hcases with rfl | rfl <;> exact absurd hd (by decide)
    · obtain rfl := List.mem_singleton.mp h
      rcases lowerChar_eq_self_or_toNat c with hself | ⟨r, hr, ⟨hfirst, hlast, -⟩, htoNat⟩
      · rwa [hself] at hd
      · have hkeeps := lowerTable_keepsBasic r hr
        simp only [keepsBasic, Bool.or_eq_true, Bool.and_eq_true, decide_eq_true_eq] at hkeeps
        rcases hkeeps with (hsmall | hcapital) | ⟨hone, hletter⟩
        · omega
        · omega
        · exact absurd (Char.toNat_inj.mp (by omega)) hk

/-- The small form of a text of the basic alphabet takes the case of that alphabet alone. -/
theorem lower_of_basic {text : Text} (h : ∀ c ∈ text, c.toNat < 0x80) :
    lower text = text.map Char.toLower := by
  have hbehind : ∀ before, lowerBehind before text = text.map Char.toLower := by
    induction text with
    | nil => intro before; rfl
    | cons c rest ih =>
      intro before
      obtain ⟨hc, hrest⟩ := List.forall_mem_cons.mp h
      rw [lowerBehind, lowerAt_of_basic hc, ih hrest, List.singleton_append, List.map_cons]
  exact hbehind []

theorem basic_of_toLower {c : Char} (h : c.toLower.toNat < 0x80) : c.toNat < 0x80 := by
  unfold Char.toLower at h
  split at h
  · next hupper =>
    have hle : c.toNat ≤ 90 := by simpa [UInt32.le_iff_toNat_le] using hupper.2
    omega
  · exact h

/-- **A word of the basic alphabet without i and k** is the small form of the texts that differ from
it in the case of that alphabet only. -/
theorem lower_eq_iff {text word : Text} (hword : ∀ c ∈ word, c.toNat < 0x80 ∧ c ≠ 'i' ∧ c ≠ 'k') :
    lower text = word ↔ text.map Char.toLower = word := by
  constructor
  · rintro rfl
    refine (lower_of_basic fun c hc => ?_).symm
    obtain ⟨front, rest, hsubset⟩ := exists_lowerAt_subset hc []
    obtain ⟨d, hd⟩ := List.exists_mem_of_ne_nil _ (lowerAt_ne_nil front c rest)
    obtain ⟨hbasic, hi, hk⟩ := hword d (hsubset hd)
    exact basic_of_mem_lowerAt hd hbasic hi hk
  · rintro rfl
    exact lower_of_basic fun c hc => basic_of_toLower (hword _ (List.mem_map_of_mem hc)).1

/-! ### Names as they are compared -/

@[simp]
theorem fold_fold (caseSensitive : Bool) (text : Text) :
    fold caseSensitive (fold caseSensitive text) = fold caseSensitive text := by
  cases caseSensitive
  · exact lower_lower text
  · rfl

@[simp]
theorem fold_eq_nil_iff {caseSensitive : Bool} {text : Text} :
    fold caseSensitive text = [] ↔ text = [] := by
  cases caseSensitive
  · exact lower_eq_nil_iff
  · rfl

theorem mem_fold {caseSensitive : Bool} {text : Text} {d : Char}
    (h : d ∈ fold caseSensitive text) : d ∈ text ∨ IsLetter d := by
  cases caseSensitive
  · exact mem_lower h
  · exact Or.inl h

theorem isBlank_getLast?_fold {caseSensitive : Bool} {text : Text}
    (h : ∀ c, text.getLast? = some c → isBlank c = false) {d : Char}
    (hd : (fold caseSensitive text).getLast? = some d) : isBlank d = false := by
  cases caseSensitive
  · exact isBlank_getLast?_lower h hd
  · exact h d hd

theorem length_le_length_fold (caseSensitive : Bool) (text : Text) :
    text.length ≤ (fold caseSensitive text).length := by
  cases caseSensitive
  · exact length_le_length_lower text
  · exact Nat.le_refl _

/-- The front of a text that is compared as it is written is compared as it is written. -/
theorem fold_eq_self_of_append {caseSensitive : Bool} {text more : Text}
    (h : fold caseSensitive (text ++ more) = text ++ more) : fold caseSensitive text = text := by
  cases caseSensitive
  · refine lower_eq_self fun c hc => ?_
    have hmem : c ∈ lower (text ++ more) := by
      rw [← fold_false, h]
      exact List.mem_append_left more hc
    exact isSmall_of_mem_lower hmem
  · rfl

end Text

end PathSelector
