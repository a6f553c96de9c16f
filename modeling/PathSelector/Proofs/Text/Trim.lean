import Mathlib.Data.List.Basic
import Mathlib.Data.List.TakeWhile
import PathSelector.Text.Blank

/-!
# Trimming and marks

What trimming does to a text that is put together from parts, and where the first mark of such a
text stands.

Main definitions:

* `Text.Blank`: a text of blank characters only;
* `Text.Tight`: a text with no blank character at either end.

Main statements:

* `exists_blank_append_trim`: a text is its trim with blanks around it;
* `trim_append_trim`: trimming two texts that meet without blanks trims their outer ends;
* `trim_blank_append`, `trim_blank_append_blank`: blanks around a tight text are trimmed, and those
  around any text do not matter to its trim;
* `after?_append_mark`, `upTo_append_mark`: the sides of a mark behind a text that lacks it;
* `sides_unique`: the first mark of a text tells its two sides.
-/

namespace PathSelector

namespace Text

/-- What holds of all characters of a text is decided along the text, and not by going through all
characters there are. -/
instance (priority := 2000) decidableForallMem (p : Char → Prop) [DecidablePred p] (text : Text) :
    Decidable (∀ c ∈ text, p c) :=
  List.decidableBAll p text

/-- A text of blank characters only. -/
def Blank (text : Text) : Prop := ∀ c ∈ text, isBlank c = true

instance (text : Text) : Decidable (Blank text) :=
  inferInstanceAs (Decidable (∀ c ∈ text, isBlank c = true))

/-- A text that neither starts nor ends with a blank character. -/
def Tight (text : Text) : Prop :=
  (∀ c, text.head? = some c → isBlank c = false) ∧
    ∀ c, text.getLast? = some c → isBlank c = false

/-! ### Trimming -/

theorem blank_nil : Blank [] := by simp [Blank]

theorem Tight.trim_eq {text : Text} (h : Tight text) : trim text = text := trim_eq_self h.1 h.2

/-- A character that is not blank may stand in front of a tight text. -/
theorem Tight.cons {c : Char} {text : Text} (hc : isBlank c = false) (h : Tight text) :
    Tight (c :: text) := by
  refine ⟨fun d hd => ?_, fun d hd => ?_⟩
  · obtain rfl : c = d := Option.some.inj hd
    exact hc
  · cases text with
    | nil =>
      obtain rfl : c = d := Option.some.inj hd
      exact hc
    | cons e rest => exact h.2 d (by rwa [List.getLast?_cons_cons] at hd)

/-- Two tight texts put together are tight. -/
theorem Tight.append {text more : Text} (htext : Tight text) (hmore : Tight more) :
    Tight (text ++ more) := by
  refine ⟨fun c hc => ?_, fun c hc => ?_⟩
  · rw [List.head?_append, Option.or_eq_some_iff] at hc
    rcases hc with hc | ⟨-, hc⟩
    · exact htext.1 c hc
    · exact hmore.1 c hc
  · rw [List.getLast?_append, Option.or_eq_some_iff] at hc
    rcases hc with hc | ⟨-, hc⟩
    · exact hmore.2 c hc
    · exact htext.2 c hc

/-- What stands between two tight texts does not matter. -/
theorem Tight.append_append {text more : Text} (htext : Tight text) (hmore : Tight more)
    (htext' : text ≠ []) (hmore' : more ≠ []) (between : Text) :
    Tight (text ++ between ++ more) := by
  refine ⟨fun c hc => htext.1 c ?_, fun c hc => hmore.2 c ?_⟩
  · rwa [List.append_assoc, List.head?_append_of_ne_nil _ htext'] at hc
  · rwa [List.getLast?_append_of_ne_nil _ hmore'] at hc

/-- A text without blanks is tight. -/
theorem tight_of_forall {text : Text} (h : ∀ c ∈ text, isBlank c = false) : Tight text :=
  ⟨fun c hc => h c (List.mem_of_mem_head? hc), fun c hc => h c (List.mem_of_getLast? hc)⟩

theorem trimStart_eq_nil_iff {text : Text} : trimStart text = [] ↔ Blank text := by
  simp only [trimStart, List.dropWhile_eq_nil_iff, Blank]

theorem trimEnd_eq_nil_iff {text : Text} : trimEnd text = [] ↔ Blank text := by
  simp only [trimEnd, List.reverse_eq_nil_iff, List.dropWhile_eq_nil_iff, List.mem_reverse, Blank]

/-- What stands behind a text that is not blank does not matter to its leading blanks. -/
theorem trimStart_append {text : Text} (h : ¬ Blank text) (more : Text) :
    trimStart (text ++ more) = trimStart text ++ more := by
  have hne : (text.dropWhile isBlank).isEmpty = false :=
    List.isEmpty_eq_false_iff.mpr fun hnil => h (trimStart_eq_nil_iff.mp hnil)
  simp only [trimStart, List.dropWhile_append, hne, Bool.false_eq_true, if_false]

/-- What stands in front of a text that is not blank does not matter to its trailing blanks. -/
theorem trimEnd_append {more : Text} (h : ¬ Blank more) (text : Text) :
    trimEnd (text ++ more) = text ++ trimEnd more := by
  have hne : (more.reverse.dropWhile isBlank).isEmpty = false := by
    refine List.isEmpty_eq_false_iff.mpr fun hnil => h (trimEnd_eq_nil_iff.mp ?_)
    rw [trimEnd, hnil, List.reverse_nil]
  simp only [trimEnd, List.reverse_append, List.dropWhile_append, hne, Bool.false_eq_true,
    if_false, List.reverse_reverse]

theorem trimStart_eq_self {text : Text} (h : ∀ c, text.head? = some c → isBlank c = false) :
    trimStart text = text := by
  cases text with
  | nil => rfl
  | cons c rest => simp [trimStart, h c rfl]

theorem trimEnd_eq_self {text : Text} (h : ∀ c, text.getLast? = some c → isBlank c = false) :
    trimEnd text = text := by
  have hrev : trimStart text.reverse = text.reverse :=
    trimStart_eq_self fun c hc => h c (by rwa [List.head?_reverse] at hc)
  rw [trimStart] at hrev
  rw [trimEnd, hrev, List.reverse_reverse]

theorem head?_trimStart {text : Text} {c : Char} (h : (trimStart text).head? = some c) :
    isBlank c = false := by
  have hhead := List.head?_dropWhile_not isBlank text
  rw [trimStart] at h
  simpa [h] using hhead

theorem getLast?_trimEnd {text : Text} {c : Char} (h : (trimEnd text).getLast? = some c) :
    isBlank c = false := by
  rw [trimEnd, List.getLast?_reverse] at h
  exact head?_trimStart h

/-- A text is what trimming its end leaves, with blanks behind. -/
theorem exists_trimEnd_append (text : Text) : ∃ back, Blank back ∧ text = trimEnd text ++ back := by
  refine ⟨(text.reverse.takeWhile isBlank).reverse, fun c hc => ?_, ?_⟩
  · exact List.mem_takeWhile_imp (List.mem_reverse.mp hc)
  · rw [trimEnd, ← List.reverse_append, List.takeWhile_append_dropWhile, List.reverse_reverse]

/-- A text is its trim with blanks around it, those in front being its indent. -/
theorem exists_indent_append_trim (text : Text) :
    ∃ front back, Blank front ∧ front.length = indent text ∧ Blank back ∧
      text = front ++ trim text ++ back := by
  obtain ⟨back, hback, heq⟩ := exists_trimEnd_append (trimStart text)
  refine ⟨text.takeWhile isBlank, back, fun c hc => List.mem_takeWhile_imp hc, rfl, hback, ?_⟩
  rw [List.append_assoc, trim, ← heq, trimStart, List.takeWhile_append_dropWhile]

/-- A text is its trim with blanks around it. -/
theorem exists_blank_append_trim (text : Text) :
    ∃ front back, Blank front ∧ Blank back ∧ text = front ++ trim text ++ back := by
  obtain ⟨front, back, hfront, -, hback, heq⟩ := exists_indent_append_trim text
  exact ⟨front, back, hfront, hback, heq⟩

theorem trim_eq_nil_iff {text : Text} : trim text = [] ↔ Blank text := by
  rw [trim, trimEnd_eq_nil_iff]
  constructor
  · intro h
    by_contra hne
    obtain ⟨c, rest, hc⟩ := List.exists_cons_of_ne_nil (mt trimStart_eq_nil_iff.mp hne)
    have hhead : isBlank c = false := head?_trimStart (congrArg List.head? hc)
    have hblank := h c (by rw [hc]; exact List.mem_cons_self)
    rw [hhead] at hblank
    exact Bool.false_ne_true hblank
  · intro h
    rw [trimStart_eq_nil_iff.mpr h]
    exact blank_nil

/-- Trimming leaves no blank at either end. -/
theorem tight_trim (text : Text) : Tight (trim text) := by
  refine ⟨fun c hc => ?_, fun c hc => getLast?_trimEnd hc⟩
  obtain ⟨back, -, heq⟩ := exists_trimEnd_append (trimStart text)
  have hhead : (trimStart text).head? = some c := by
    rw [heq, List.head?_append, ← trim, hc]
    rfl
  exact head?_trimStart hhead

/-- Only the front of a text that does not end with a blank is trimmed. -/
theorem trim_eq_trimStart {text : Text} (h : ∀ c, text.getLast? = some c → isBlank c = false) :
    trim text = trimStart text := by
  refine trimEnd_eq_self fun c hc => h c ?_
  rw [← List.takeWhile_append_dropWhile (p := isBlank) (l := text), List.getLast?_append,
    ← trimStart, hc]
  rfl

/-- Only the end of a text that does not start with a blank is trimmed. -/
theorem trim_eq_trimEnd {text : Text} (h : ∀ c, text.head? = some c → isBlank c = false) :
    trim text = trimEnd text := by
  rw [trim, trimStart_eq_self h]

/-- Two texts that are not blank and meet without a blank trim to the first without its leading
blanks and the second without its trailing ones. -/
theorem trim_append_trim {text more : Text} (htext : ¬ Blank text) (hmore : ¬ Blank more)
    (hend : ∀ c, text.getLast? = some c → isBlank c = false)
    (hstart : ∀ c, more.head? = some c → isBlank c = false) :
    trim (text ++ more) = trim text ++ trim more := by
  rw [trim, trimStart_append htext, trimEnd_append hmore, trim_eq_trimStart hend,
    trim_eq_trimEnd hstart]

/-- Blanks around a tight text are trimmed. -/
theorem trim_blank_append {front text back : Text} (hfront : Blank front) (h : Tight text)
    (hback : Blank back) : trim (front ++ text ++ back) = text := by
  have hrest : trim (text ++ back) = text := by
    cases text with
    | nil => exact trim_eq_nil_iff.mpr hback
    | cons c rest =>
      have hhead : ∀ d, (c :: rest ++ back).head? = some d → isBlank d = false := h.1
      rw [trim_eq_trimEnd hhead, trimEnd, List.reverse_append,
        List.dropWhile_append_of_pos fun c hc => hback c (List.mem_reverse.mp hc)]
      exact trimEnd_eq_self h.2
  rw [List.append_assoc, trim, trimStart, List.dropWhile_append_of_pos hfront]
  exact hrest

/-- Trimming keeps a first character that is not blank. -/
theorem head?_trim {text : Text} {c : Char} (h : text.head? = some c) (hc : isBlank c = false) :
    (trim text).head? = some c := by
  have hstart : ∀ d, text.head? = some d → isBlank d = false := by
    intro d hd
    rwa [← Option.some.inj (h.symm.trans hd)]
  obtain ⟨back, hback, heq⟩ := exists_trimEnd_append text
  rw [trim_eq_trimEnd hstart]
  cases hend : trimEnd text with
  | cons d rest =>
    rw [hend] at heq
    rw [heq] at h
    exact h
  | nil =>
    rw [hend, List.nil_append] at heq
    rw [heq] at h
    rw [hback c (List.mem_of_head? h)] at hc
    cases hc

theorem indent_append {text : Text} (h : ¬ Blank text) (more : Text) :
    indent (text ++ more) = indent text := by
  have htext := indent_add_length_trimStart text
  have hboth := indent_add_length_trimStart (text ++ more)
  rw [trimStart_append h, List.length_append, List.length_append] at hboth
  omega

theorem indent_eq_zero {text : Text} (h : ∀ c, text.head? = some c → isBlank c = false) :
    indent text = 0 := by
  have hlen := indent_add_length_trimStart text
  rw [trimStart_eq_self h] at hlen
  omega

/-- Blanks around a text do not matter to its trim. -/
theorem trim_blank_append_blank {front back : Text} (hfront : Blank front) (hback : Blank back)
    (text : Text) : trim (front ++ text ++ back) = trim text := by
  obtain ⟨start, rest, hstart, hrest, heq⟩ := exists_blank_append_trim text
  have hsplit : (front ++ start) ++ trim text ++ (rest ++ back) =
      front ++ (start ++ trim text ++ rest) ++ back := by
    simp only [List.append_assoc]
  rw [← heq] at hsplit
  rw [← hsplit]
  refine trim_blank_append ?_ (tight_trim text) ?_
  · exact List.forall_mem_append.mpr ⟨hfront, hstart⟩
  · exact List.forall_mem_append.mpr ⟨hrest, hback⟩

/-- Blanks in front of a text are added to its indent. -/
theorem indent_blank_append {front : Text} (h : Blank front) (text : Text) :
    indent (front ++ text) = front.length + indent text := by
  rw [indent, List.takeWhile_append_of_pos h, List.length_append, indent]

/-- The leading blanks and the trim make up a text that does not end with a blank. -/
theorem indent_add_length_trim {text : Text}
    (h : ∀ c, text.getLast? = some c → isBlank c = false) :
    indent text + (trim text).length = text.length := by
  rw [trim_eq_trimStart h, indent_add_length_trimStart]

/-! ### Marks -/

/-- Behind a text without the mark, the mark is the first. -/
theorem after?_append_mark {mark : Char} {text : Text} (h : mark ∉ text) (rest : Text) :
    after? mark (text ++ mark :: rest) = some rest := by
  induction text with
  | nil => simp [after?]
  | cons c text ih =>
    rw [List.mem_cons, not_or] at h
    rw [List.cons_append, after?, if_neg (Ne.symm h.1), ih h.2]

theorem upTo_append_mark {mark : Char} {text : Text} (h : mark ∉ text) (rest : Text) :
    upTo mark (text ++ mark :: rest) = text := by
  have hall : ∀ c ∈ text, decide (c ≠ mark) = true := fun c hc =>
    decide_eq_true fun heq => h (heq ▸ hc)
  rw [upTo, List.takeWhile_append_of_pos hall]
  simp

/-- The first mark of a text tells its two sides. -/
theorem sides_unique {mark : Char} {front back rest more : Text} (hfront : mark ∉ front)
    (hback : mark ∉ back) (heq : front ++ mark :: rest = back ++ mark :: more) :
    front = back ∧ rest = more := by
  constructor
  · have hboth := congrArg (upTo mark) heq
    rwa [upTo_append_mark hfront, upTo_append_mark hback] at hboth
  · have hboth := congrArg (after? mark) heq
    rw [after?_append_mark hfront, after?_append_mark hback] at hboth
    exact Option.some.inj hboth

theorem mark_notMem_upTo (mark : Char) (text : Text) : mark ∉ upTo mark text := by
  intro h
  simpa using List.mem_takeWhile_imp h

/-- Trimming a text does not change what stands behind its first mark, blanks at the ends aside. -/
theorem map_trim_after?_trim {mark : Char} (hmark : isBlank mark = false) (text : Text) :
    (after? mark (trim text)).map trim = (after? mark text).map trim := by
  have hblank : ∀ {part : Text}, Blank part → mark ∉ part := by
    intro part hpart hmem
    cases hmark.symm.trans (hpart mark hmem)
  obtain ⟨front, back, hfront, hback, heq⟩ := exists_blank_append_trim text
  generalize trim text = inner at heq
  subst heq
  cases hafter : after? mark inner with
  | none =>
    have hinner := after?_eq_none_iff.mp hafter
    have hnone : after? mark (front ++ inner ++ back) = none := by
      simp [after?_eq_none_iff, hblank hfront, hblank hback, hinner]
    rw [hnone]
  | some behind =>
    have hside : mark ∉ front ++ upTo mark inner := by
      simp [hblank hfront, mark_notMem_upTo]
    have htext : front ++ inner ++ back =
        (front ++ upTo mark inner) ++ mark :: (behind ++ back) := by
      rw [← upTo_append_after hafter, upTo_append_mark (mark_notMem_upTo mark inner)]
      simp only [List.append_assoc, List.cons_append]
    rw [htext, after?_append_mark hside]
    exact congrArg some (trim_blank_append_blank blank_nil hback behind).symm

end Text

end PathSelector
