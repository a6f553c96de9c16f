/-!
# Texts

A text is a list of characters, so lengths and positions count characters and concatenation is
list append.

Main definitions:

* `Text`: the type of texts;
* `Text.consFirst`: a character put in front of the first of several texts;
* `Text.upTo` and `Text.after?`: the two sides of the first occurrence of a mark;
* `Text.notBehind`: the order of texts.

Main statement: `upTo_append_after`, the two sides and the mark between them are the whole text.
-/

namespace PathSelector

/-- A text is the list of its characters. -/
abbrev Text := List Char

namespace Text

/-- The single quote character. -/
abbrev singleQuote : Char := '\x27'

/-- The double quote character. -/
abbrev doubleQuote : Char := '\x22'

/-- Whether a character is one of the two quote characters. -/
def isQuote (c : Char) : Bool := c == singleQuote || c == doubleQuote

/-- The texts with `c` put in front of the first of them; no texts count as one empty text. -/
def consFirst (c : Char) : List Text → List Text
  | [] => [[c]]
  | first :: rest => (c :: first) :: rest

/-- The part of `text` in front of the first `mark`, all of it when there is none. -/
def upTo (mark : Char) (text : Text) : Text := text.takeWhile (· ≠ mark)

/-- The part of the text behind the first `mark`, if there is one. -/
def after? (mark : Char) : Text → Option Text
  | [] => none
  | c :: rest => if c = mark then some rest else after? mark rest

/-- Whether the first text does not come behind the second. The code points decide at the first
difference, and a text comes before every longer one that it begins. -/
def notBehind (text other : Text) : Bool := !other.lex text fun c d => c.toNat < d.toNat

/-- A mark that occurs splits the text into what stands before and behind it. -/
theorem upTo_append_after {mark : Char} {text rest : Text} (h : after? mark text = some rest) :
    upTo mark text ++ mark :: rest = text := by
  induction text with
  | nil => simp [after?] at h
  | cons c tail ih =>
    by_cases hc : c = mark
    · simp_all [after?, upTo]
    · simp only [after?, hc, if_false] at h
      simpa [upTo, List.takeWhile_cons, hc] using ih h

/-- Nothing stands behind a mark exactly when it does not occur. -/
theorem after?_eq_none_iff {mark : Char} {text : Text} : after? mark text = none ↔ mark ∉ text := by
  induction text with
  | nil => simp [after?]
  | cons c tail ih => by_cases hc : c = mark <;> simp_all [after?, eq_comm]

end Text

end PathSelector
