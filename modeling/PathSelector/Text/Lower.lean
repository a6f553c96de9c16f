import PathSelector.Text.CaseTable

/-!
# Lowercase texts

`Text.lower` replaces every capital by its small form. Two capitals need more than a table of
single characters: the dotted capital I becomes two characters, and the capital sigma becomes the
final small sigma at the end of a word. It ends a word when the nearest character before it that
is not passed over has a case and the nearest one behind it has none.
-/

namespace PathSelector

namespace Text

/-- Whether the first character of the text that is not passed over has a case. -/
def startsCased (text : Text) : Bool := ((text.dropWhile isIgnorable).head?.map isCased).getD false

/-- The small form of `c` behind `before`, whose nearest character comes first, and in front of
`rest`. -/
def lowerAt (before : Text) (c : Char) (rest : Text) : Text :=
  if c = '\u0130' then ['i', '\u0307']
  else if c = '\u03A3' then
    if startsCased before && !startsCased rest then ['\u03C2'] else ['\u03C3']
  else [lowerChar c]

/-- The small form of a text behind `before`, whose nearest character comes first. -/
def lowerBehind (before : Text) : Text → Text
  | [] => []
  | c :: rest => lowerAt before c rest ++ lowerBehind (c :: before) rest

/-- The text with every capital replaced by its small form. -/
def lower (text : Text) : Text := lowerBehind [] text

/-- The form in which a name is compared: as written when case counts, lowercase otherwise. -/
def fold (caseSensitive : Bool) (text : Text) : Text := if caseSensitive then text else lower text

@[simp]
theorem lower_nil : lower [] = [] := rfl

@[simp]
theorem fold_true (text : Text) : fold true text = text := rfl

@[simp]
theorem fold_false (text : Text) : fold false text = lower text := rfl

theorem lowerAt_ne_nil (before : Text) (c : Char) (rest : Text) : lowerAt before c rest ≠ [] := by
  unfold lowerAt
  split
  · simp
  · split
    · split <;> simp
    · simp

/-- Only the empty text has an empty small form. -/
@[simp]
theorem lower_eq_nil_iff {text : Text} : lower text = [] ↔ text = [] := by
  cases text with
  | nil => simp
  | cons c rest => simp [lower, lowerBehind, lowerAt_ne_nil]

end Text

end PathSelector
