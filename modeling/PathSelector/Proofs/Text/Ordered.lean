import Mathlib.Data.Char
import Mathlib.Data.List.Lex
import PathSelector.Text.Basic

/-!
# The order of texts

The order of texts by the code points of their characters is the lexicographic one
(`Text.notBehind_iff`). Texts that are sorted by it ascend (`Text.pairwise_mergeSort`), and no other
ascending list has the same members as often (`Text.mergeSort_eq_of_perm`).
-/

namespace PathSelector

namespace Text

/-- A text does not come behind another exactly when it is at most that one. -/
theorem notBehind_iff {text other : Text} : notBehind text other = true ↔ text ≤ other := by
  have hlt : (fun c d : Char => decide (c.toNat < d.toNat) = true) = fun c d => c < d := by
    funext c d
    exact decide_eq_true_eq
  rw [notBehind, Bool.not_eq_true', List.lex_eq_false_iff_not_lex, hlt, ← not_lt]
  exact Iff.rfl

theorem pairwise_mergeSort (texts : List Text) :
    (texts.mergeSort notBehind).Pairwise (· ≤ ·) := by
  refine (List.pairwise_mergeSort ?_ ?_ texts).imp notBehind_iff.mp
  · simp only [notBehind_iff]
    exact fun _ _ _ => le_trans
  · simp only [Bool.or_eq_true, notBehind_iff]
    exact le_total

/-- Ascending texts are the given ones sorted as soon as they are the same texts. -/
theorem mergeSort_eq_of_perm {texts sorted : List Text} (hsorted : sorted.Pairwise (· ≤ ·))
    (hperm : sorted.Perm texts) : texts.mergeSort notBehind = sorted :=
  ((List.mergeSort_perm texts _).trans hperm.symm).eq_of_pairwise (fun _ _ _ _ => le_antisymm)
    (pairwise_mergeSort texts) hsorted

end Text

end PathSelector
