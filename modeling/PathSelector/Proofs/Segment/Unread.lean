import PathSelector.Segment.Scanner

/-!
# What a refused text is refused from

A reader that fails gives the part of the text from which it cannot go on. That part is an end of
the text (`suffix_of_scanAll`), so its length tells the column of the first unread character
(`unreadable_append_cons`), and it stands behind the slashes that the text opens with
(`suffix_dropWhile_of_scanAll`).
-/

namespace PathSelector

namespace Segment

theorem suffix_of_scanBracketed {text unread : Text} (h : scanBracketed text = .error unread) :
    unread <:+ text := by
  unfold scanBracketed at h
  split at h
  · next inner =>
    have hrest : (scanBody none inner).2 <:+ '[' :: inner := by
      refine List.IsSuffix.trans ⟨_, append_of_scanBody none inner⟩ (List.suffix_cons _ _)
    split at h
    · next hscan =>
      rw [hscan] at hrest
      exact Except.error.inj h ▸ hrest
    · cases h
    · next hscan =>
      rw [hscan] at hrest
      exact Except.error.inj h ▸ hrest
  · exact Except.error.inj h ▸ List.suffix_refl _

theorem suffix_of_scanBodies {text unread : Text} (h : scanBodies text = .error unread) :
    unread <:+ text := by
  fun_induction scanBodies text with
  | case1 text _ rest hscan =>
    exact Except.error.inj h ▸ suffix_of_scanBracketed hscan
  | case2 text _ body rest hscan found hrest ih =>
    obtain rfl := Except.error.inj h
    exact (ih hrest).trans ⟨_, (eq_of_scanBracketed hscan).symm⟩
  | case3 => cases h
  | case4 => cases h

/-- What a segment cannot be read from stands behind the first slashes. -/
theorem suffix_dropWhile_of_scan_error {text unread : Text} (h : scan text = .error unread) :
    unread <:+ text.dropWhile (· = '/') := by
  unfold scan at h
  simp only at h
  split at h
  · next hlead =>
    -- without slashes in front, all of the text stands behind them
    have htext := List.takeWhile_append_dropWhile (p := (· = '/')) (l := text)
    rw [hlead, List.nil_append] at htext
    rw [htext]
    exact Except.error.inj h ▸ List.suffix_refl _
  · split at h
    · next hscan =>
      exact Except.error.inj h ▸ (suffix_of_scanBodies hscan).trans (List.dropWhile_suffix _)
    · cases h

/-- What is left behind a segment stands behind the first slashes. -/
theorem suffix_dropWhile_of_scan {text rest : Text} {segment : Segment}
    (h : scan text = .ok (segment, rest)) : rest <:+ text.dropWhile (· = '/') := by
  unfold scan at h
  simp only at h
  split at h
  · cases h
  · split at h
    · cases h
    · next hscan =>
      obtain ⟨-, rfl⟩ := Prod.mk.inj (Except.ok.inj h)
      exact List.IsSuffix.trans ⟨_, (eq_of_scanBodies hscan).symm⟩ (List.dropWhile_suffix _)

/-- What cannot be read of a text stands behind its first slashes. -/
theorem suffix_dropWhile_of_scanAll {text unread : Text} (h : scanAll text = .error unread) :
    unread <:+ text.dropWhile (· = '/') := by
  fun_induction scanAll text with
  | case1 text found hscan => exact Except.error.inj h ▸ suffix_dropWhile_of_scan_error hscan
  | case2 => cases h
  | case3 text segment rest hscan _ found hrest ih =>
    obtain rfl := Except.error.inj h
    exact ((ih hrest).trans (List.dropWhile_suffix _)).trans (suffix_dropWhile_of_scan hscan)
  | case4 => cases h

/-- What cannot be read is an end of the text. -/
theorem suffix_of_scanAll {text unread : Text} (h : scanAll text = .error unread) :
    unread <:+ text :=
  (suffix_dropWhile_of_scanAll h).trans (List.dropWhile_suffix _)

/-- The reason to refuse a text from one of its characters on names that character and its
column. -/
theorem unreadable_append_cons (front : Text) (c : Char) (back : Text) :
    unreadable 0 (front ++ c :: back) (c :: back) = .unexpectedChar c (front.length + 1) := by
  simp only [unreadable, List.length_append, Reason.unexpectedChar.injEq, true_and]
  omega

end Segment

end PathSelector
