import PathSelector.Segment.Basic
import PathSelector.Error

/-!
# Cutting a selector into segments

A selector is a sequence of segments. Each opens with one or more slashes, goes on with a name or
none, and ends with bracketed texts or none. Inside brackets a quoted span may hold any character
but its own quote, and outside such spans no closing bracket and no quote stands.

Each reader takes the longest piece it can from the front of a text and gives it with the rest. It
fails with the part of the text that cannot be read, which is empty when the text ends too early;
its first character is the one that messages point at.

Main definitions:

* `Segment.scanBody`, `Segment.scanBodies`, `Segment.scan`, `Segment.scanAll`: the readers;
* `Segment.parseAll`, `Segment.parse`, `Segment.parseBodies`: a whole text as segments, as one
  segment and as bracketed texts.

Main statements: what a reader takes and what it leaves make up the text it was given
(`append_of_scanBody`, `eq_of_scanBracketed`, `eq_of_scanBodies`, `eq_of_scan`).
-/

namespace PathSelector

namespace Segment

/-! ### Readers -/

/-- The longest text that may stand between brackets, when `quote` is open in front, and the rest.
A quote opens a span only if it is closed again. -/
def scanBody : (quote : Option Char) → Text → Text × Text
  | _, [] => ([], [])
  | some quote, c :: rest =>
    (scanBody (if c = quote then none else some quote) rest).map (c :: ·) id
  | none, c :: rest =>
    if c = ']' then ([], c :: rest)
    else if Text.isQuote c then
      if c ∈ rest then (scanBody (some c) rest).map (c :: ·) id else ([], c :: rest)
    else (scanBody none rest).map (c :: ·) id

/-- Reading what stands between brackets loses nothing. -/
theorem append_of_scanBody (quote : Option Char) (text : Text) :
    (scanBody quote text).1 ++ (scanBody quote text).2 = text := by
  fun_induction scanBody quote text <;> simp_all

/-- One bracketed text and the rest. -/
def scanBracketed : Text → Except Text (Text × Text)
  | '[' :: inner =>
    match scanBody none inner with
    | ([], rest) => .error rest
    | (body, ']' :: rest) => .ok (body, rest)
    | (_, rest) => .error rest
  | text => .error text

/-- Reading a bracketed text loses nothing. -/
theorem eq_of_scanBracketed {text body rest : Text} (h : scanBracketed text = .ok (body, rest)) :
    text = bracketed body ++ rest := by
  unfold scanBracketed at h
  split at h
  · next inner =>
    have hinner := append_of_scanBody none inner
    split at h
    · simp at h
    · next hscan =>
      simp only [Except.ok.injEq, Prod.mk.injEq] at h
      obtain ⟨rfl, rfl⟩ := h
      rw [hscan] at hinner
      simp [bracketed, ← hinner]
    · simp at h
  · simp at h

theorem length_of_scanBracketed {text body rest : Text}
    (h : scanBracketed text = .ok (body, rest)) : rest.length < text.length := by
  rw [eq_of_scanBracketed h]
  simp [bracketed]
  omega

/-- All bracketed texts in front and the rest, which does not open another. -/
def scanBodies (text : Text) : Except Text (List Text × Text) :=
  if text.head? = some '[' then
    match _ : scanBracketed text with
    | .error rest => .error rest
    | .ok (body, rest) =>
      match scanBodies rest with
      | .error unread => .error unread
      | .ok (bodies, unread) => .ok (body :: bodies, unread)
  else .ok ([], text)
termination_by text.length
decreasing_by exact length_of_scanBracketed ‹_›

/-- Reading bracketed texts loses nothing. -/
theorem eq_of_scanBodies {text : Text} {bodies : List Text} {rest : Text}
    (h : scanBodies text = .ok (bodies, rest)) : text = bodies.flatMap bracketed ++ rest := by
  fun_induction scanBodies text generalizing bodies rest with
  | case1 => simp at h
  | case2 => simp at h
  | case3 text _ body unread hscan _ _ hrest ih =>
    simp only [Except.ok.injEq, Prod.mk.injEq] at h
    obtain ⟨rfl, rfl⟩ := h
    rw [eq_of_scanBracketed hscan, ih hrest]
    simp
  | case4 text =>
    simp only [Except.ok.injEq, Prod.mk.injEq] at h
    obtain ⟨rfl, rfl⟩ := h
    simp

/-- One segment and the rest. -/
def scan (text : Text) : Except Text (Segment × Text) :=
  let lead := text.takeWhile (· = '/')
  let behind := text.dropWhile (· = '/')
  if lead = [] then .error text
  else
    match scanBodies (behind.dropWhile isNameChar) with
    | .error unread => .error unread
    | .ok (bodies, rest) => .ok (⟨lead, behind.takeWhile isNameChar, bodies⟩, rest)

/-- Reading a segment loses nothing. -/
theorem eq_of_scan {text : Text} {segment : Segment} {rest : Text}
    (h : scan text = .ok (segment, rest)) : text = segment.render ++ rest := by
  unfold scan at h
  simp only at h
  split at h
  · simp at h
  · split at h
    · simp at h
    · next hscan =>
      simp only [Except.ok.injEq, Prod.mk.injEq] at h
      obtain ⟨rfl, rfl⟩ := h
      have hbodies := eq_of_scanBodies hscan
      simp only [render, List.append_assoc, ← hbodies, List.takeWhile_append_dropWhile]

theorem length_of_scan {text : Text} {segment : Segment} {rest : Text}
    (h : scan text = .ok (segment, rest)) : rest.length < text.length := by
  have heq := eq_of_scan h
  have hlead : segment.lead ≠ [] := by
    unfold scan at h
    simp only at h
    split at h
    · simp at h
    · next hne =>
      split at h
      · simp at h
      · simp only [Except.ok.injEq, Prod.mk.injEq] at h
        exact h.1 ▸ hne
  have := List.length_pos_iff.mpr hlead
  rw [heq]
  simp [render]
  omega

/-- The text as one or more segments. -/
def scanAll (text : Text) : Except Text (List Segment) :=
  match _ : scan text with
  | .error unread => .error unread
  | .ok (segment, rest) =>
    if rest = [] then .ok [segment]
    else
      match scanAll rest with
      | .error unread => .error unread
      | .ok segments => .ok (segment :: segments)
termination_by text.length
decreasing_by exact length_of_scan ‹_›

/-! ### Whole texts -/

/-- The reason to refuse `text` when it cannot be read from `unread` on. Columns are counted from
one and moved by `offset`, but no further left than the first. -/
def unreadable (offset : Int) (text unread : Text) : Reason :=
  match unread with
  | [] => .unexpectedEnd
  | c :: _ => .unexpectedChar c (max ((text.length : Int) - unread.length + 1 + offset) 1).toNat

/-- The whole text as one or more segments. -/
def parseAll (offset : Int) (text : Text) : Except Reason (List Segment) :=
  (scanAll text).mapError (unreadable offset text)

/-- The whole text as one segment. -/
def parse (offset : Int) (text : Text) : Except Reason Segment :=
  match scan text with
  | .error unread => .error (unreadable offset text unread)
  | .ok (segment, rest) =>
    if rest = [] then .ok segment else .error (unreadable offset text rest)

/-- The whole text as one or more bracketed texts. -/
def parseBodies (offset : Int) (text : Text) : Except Reason (List Text) :=
  match scanBodies text with
  | .error unread => .error (unreadable offset text unread)
  | .ok (bodies, rest) =>
    if rest = [] ∧ bodies ≠ [] then .ok bodies else .error (unreadable offset text rest)

end Segment

end PathSelector
