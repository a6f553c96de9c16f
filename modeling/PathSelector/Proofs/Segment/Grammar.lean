import Mathlib.Data.List.TakeWhile
import PathSelector.Segment.Scanner

/-!
# The grammar of segments

The grammar says which texts are selectors without saying how they are read: a bracketed text is
a sequence of units, a segment is slashes, a name and bracketed texts, and a selector is a
sequence of segments of which only the last may consist of slashes alone. The readers are shown
to find exactly the segments of the grammar.

Main definitions:

* `Segment.BodyUnit`, `Segment.IsBody`: what may stand between brackets;
* `Segment.WellFormed`: the parts of a segment are what the grammar allows;
* `Segment.Occupied`: something stands behind the slashes of a segment.

Main statements:

* `scanBody_append_bracket`, `isBody_of_scanBody`: the reader of bracketed texts takes exactly a
  body;
* `scan_render_append`, `wellFormed_of_scan`: the reader of segments takes exactly a segment;
* `scanAll_flatMap_append`: occupied segments are read off the front of any text that goes on
  with a slash, whatever becomes of that text;
* `parse_eq_ok_iff_grammar`: each of the three ways to read a whole text succeeds exactly on the
  texts of its grammar rule.
-/

namespace PathSelector

namespace Segment

/-! ### The grammar -/

/-- A unit of a bracketed text: a quoted span, or one character that is neither a quote nor a
closing bracket. -/
inductive BodyUnit : Text → Prop
  | span {quote : Char} {inner : Text} (hquote : Text.isQuote quote = true)
      (hinner : quote ∉ inner) : BodyUnit (quote :: inner ++ [quote])
  | char {c : Char} (hquote : Text.isQuote c = false) (hbracket : c ≠ ']') : BodyUnit [c]

/-- What may stand between brackets: one or more units. -/
def IsBody (body : Text) : Prop :=
  ∃ units : List Text, units ≠ [] ∧ (∀ unit ∈ units, BodyUnit unit) ∧ units.flatten = body

/-- The parts of a segment are what the grammar allows. -/
structure WellFormed (segment : Segment) : Prop where
  lead_ne_nil : segment.lead ≠ []
  lead_slash : ∀ c ∈ segment.lead, c = '/'
  name_chars : ∀ c ∈ segment.name, c ≠ '/' ∧ c ≠ '[' ∧ c ≠ ']' ∧ Text.isBlank c = false
  isBody : ∀ body ∈ segment.bodies, IsBody body

/-- Something stands behind the slashes of the segment. -/
def Occupied (segment : Segment) : Prop := segment.name ≠ [] ∨ segment.bodies ≠ []

theorem isNameChar_iff {c : Char} :
    isNameChar c = true ↔ c ≠ '/' ∧ c ≠ '[' ∧ c ≠ ']' ∧ Text.isBlank c = false := by
  simp only [isNameChar, Bool.not_eq_true', Bool.or_eq_false_iff, beq_eq_false_iff_ne, and_assoc]

theorem WellFormed.isNameChar {segment : Segment} (h : segment.WellFormed) :
    ∀ c ∈ segment.name, isNameChar c = true :=
  fun c hc => isNameChar_iff.mpr (h.name_chars c hc)

theorem IsBody.ne_nil {body : Text} (h : IsBody body) : body ≠ [] := by
  obtain ⟨units, hne, hunits, rfl⟩ := h
  obtain ⟨unit, rest, rfl⟩ := List.exists_cons_of_ne_nil hne
  cases hunits unit List.mem_cons_self <;> simp

/-! ### Bracketed texts -/

/-- An open quote is closed by the next character of its kind. -/
theorem scanBody_some_append {quote : Char} {inner rest body unread : Text} (h : quote ∉ inner)
    (hrest : scanBody none rest = (body, unread)) :
    scanBody (some quote) (inner ++ quote :: rest) = (inner ++ quote :: body, unread) := by
  induction inner with
  | nil => simp [scanBody, hrest]
  | cons c inner ih =>
    rw [List.mem_cons, not_or] at h
    rw [List.cons_append, scanBody, if_neg (Ne.symm h.1), ih h.2]
    rfl

/-- A unit in front is read before the rest. -/
theorem scanBody_unit_append {unit rest body unread : Text} (hunit : BodyUnit unit)
    (hrest : scanBody none rest = (body, unread)) :
    scanBody none (unit ++ rest) = (unit ++ body, unread) := by
  cases hunit with
  | @span quote inner hquote hinner =>
    have hne : quote ≠ ']' := by
      rintro rfl
      exact absurd hquote (by decide)
    have hmem : quote ∈ inner ++ quote :: rest := by simp
    have hscan := scanBody_some_append hinner hrest
    simp only [List.cons_append, List.append_assoc, List.nil_append, scanBody, hne, hquote, hmem,
      if_true, if_false, hscan, Prod.map_apply, id]
  | char hquote hbracket =>
    simp [scanBody, hquote, hbracket, hrest]

theorem scanBody_flatten_append {units : List Text} {rest body unread : Text}
    (hunits : ∀ unit ∈ units, BodyUnit unit) (hrest : scanBody none rest = (body, unread)) :
    scanBody none (units.flatten ++ rest) = (units.flatten ++ body, unread) := by
  induction units with
  | nil => exact hrest
  | cons unit units ih =>
    have htail := ih fun u hu => hunits u (List.mem_cons_of_mem unit hu)
    rw [List.flatten_cons, List.append_assoc, List.append_assoc]
    exact scanBody_unit_append (hunits unit List.mem_cons_self) htail

/-- A body is read up to the closing bracket behind it. -/
theorem scanBody_append_bracket {body : Text} (h : IsBody body) (rest : Text) :
    scanBody none (body ++ ']' :: rest) = (body, ']' :: rest) := by
  obtain ⟨units, -, hunits, rfl⟩ := h
  have hend : scanBody none (']' :: rest) = ([], ']' :: rest) := by simp [scanBody]
  simpa using scanBody_flatten_append hunits hend

/-- What is read between brackets is made of units; behind an open quote that is closed again, it
starts with the remainder of the open span. -/
theorem exists_units_of_scanBody (quote : Option Char) (text : Text) :
    match quote with
    | none => ∃ units : List Text,
        (∀ unit ∈ units, BodyUnit unit) ∧ (scanBody none text).1 = units.flatten
    | some q => q ∈ text → ∃ (inner : Text) (units : List Text), q ∉ inner ∧
        (∀ unit ∈ units, BodyUnit unit) ∧
          (scanBody (some q) text).1 = inner ++ q :: units.flatten := by
  fun_induction scanBody quote text with
  | case1 quote =>
    cases quote with
    | none => exact ⟨[], by simp, by simp [scanBody]⟩
    | some q => simp
  | case2 q c rest ih =>
    intro hmem
    by_cases hc : c = q
    · -- the span ends here, and units follow
      subst hc
      rw [if_pos rfl] at ih
      obtain ⟨units, hunits, hscan⟩ := ih
      exact ⟨[], units, by simp, hunits, by simp [scanBody, hscan]⟩
    · rw [if_neg hc] at ih
      have hrest : q ∈ rest := by
        rcases List.mem_cons.mp hmem with heq | hmem
        · exact absurd heq.symm hc
        · exact hmem
      obtain ⟨inner, units, hinner, hunits, hscan⟩ := ih hrest
      refine ⟨c :: inner, units, ?_, hunits, by simp [scanBody, hc, hscan]⟩
      rw [List.mem_cons, not_or]
      exact ⟨Ne.symm hc, hinner⟩
  | case3 rest => exact ⟨[], by simp, by simp [scanBody]⟩
  | case4 c rest hbracket hquote hmem ih =>
    -- a quote that is closed further on opens a span
    obtain ⟨inner, units, hinner, hunits, hscan⟩ := ih hmem
    refine ⟨(c :: inner ++ [c]) :: units, ?_, ?_⟩
    · simp only [List.forall_mem_cons]
      exact ⟨.span hquote hinner, hunits⟩
    · simp [scanBody, hbracket, hquote, hmem, hscan]
  | case5 c rest hbracket hquote hmem =>
    exact ⟨[], by simp, by simp [scanBody, hbracket, hquote, hmem]⟩
  | case6 c rest hbracket hquote ih =>
    obtain ⟨units, hunits, hscan⟩ := ih
    refine ⟨[c] :: units, ?_, ?_⟩
    · simp only [List.forall_mem_cons]
      exact ⟨.char (by simpa using hquote) hbracket, hunits⟩
    · simp [scanBody, hbracket, hquote, hscan]

/-- What is read between brackets is a body unless it is empty. -/
theorem isBody_of_scanBody {text body rest : Text} (h : scanBody none text = (body, rest))
    (hne : body ≠ []) : IsBody body := by
  obtain ⟨units, hunits, hscan⟩ := exists_units_of_scanBody none text
  rw [h] at hscan
  refine ⟨units, ?_, hunits, hscan.symm⟩
  rintro rfl
  exact hne hscan

theorem scanBracketed_append {body : Text} (h : IsBody body) (rest : Text) :
    scanBracketed (bracketed body ++ rest) = .ok (body, rest) := by
  have hscan := scanBody_append_bracket h rest
  obtain ⟨c, tail, rfl⟩ := List.exists_cons_of_ne_nil h.ne_nil
  simp only [bracketed, List.cons_append, List.append_assoc, List.nil_append] at hscan ⊢
  simp [scanBracketed, hscan]

theorem isBody_of_scanBracketed {text body rest : Text}
    (h : scanBracketed text = .ok (body, rest)) : IsBody body := by
  unfold scanBracketed at h
  split at h
  · split at h
    · simp at h
    · next hne hscan =>
      simp only [Except.ok.injEq, Prod.mk.injEq] at h
      obtain ⟨rfl, -⟩ := h
      exact isBody_of_scanBody hscan hne
    · simp at h
  · simp at h

/-- A bracketed body in front is read before the bracketed texts behind it. -/
theorem scanBodies_bracketed_append {body : Text} (h : IsBody body) (rest : Text) :
    scanBodies (bracketed body ++ rest) =
      (scanBodies rest).map fun read => (body :: read.1, read.2) := by
  have hfirst := scanBracketed_append h rest
  have hopen : (bracketed body ++ rest).head? = some '[' := rfl
  rw [scanBodies, if_pos hopen]
  split
  · next hscan => rw [hfirst] at hscan; cases hscan
  · next hscan =>
    rw [hfirst] at hscan
    cases hscan
    cases scanBodies rest <;> rfl

/-- Bracketed bodies in front of a text that does not open another bracket are read off. -/
theorem scanBodies_flatMap_append {bodies : List Text} {rest : Text}
    (h : ∀ body ∈ bodies, IsBody body) (hrest : rest.head? ≠ some '[') :
    scanBodies (bodies.flatMap bracketed ++ rest) = .ok (bodies, rest) := by
  induction bodies with
  | nil =>
    rw [scanBodies, List.flatMap_nil, List.nil_append, if_neg hrest]
  | cons body bodies ih =>
    obtain ⟨hbody, htail⟩ := List.forall_mem_cons.mp h
    rw [List.flatMap_cons, List.append_assoc, scanBodies_bracketed_append hbody, ih htail]
    rfl

/-- The reader of bracketed texts takes bodies and stops where no bracket opens. -/
theorem isBody_of_scanBodies {text rest : Text} {bodies : List Text}
    (h : scanBodies text = .ok (bodies, rest)) :
    (∀ body ∈ bodies, IsBody body) ∧ rest.head? ≠ some '[' := by
  fun_induction scanBodies text generalizing bodies rest with
  | case1 => simp at h
  | case2 => simp at h
  | case3 text _ body unread hscan _ _ hrest ih =>
    simp only [Except.ok.injEq, Prod.mk.injEq] at h
    obtain ⟨rfl, rfl⟩ := h
    obtain ⟨hbodies, hhead⟩ := ih hrest
    exact ⟨List.forall_mem_cons.mpr ⟨isBody_of_scanBracketed hscan, hbodies⟩, hhead⟩
  | case4 text hhead =>
    simp only [Except.ok.injEq, Prod.mk.injEq] at h
    obtain ⟨rfl, rfl⟩ := h
    exact ⟨by simp, hhead⟩

/-! ### Segments -/

/-- A run of characters is taken whole when the text behind it does not go on with another. -/
theorem takeWhile_dropWhile_append {p : Char → Bool} {run : Text} (hrun : ∀ c ∈ run, p c = true)
    (rest : Text) (hrest : ∀ c, rest.head? = some c → p c = false) :
    (run ++ rest).takeWhile p = run ∧ (run ++ rest).dropWhile p = rest := by
  rw [List.takeWhile_append_of_pos hrun, List.dropWhile_append_of_pos hrun]
  cases rest with
  | nil => simp
  | cons c rest => simp [hrest c rfl]

/-- The first character of bracketed texts and what follows them is an opening bracket, unless
there are no bracketed texts. -/
theorem head?_flatMap_bracketed_append {bodies : List Text} {rest : Text} {c : Char}
    (h : (bodies.flatMap bracketed ++ rest).head? = some c) :
    c = '[' ∨ bodies = [] ∧ rest.head? = some c := by
  cases bodies with
  | nil => exact Or.inr ⟨rfl, h⟩
  | cons body bodies => exact Or.inl (Option.some.inj h).symm

/-- Slashes and a name in front are read before the bracketed texts behind them. -/
theorem scan_append {lead name rest : Text} (hne : lead ≠ []) (hlead : ∀ c ∈ lead, c = '/')
    (hname : ∀ c ∈ name, isNameChar c = true) (hslash : (name ++ rest).head? ≠ some '/')
    (hrest : ∀ c, rest.head? = some c → isNameChar c = false) :
    scan (lead ++ name ++ rest) =
      (scanBodies rest).map fun read => (⟨lead, name, read.1⟩, read.2) := by
  have hslashes := takeWhile_dropWhile_append (p := (· = '/'))
    (fun c (hc : c ∈ lead) => decide_eq_true (hlead c hc)) (name ++ rest) fun c hc => by
      refine decide_eq_false ?_
      rintro rfl
      exact hslash hc
  have hchars := takeWhile_dropWhile_append hname rest hrest
  rw [List.append_assoc, scan]
  simp only [hslashes, hchars, hne, if_false]
  cases scanBodies rest <;> rfl

/-- A segment is read off the front of a text when it stands alone, or when it is occupied and a
slash follows. -/
theorem scan_render_append {segment : Segment} {rest : Text} (h : segment.WellFormed)
    (hrest : rest = [] ∨ segment.Occupied ∧ rest.head? = some '/') :
    scan (segment.render ++ rest) = .ok (segment, rest) := by
  obtain ⟨lead, name, bodies⟩ := segment
  have hnext : ∀ c, rest.head? = some c → c = '/' ∧ (name ≠ [] ∨ bodies ≠ []) := by
    intro c hc
    rcases hrest with rfl | ⟨hoccupied, hslash⟩
    · cases hc
    · exact ⟨Option.some.inj (hc.symm.trans hslash), hoccupied⟩
  have hbodies : scanBodies (bodies.flatMap bracketed ++ rest) = .ok (bodies, rest) :=
    scanBodies_flatMap_append h.isBody fun hopen => absurd (hnext _ hopen).1 (by decide)
  have hname : ∀ c, (bodies.flatMap bracketed ++ rest).head? = some c →
      isNameChar c = false := by
    intro c hc
    rcases head?_flatMap_bracketed_append hc with rfl | ⟨-, hc⟩
    · decide
    · rw [(hnext c hc).1]
      decide
  have hslash : (name ++ (bodies.flatMap bracketed ++ rest)).head? ≠ some '/' := by
    intro hc
    cases name with
    | cons d name =>
      obtain rfl : d = '/' := Option.some.inj hc
      exact (h.name_chars '/' List.mem_cons_self).1 rfl
    | nil =>
      rcases head?_flatMap_bracketed_append hc with hopen | ⟨hnone, hc⟩
      · exact absurd hopen (by decide)
      · -- a slash behind slashes alone would have been one of them
        exact absurd (hnext _ hc).2 (by simp [hnone])
  rw [render, List.append_assoc,
    scan_append h.lead_ne_nil h.lead_slash h.isNameChar hslash hname, hbodies]
  rfl

/-- The slashes and the name in front of a text are those of a segment, whatever the bodies. -/
theorem wellFormed_takeWhile {text : Text} {bodies : List Text}
    (hlead : text.takeWhile (· = '/') ≠ []) (hbodies : ∀ body ∈ bodies, IsBody body) :
    WellFormed ⟨text.takeWhile (· = '/'), (text.dropWhile (· = '/')).takeWhile isNameChar,
      bodies⟩ := by
  refine ⟨hlead, fun c hc => ?_, fun c hc => ?_, hbodies⟩
  · simpa using List.mem_takeWhile_imp hc
  · exact isNameChar_iff.mp (List.mem_takeWhile_imp hc)

/-- The reader takes a segment of the grammar, and one of slashes alone only where no further slash
follows. -/
theorem wellFormed_of_scan {text rest : Text} {segment : Segment}
    (h : scan text = .ok (segment, rest)) :
    segment.WellFormed ∧ (rest.head? = some '/' → segment.Occupied) := by
  unfold scan at h
  simp only at h
  split at h
  · simp at h
  · next hlead =>
    split at h
    · simp at h
    · next hscan =>
      simp only [Except.ok.injEq, Prod.mk.injEq] at h
      obtain ⟨rfl, rfl⟩ := h
      refine ⟨wellFormed_takeWhile hlead (isBody_of_scanBodies hscan).1, fun hslash => ?_⟩
      -- with nothing in between, the slash behind would belong to the slashes in front
      by_contra hfree
      simp only [Occupied, not_or, not_not] at hfree
      obtain ⟨hname, rfl⟩ := hfree
      have hrest := eq_of_scanBodies hscan
      rw [List.flatMap_nil, List.nil_append] at hrest
      have hbehind := List.takeWhile_append_dropWhile (p := isNameChar)
        (l := text.dropWhile (· = '/'))
      rw [hname, List.nil_append, hrest] at hbehind
      have hhead := List.head?_dropWhile_not (· = '/') text
      rw [← hbehind, hslash] at hhead
      simp at hhead

/-- A segment opens with a slash. -/
theorem WellFormed.head?_render_append {segment : Segment} (h : segment.WellFormed)
    (rest : Text) : (segment.render ++ rest).head? = some '/' := by
  obtain ⟨c, lead, hlead⟩ := List.exists_cons_of_ne_nil h.lead_ne_nil
  obtain rfl : c = '/' := h.lead_slash c (by rw [hlead]; exact List.mem_cons_self)
  simp [render, hlead]

/-! ### Selectors -/

theorem scanAll_of_scan_error {text unread : Text} (h : scan text = .error unread) :
    scanAll text = .error unread := by
  rw [scanAll]
  split
  · next hscan =>
    rw [h] at hscan
    cases hscan
    rfl
  · next hscan => rw [h] at hscan; cases hscan

/-- A segment in front is read before the segments behind it. -/
theorem scanAll_of_scan {text rest : Text} {segment : Segment}
    (h : scan text = .ok (segment, rest)) :
    scanAll text =
      if rest = [] then .ok [segment] else (scanAll rest).map (segment :: ·) := by
  rw [scanAll]
  split
  · next hscan => rw [h] at hscan; cases hscan
  · next hscan =>
    rw [h] at hscan
    cases hscan
    cases scanAll rest <;> rfl

theorem scanAll_render {segment : Segment} (h : segment.WellFormed) :
    scanAll segment.render = .ok [segment] := by
  have hscan := scan_render_append h (Or.inl rfl)
  rw [List.append_nil] at hscan
  rw [scanAll_of_scan hscan, if_pos rfl]

/-- Occupied segments are read off the front of a text that goes on with a slash; the rest is
read, or refused, as it is by itself. -/
theorem scanAll_flatMap_append {segments : List Segment} {rest : Text}
    (h : ∀ segment ∈ segments, segment.WellFormed ∧ segment.Occupied)
    (hrest : rest.head? = some '/') :
    scanAll (segments.flatMap render ++ rest) = (scanAll rest).map (segments ++ ·) := by
  induction segments with
  | nil =>
    rw [List.flatMap_nil, List.nil_append]
    cases scanAll rest <;> rfl
  | cons segment segments ih =>
    obtain ⟨⟨hwf, hoccupied⟩, htail⟩ := List.forall_mem_cons.mp h
    have hhead : (segments.flatMap render ++ rest).head? = some '/' := by
      cases segments with
      | nil => exact hrest
      | cons next segments =>
        rw [List.flatMap_cons, List.append_assoc]
        exact (htail next List.mem_cons_self).1.head?_render_append _
    have hne : segments.flatMap render ++ rest ≠ [] := by
      intro hnil
      rw [hnil] at hhead
      cases hhead
    have hscan := scan_render_append hwf (Or.inr ⟨hoccupied, hhead⟩)
    rw [List.flatMap_cons, List.append_assoc, scanAll_of_scan hscan, if_neg hne, ih htail]
    cases scanAll rest <;> rfl

/-- The segments that are read make up the text, and each is one of the grammar. -/
theorem grammar_of_scanAll {text : Text} {segments : List Segment}
    (h : scanAll text = .ok segments) :
    segments ≠ [] ∧ text = segments.flatMap render ∧ (∀ segment ∈ segments, segment.WellFormed) ∧
      ∀ segment ∈ segments.dropLast, segment.Occupied := by
  fun_induction scanAll text generalizing segments with
  | case1 => simp at h
  | case2 text segment hscan =>
    simp only [Except.ok.injEq] at h
    subst h
    have htext := eq_of_scan hscan
    rw [List.append_nil] at htext
    exact ⟨by simp, by simp [htext], by simpa using (wellFormed_of_scan hscan).1, by simp⟩
  | case3 => simp at h
  | case4 text segment rest hscan _ tail hrest ih =>
    simp only [Except.ok.injEq] at h
    subst h
    obtain ⟨hne, htext, hwf, hoccupied⟩ := ih hrest
    obtain ⟨hsegment, hslash⟩ := wellFormed_of_scan hscan
    obtain ⟨next, tail, rfl⟩ := List.exists_cons_of_ne_nil hne
    have hhead : rest.head? = some '/' := by
      rw [htext, List.flatMap_cons]
      exact (hwf next List.mem_cons_self).head?_render_append _
    refine ⟨by simp, ?_, List.forall_mem_cons.mpr ⟨hsegment, hwf⟩, ?_⟩
    · rw [List.flatMap_cons, ← htext]
      exact eq_of_scan hscan
    · rw [List.dropLast_cons_of_ne_nil (by simp), List.forall_mem_cons]
      exact ⟨hslash hhead, hoccupied⟩

/-- The segments of the grammar are the ones that are read. -/
theorem scanAll_of_grammar {segments : List Segment} (hne : segments ≠ [])
    (hwf : ∀ segment ∈ segments, segment.WellFormed)
    (hoccupied : ∀ segment ∈ segments.dropLast, segment.Occupied) :
    scanAll (segments.flatMap render) = .ok segments := by
  obtain ⟨init, last, rfl⟩ : ∃ init last, segments = init ++ [last] :=
    ⟨_, _, (List.dropLast_concat_getLast hne).symm⟩
  rw [List.dropLast_concat] at hoccupied
  have hlast : last.WellFormed := hwf last (by simp)
  have hhead := hlast.head?_render_append []
  rw [List.append_nil] at hhead
  have hinit : ∀ segment ∈ init, segment.WellFormed ∧ segment.Occupied := fun segment hmem =>
    ⟨hwf segment (List.mem_append_left _ hmem), hoccupied segment hmem⟩
  rw [List.flatMap_append, List.flatMap_singleton, scanAll_flatMap_append hinit hhead,
    scanAll_render hlast]
  rfl

/-- A whole text is read as segments exactly when it is their writing. -/
theorem parseAll_eq_ok_iff {offset : Int} {text : Text} {segments : List Segment} :
    parseAll offset text = .ok segments ↔ segments ≠ [] ∧ text = segments.flatMap render ∧
      (∀ segment ∈ segments, segment.WellFormed) ∧
        ∀ segment ∈ segments.dropLast, segment.Occupied := by
  have hscan : parseAll offset text = .ok segments ↔ scanAll text = .ok segments := by
    unfold parseAll
    cases scanAll text <;> simp [Except.mapError]
  rw [hscan]
  constructor
  · exact grammar_of_scanAll
  · rintro ⟨hne, rfl, hwf, hoccupied⟩
    exact scanAll_of_grammar hne hwf hoccupied

/-- A whole text is read as one segment exactly when it is its writing. -/
theorem parse_eq_ok_iff {offset : Int} {text : Text} {segment : Segment} :
    parse offset text = .ok segment ↔ segment.WellFormed ∧ text = segment.render := by
  constructor
  · intro h
    unfold parse at h
    split at h
    · simp at h
    · next found rest hscan =>
      split at h
      · next hrest =>
        simp only [Except.ok.injEq] at h
        subst h hrest
        have htext := eq_of_scan hscan
        rw [List.append_nil] at htext
        exact ⟨(wellFormed_of_scan hscan).1, htext⟩
      · simp at h
  · rintro ⟨hwf, rfl⟩
    have hscan := scan_render_append hwf (Or.inl rfl)
    rw [List.append_nil] at hscan
    simp [parse, hscan]

/-- A whole text is read as bracketed texts exactly when it is their writing. -/
theorem parseBodies_eq_ok_iff {offset : Int} {text : Text} {bodies : List Text} :
    parseBodies offset text = .ok bodies ↔
      bodies ≠ [] ∧ (∀ body ∈ bodies, IsBody body) ∧ text = bodies.flatMap bracketed := by
  constructor
  · intro h
    unfold parseBodies at h
    split at h
    · simp at h
    · next found rest hscan =>
      split at h
      · next hrest =>
        simp only [Except.ok.injEq] at h
        subst h
        have htext := eq_of_scanBodies hscan
        rw [hrest.1, List.append_nil] at htext
        exact ⟨hrest.2, (isBody_of_scanBodies hscan).1, htext⟩
      · simp at h
  · rintro ⟨hne, hbodies, rfl⟩
    have hscan : scanBodies (bodies.flatMap bracketed ++ []) = .ok (bodies, []) :=
      scanBodies_flatMap_append hbodies (by simp)
    rw [List.append_nil] at hscan
    simp [parseBodies, hscan, hne]

/-- **The readers accept exactly the grammar.** A whole text is read as segments, as one segment
or as bracketed texts exactly when the grammar derives it from them. -/
theorem parse_eq_ok_iff_grammar (offset : Int) (text : Text) :
    (∀ segments : List Segment, parseAll offset text = .ok segments ↔
      segments ≠ [] ∧ text = segments.flatMap render ∧
        (∀ segment ∈ segments, segment.WellFormed) ∧
          ∀ segment ∈ segments.dropLast, segment.Occupied) ∧
    (∀ segment : Segment, parse offset text = .ok segment ↔
      segment.WellFormed ∧ text = segment.render) ∧
    ∀ bodies : List Text, parseBodies offset text = .ok bodies ↔
      bodies ≠ [] ∧ (∀ body ∈ bodies, IsBody body) ∧ text = bodies.flatMap bracketed :=
  ⟨fun _ => parseAll_eq_ok_iff, fun _ => parse_eq_ok_iff, fun _ => parseBodies_eq_ok_iff⟩

end Segment

end PathSelector
