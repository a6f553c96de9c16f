import PathSelector.Proofs.Segment.Grammar
import PathSelector.Proofs.Segment.Unread

/-!
# Refusals come at viable places

A reader that fails has taken something from the front of the text. What it has taken is the start
of a longer text that the same reader accepts, so a refusal never comes too late: up to the
character that it names nothing was wrong yet, and a text that only ends too early can be completed.
Wherever a reader stands, one of three continuations does it: a bracketed text, the inside of a
bracket with its closing bracket, or the closing bracket alone.

Main definitions:

* `Segment.Viable`: what stands in front of the unread part can be continued;
* `Reason.Names`: the wording of a reason names a character;
* `Segment.ReportedAt`: what a refusal tells about the text.

Main statements:

* `viable_of_scanBracketed`, `viable_of_scanBodies`, `viable_of_scan`, `viable_of_scanAll`: each
  reader fails at a viable place;
* `Viable.reportedAt`: the reason for such a failure points at that place;
* `error_reportedAt_viable`: the same for each of the three ways to read a whole text.
-/

namespace PathSelector

/-- The wording of the reason is that the character is unexpected. -/
def Reason.Names (reason : Reason) (c : Char) : Prop :=
  reason.text = "unexpected ".toList ++ Text.quoted [c] ++ ", expected ".toList ++ hint

namespace Segment

/-- What stands in front of the unread part of a text can be continued to a longer text that is
accepted. -/
def Viable (Accepts : Text → Prop) (text unread : Text) : Prop :=
  ∃ front more, text = front ++ unread ∧ more ≠ [] ∧ Accepts (front ++ more)

/-- A character that may stand alone between brackets. -/
theorem isBody_singleton {c : Char} (hquote : Text.isQuote c = false) (hbracket : c ≠ ']') :
    IsBody [c] :=
  ⟨[[c]], by simp, by simpa using BodyUnit.char hquote hbracket, rfl⟩

/-! ### Readers -/

/-- Inside a bracket, what is read goes on to its closing bracket; with nothing read, some character
stands in front of that. -/
theorem viable_of_scanBracketed {inner unread : Text}
    (h : scanBracketed ('[' :: inner) = .error unread) :
    Viable (fun other => ∃ body, IsBody body ∧ other = bracketed body) ('[' :: inner) unread := by
  have hinner := append_of_scanBody none inner
  simp only [scanBracketed] at h
  split at h
  · next rest hscan =>
    obtain rfl := Except.error.inj h
    rw [hscan] at hinner
    refine ⟨['['], ['x', ']'], congrArg _ hinner.symm, by simp, ['x'], ?_, rfl⟩
    exact isBody_singleton (by decide) (by decide)
  · cases h
  · next body rest hne _ hscan =>
    obtain rfl := Except.error.inj h
    rw [hscan] at hinner
    refine ⟨'[' :: body, [']'], congrArg _ hinner.symm, by simp, body, ?_, rfl⟩
    exact isBody_of_scanBody hscan hne

theorem viable_of_scanBodies {text unread : Text} (h : scanBodies text = .error unread) :
    Viable (fun other => ∃ bodies, bodies ≠ [] ∧ (∀ body ∈ bodies, IsBody body) ∧
      other = bodies.flatMap bracketed) text unread := by
  fun_induction scanBodies text with
  | case1 text hopen found hscan =>
    obtain rfl := Except.error.inj h
    obtain ⟨inner, rfl⟩ := List.head?_eq_some_iff.mp hopen
    obtain ⟨front, more, htext, hmore, body, hbody, heq⟩ := viable_of_scanBracketed hscan
    exact ⟨front, more, htext, hmore, [body], by simp, by simpa using hbody, by simpa using heq⟩
  | case2 text _ body rest hscan found hrest ih =>
    obtain rfl := Except.error.inj h
    obtain ⟨front, more, htext, hmore, bodies, -, hbodies, heq⟩ := ih hrest
    refine ⟨bracketed body ++ front, more, ?_, hmore, body :: bodies, by simp, ?_, ?_⟩
    · rw [eq_of_scanBracketed hscan, htext, List.append_assoc]
    · exact List.forall_mem_cons.mpr ⟨isBody_of_scanBracketed hscan, hbodies⟩
    · rw [List.append_assoc, heq, List.flatMap_cons]
  | case3 => cases h
  | case4 => cases h

/-- A text that does not open with a slash is refused from its start. -/
theorem scan_of_head?_ne {text : Text} (h : text.head? ≠ some '/') : scan text = .error text := by
  have hlead : text.takeWhile (· = '/') = [] := by
    cases text with
    | nil => rfl
    | cons c rest => simpa using h
  simp [scan, hlead]

theorem viable_of_scan {text unread : Text} (h : scan text = .error unread) :
    Viable (fun other => ∃ segment : Segment, segment.WellFormed ∧ other = segment.render)
      text unread := by
  by_cases hlead : text.takeWhile (· = '/') = []
  · -- nothing is read, and a slash is a segment
    have hunread : unread = text := by simpa [scan, hlead, eq_comm] using h
    refine ⟨[], ['/'], hunread.symm, by simp, ⟨['/'], [], []⟩, ?_, rfl⟩
    exact ⟨by simp, by simp, by simp, by simp⟩
  · simp only [scan, hlead, if_false] at h
    split at h
    · next found hscan =>
      obtain rfl := Except.error.inj h
      obtain ⟨front, more, hbehind, hmore, bodies, -, hbodies, heq⟩ := viable_of_scanBodies hscan
      refine ⟨text.takeWhile (· = '/') ++ (text.dropWhile (· = '/')).takeWhile isNameChar ++ front,
        more, ?_, hmore, _, wellFormed_takeWhile hlead hbodies, ?_⟩
      · rw [List.append_assoc, List.append_assoc, ← hbehind, List.takeWhile_append_dropWhile,
          List.takeWhile_append_dropWhile]
      · rw [List.append_assoc, heq, render]
    · cases h

/-- A segment goes on with a bracketed text. -/
theorem WellFormed.exists_longer {segment : Segment} (h : segment.WellFormed) :
    ∃ more longer, more ≠ [] ∧ WellFormed longer ∧ segment.render ++ more = longer.render := by
  refine ⟨bracketed ['x'], { segment with bodies := segment.bodies ++ [['x']] },
    by simp [bracketed], ⟨h.lead_ne_nil, h.lead_slash, h.name_chars, ?_⟩, ?_⟩
  · refine List.forall_mem_append.mpr ⟨h.isBody, ?_⟩
    simpa using isBody_singleton (c := 'x') (by decide) (by decide)
  · simp [render]

/-- Texts that are read as segments open with a slash. -/
theorem head?_of_scanAll {text : Text} {segments : List Segment}
    (h : scanAll text = .ok segments) : text.head? = some '/' := by
  obtain ⟨hne, rfl, hwf, -⟩ := grammar_of_scanAll h
  obtain ⟨first, rest, rfl⟩ := List.exists_cons_of_ne_nil hne
  rw [List.flatMap_cons]
  exact (hwf first List.mem_cons_self).head?_render_append _

theorem viable_of_scanAll {text unread : Text} (h : scanAll text = .error unread) :
    Viable (fun other => ∃ segments, scanAll other = .ok segments) text unread := by
  fun_induction scanAll text with
  | case1 text found hscan =>
    obtain rfl := Except.error.inj h
    obtain ⟨front, more, htext, hmore, segment, hwf, heq⟩ := viable_of_scan hscan
    exact ⟨front, more, htext, hmore, [segment], by rw [heq, scanAll_render hwf]⟩
  | case2 => cases h
  | case3 text segment rest hscan hne found hrest ih =>
    obtain rfl := Except.error.inj h
    obtain ⟨hwf, hoccupied⟩ := wellFormed_of_scan hscan
    have htext := eq_of_scan hscan
    by_cases hslash : rest.head? = some '/'
    · -- the segment stands in front of whatever the rest goes on to
      obtain ⟨front, more, rfl, hmore, segments, hsegments⟩ := ih hrest
      refine ⟨segment.render ++ front, more, by rw [htext, List.append_assoc], hmore,
        segment :: segments, ?_⟩
      have hone : ∀ other ∈ [segment], other.WellFormed ∧ other.Occupied := by
        simpa using ⟨hwf, hoccupied hslash⟩
      have hfront := scanAll_flatMap_append hone (head?_of_scanAll hsegments)
      rw [List.flatMap_singleton, hsegments] at hfront
      rw [List.append_assoc, hfront]
      rfl
    · -- no segment opens here, but the one in front goes on
      rw [scanAll_of_scan_error (scan_of_head?_ne hslash)] at hrest
      obtain rfl := Except.error.inj hrest
      obtain ⟨more, longer, hmore, hlonger, heq⟩ := hwf.exists_longer
      exact ⟨segment.render, more, htext, hmore, [longer], by rw [heq, scanAll_render hlonger]⟩
  | case4 => cases h

/-! ### Reasons -/

/-- What a refusal tells about the text. With a column, the reason names the character at that
column, and what stands in front of it can be continued to a text that is accepted. Without one, the
reason is that the text ends, and the whole text can be continued. -/
structure ReportedAt (Accepts : Text → Prop) (text : Text) (reason : Reason) : Prop where
  located : ∀ column, reason.column? = some column →
    1 ≤ column ∧ column ≤ text.length ∧
      (∃ c, text[column - 1]? = some c ∧ reason.Names c) ∧
      ∃ more, more ≠ [] ∧ Accepts (text.take (column - 1) ++ more)
  atEnd : reason.column? = none →
    reason.text = "unexpected end of selector, expected ".toList ++ Reason.hint ∧
      ∃ more, more ≠ [] ∧ Accepts (text ++ more)

/-- The reason to refuse a text from a viable place on points at that place. -/
theorem Viable.reportedAt {Accepts : Text → Prop} {text unread : Text}
    (h : Viable Accepts text unread) : ReportedAt Accepts text (unreadable 0 text unread) := by
  obtain ⟨front, more, rfl, hmore, haccepts⟩ := h
  cases unread with
  | nil =>
    rw [List.append_nil]
    exact ⟨nofun, fun _ => ⟨rfl, more, hmore, haccepts⟩⟩
  | cons c back =>
    rw [unreadable_append_cons]
    refine ⟨fun column hcolumn => ?_, nofun⟩
    obtain rfl : front.length + 1 = column := Option.some.inj hcolumn
    refine ⟨by omega, by simp, ⟨c, by simp, rfl⟩, more, hmore, ?_⟩
    simpa using haccepts

theorem reportedAt_of_parseAll {text : Text} {reason : Reason}
    (h : parseAll 0 text = .error reason) :
    ReportedAt (fun other => ∃ segments, parseAll 0 other = .ok segments) text reason := by
  cases hscan : scanAll text with
  | ok segments =>
    rw [parseAll, hscan] at h
    cases h
  | error unread =>
    obtain ⟨front, more, htext, hmore, segments, hsegments⟩ := viable_of_scanAll hscan
    rw [parseAll, hscan] at h
    obtain rfl := Except.error.inj h
    exact Viable.reportedAt ⟨front, more, htext, hmore, segments, by rw [parseAll, hsegments]; rfl⟩

theorem reportedAt_of_parse {text : Text} {reason : Reason} (h : parse 0 text = .error reason) :
    ReportedAt (fun other => ∃ segment, parse 0 other = .ok segment) text reason := by
  unfold parse at h
  split at h
  · next unread hscan =>
    obtain rfl := Except.error.inj h
    obtain ⟨front, more, htext, hmore, segment, hsegment⟩ := viable_of_scan hscan
    exact Viable.reportedAt ⟨front, more, htext, hmore, segment, parse_eq_ok_iff.mpr hsegment⟩
  · next segment rest hscan =>
    split at h
    · cases h
    · -- the segment is read, and could go on
      obtain rfl := Except.error.inj h
      obtain ⟨more, longer, hmore, hlonger⟩ := (wellFormed_of_scan hscan).1.exists_longer
      exact Viable.reportedAt
        ⟨segment.render, more, eq_of_scan hscan, hmore, longer, parse_eq_ok_iff.mpr hlonger⟩

theorem reportedAt_of_parseBodies {text : Text} {reason : Reason}
    (h : parseBodies 0 text = .error reason) :
    ReportedAt (fun other => ∃ bodies, parseBodies 0 other = .ok bodies) text reason := by
  unfold parseBodies at h
  split at h
  · next unread hscan =>
    obtain rfl := Except.error.inj h
    obtain ⟨front, more, htext, hmore, bodies, hbodies⟩ := viable_of_scanBodies hscan
    exact Viable.reportedAt
      ⟨front, more, htext, hmore, bodies, parseBodies_eq_ok_iff.mpr hbodies⟩
  · next bodies rest hscan =>
    split at h
    · cases h
    · -- one more bracketed text may stand behind those that are read, also if there are none
      obtain rfl := Except.error.inj h
      refine Viable.reportedAt ⟨bodies.flatMap bracketed, bracketed ['x'], eq_of_scanBodies hscan,
        by simp [bracketed], bodies ++ [['x']], ?_⟩
      refine parseBodies_eq_ok_iff.mpr ⟨by simp, List.forall_mem_append.mpr ?_, by simp⟩
      refine ⟨(isBody_of_scanBodies hscan).1, ?_⟩
      simpa using isBody_singleton (c := 'x') (by decide) (by decide)

/-- **Refusals come at viable places.** A text that is refused as segments, as one segment or as
bracketed texts is refused at one of its characters, which the reason names, or at its end. What
stands in front of that place is the start of a longer text that is accepted. -/
theorem error_reportedAt_viable (text : Text) (reason : Reason) :
    (parseAll 0 text = .error reason →
      ReportedAt (fun other => ∃ segments, parseAll 0 other = .ok segments) text reason) ∧
    (parse 0 text = .error reason →
      ReportedAt (fun other => ∃ segment, parse 0 other = .ok segment) text reason) ∧
    (parseBodies 0 text = .error reason →
      ReportedAt (fun other => ∃ bodies, parseBodies 0 other = .ok bodies) text reason) :=
  ⟨reportedAt_of_parseAll, reportedAt_of_parse, reportedAt_of_parseBodies⟩

/-- A quote that stays open is refused where it opens, a name behind brackets where it starts, and
a bracket with nothing behind it at the end. -/
theorem error_reportedAt_viable_quote :
    parseAll 0 "/a[@b='x".toList = .error (.unexpectedChar '\x27' 7) ∧
      (∃ more, more ≠ [] ∧ ∃ segments, parseAll 0 ("/a[@b=".toList ++ more) = .ok segments) ∧
    parse 0 "//[a]b".toList = .error (.unexpectedChar 'b' 6) ∧
      (∃ more, more ≠ [] ∧ ∃ segment, parse 0 ("//[a]".toList ++ more) = .ok segment) ∧
    parseBodies 0 "[a][".toList = .error .unexpectedEnd ∧
      ∃ more, more ≠ [] ∧ ∃ bodies, parseBodies 0 ("[a][".toList ++ more) = .ok bodies := by
  have hsegments : parseAll 0 "/a[@b='x".toList = .error (.unexpectedChar '\x27' 7) := by
    decide +kernel
  have hsegment : parse 0 "//[a]b".toList = .error (.unexpectedChar 'b' 6) := by decide +kernel
  have hbodies : parseBodies 0 "[a][".toList = .error .unexpectedEnd := by decide +kernel
  exact ⟨hsegments, (((error_reportedAt_viable _ _).1 hsegments).located 7 rfl).2.2.2, hsegment,
    (((error_reportedAt_viable _ _).2.1 hsegment).located 6 rfl).2.2.2, hbodies,
    (((error_reportedAt_viable _ _).2.2 hbodies).atEnd rfl).2⟩

end Segment

end PathSelector
