import PathSelector.Proofs.Chain.Normalisation
import PathSelector.Proofs.Chain.Writable

/-!
# Shorthand for conditions

An identifier or a class behind the path of a level stands for the condition that the attribute of
that name equals its value. Written out between brackets, the condition is read back whatever the
value holds, so the level stays the same, and so does everything that follows it: the two selectors
compile to the same chain or are refused for the same reason, at a column further right by as much
as the written condition is longer.

Main definitions:

* `Segment.scanBehind`: what is read behind the name of the first segment of a selector;
* `Shorthand.Condensed`: a path and a value that the shorthand can be written with.

Main statements:

* `Segment.scanAll_append`: a selector is its first slashes and name and what is read behind them;
* `Level.ofSegment_shorthand`: the levels of the two segments are the same;
* `Chain.parse_shorthand`: the outcome for the written condition is that for the shorthand, moved;
* `Chain.compile_alike_shorthand`: the same for both kinds of shorthand that are conditions.
-/

namespace PathSelector

namespace Segment

/-! ### Behind the first name -/

/-- The bracketed texts in front of a text and the segments behind them. -/
def scanBehind (text : Text) : Except Text (List Text × List Segment) :=
  match scanBodies text with
  | .error unread => .error unread
  | .ok (bodies, rest) =>
    if rest = [] then .ok (bodies, []) else (scanAll rest).map (bodies, ·)

/-- A selector is read as its first slashes and name, with what is read behind them. -/
theorem scanAll_append {lead name rest : Text} (hne : lead ≠ []) (hlead : ∀ c ∈ lead, c = '/')
    (hname : ∀ c ∈ name, isNameChar c = true) (hslash : (name ++ rest).head? ≠ some '/')
    (hrest : ∀ c, rest.head? = some c → isNameChar c = false) :
    scanAll (lead ++ name ++ rest) =
      (scanBehind rest).map fun read => ⟨lead, name, read.1⟩ :: read.2 := by
  have hscan := scan_append hne hlead hname hslash hrest
  rw [scanBehind]
  cases hbodies : scanBodies rest with
  | error unread =>
    rw [hbodies] at hscan
    exact scanAll_of_scan_error hscan
  | ok read =>
    obtain ⟨bodies, more⟩ := read
    rw [hbodies] at hscan
    rw [scanAll_of_scan hscan]
    by_cases hmore : more = []
    · simp only [hmore, if_true]
      rfl
    · simp only [hmore, if_false]
      cases scanAll more <;> rfl

/-- A bracketed body in front is read before what is read behind it. -/
theorem scanBehind_bracketed_append {body : Text} (h : IsBody body) (rest : Text) :
    scanBehind (bracketed body ++ rest) =
      (scanBehind rest).map fun read => (body :: read.1, read.2) := by
  rw [scanBehind, scanBehind, scanBodies_bracketed_append h]
  cases scanBodies rest with
  | error unread => rfl
  | ok read =>
    obtain ⟨bodies, more⟩ := read
    by_cases hmore : more = []
    · simp only [Except.map, hmore, if_true]
    · simp only [Except.map, hmore, if_false]
      cases scanAll more <;> rfl

theorem suffix_of_scanBehind {text unread : Text} (h : scanBehind text = .error unread) :
    unread <:+ text := by
  rw [scanBehind] at h
  cases hbodies : scanBodies text with
  | error found =>
    rw [hbodies] at h
    exact Except.error.inj h ▸ suffix_of_scanBodies hbodies
  | ok read =>
    obtain ⟨bodies, rest⟩ := read
    rw [hbodies] at h
    have hrest : rest <:+ text := ⟨_, (eq_of_scanBodies hbodies).symm⟩
    by_cases hnil : rest = []
    · simp only [hnil, if_true] at h
      cases h
    · simp only [hnil, if_false] at h
      cases hscan : scanAll rest with
      | ok segments =>
        rw [hscan] at h
        cases h
      | error found =>
        rw [hscan] at h
        exact Except.error.inj h ▸ (suffix_of_scanAll hscan).trans hrest

/-- A selector is cut like what stands behind its first name, with columns moved by its slashes and
name. -/
theorem parseAll_append {lead name rest : Text} (hne : lead ≠ []) (hlead : ∀ c ∈ lead, c = '/')
    (hname : ∀ c ∈ name, isNameChar c = true) (hslash : (name ++ rest).head? ≠ some '/')
    (hrest : ∀ c, rest.head? = some c → isNameChar c = false) :
    parseAll 0 (lead ++ name ++ rest) =
      ((scanBehind rest).map fun read => ⟨lead, name, read.1⟩ :: read.2).mapError
        fun unread => (unreadable 0 rest unread).shift (lead ++ name).length := by
  rw [parseAll, scanAll_append hne hlead hname hslash hrest]
  cases hscan : scanBehind rest with
  | ok read => rfl
  | error unread =>
    refine congrArg Except.error (unreadable_append ?_ (suffix_of_scanBehind hscan))
    rw [Int.add_zero]

end Segment

/-! ### Conditions of a shorthand -/

namespace Shorthand

/-- The condition that a shorthand of the given kind stands for. -/
def condition (kind : Shorthand) (value : Text) : Condition := ⟨kind.label, .equals, some value⟩

/-- The condition of a shorthand can be written. -/
theorem writable_condition (kind : Shorthand) {value : Text}
    (h : ¬ (Text.singleQuote ∈ value ∧ Text.doubleQuote ∈ value)) (caseSensitive : Bool) :
    (kind.condition value).Writable caseSensitive := by
  have hne : kind.label ≠ [] := by cases kind <;> decide
  have hlower : Text.lower kind.label = kind.label := by cases kind <;> decide
  have hplain : ∀ d ∈ kind.label, d ≠ '=' ∧ d ≠ ']' ∧ Text.isQuote d = false := by
    cases kind <;> decide
  have hletter : ∀ d ∈ kind.label, Text.isBlank d = false ∧ d ∉ "!^$*".toList := by
    cases kind <;> decide
  have hspace : ' ' ∉ kind.label := fun hmem => absurd (hletter ' ' hmem).1 (by decide)
  refine ⟨hne, hplain, fun d hd => ?_, fun hword => ?_, fun hword => ?_, fun _ => hlower,
    fun _ d hd => ?_, by simp [condition], ?_⟩
  · exact (hletter d (List.mem_of_getLast? hd)).1
  · exact hspace (hword.subset (by decide))
  · exact hspace (hword.subset (by decide))
  · exact (hletter d (List.mem_of_getLast? hd)).2
  · rintro _ ⟨⟩
    exact h

/-- The written condition of a shorthand may stand between brackets and is read back. -/
theorem parseAll_condition (kind : Shorthand) {value : Text}
    (h : ¬ (Text.singleQuote ∈ value ∧ Text.doubleQuote ∈ value)) (caseSensitive : Bool) :
    Segment.IsBody (kind.condition value).render ∧
      Condition.parseAll caseSensitive (kind.condition value).render =
        .ok [kind.condition value] := by
  have hwritable := kind.writable_condition h caseSensitive
  have hwf : ∀ c ∈ [kind.condition value], c.WellFormed caseSensitive :=
    List.forall_mem_singleton.mpr hwritable.wellFormed
  have hgroup : Condition.group [kind.condition value] = (kind.condition value).render :=
    List.intercalate_singleton
  rw [← hgroup]
  exact (Condition.parseAll_group_iff (List.cons_ne_nil _ _) hwf).mpr
    ⟨List.forall_mem_singleton.mpr hwritable.legible, nofun⟩

/-- A path and a value that can be written with a shorthand for a condition: the path holds no mark
of a shorthand, the value none of another kind and not both kinds of quotes. -/
structure Condensed (kind : Shorthand) (path value : Text) : Prop where
  ne_reference : kind ≠ .reference
  path_chars : ∀ c ∈ path, Text.isBlank c = false ∧ c ∉ "/[]#.%".toList
  value_ne_nil : value ≠ []
  value_chars : ∀ c ∈ value, Text.isBlank c = false ∧ c ∉ "/[]".toList
  value_marks : ∀ other : Shorthand, other ≠ kind → other.mark ∉ value
  value_quotes : ¬ (Text.singleQuote ∈ value ∧ Text.doubleQuote ∈ value)

namespace Condensed

variable {kind : Shorthand} {path value : Text}

theorem isNameChar_path (h : kind.Condensed path value) :
    ∀ c ∈ path, Segment.isNameChar c = true :=
  fun c hc => Level.isNameChar_of_writable (by decide) (h.path_chars c hc)

theorem isNameChar_value (h : kind.Condensed path value) :
    ∀ c ∈ value, Segment.isNameChar c = true :=
  fun c hc => Level.isNameChar_of_writable (by decide) (h.value_chars c hc)

/-- The name with the shorthand is a name. -/
theorem isNameChar_append (h : kind.Condensed path value) :
    ∀ c ∈ path ++ kind.mark :: value, Segment.isNameChar c = true := by
  refine List.forall_mem_append.mpr ⟨h.isNameChar_path, List.forall_mem_cons.mpr ⟨?_, ?_⟩⟩
  · cases kind <;> decide
  · exact h.isNameChar_value

theorem mark_notMem_path (h : kind.Condensed path value) (other : Shorthand) :
    other.mark ∉ path := by
  intro hmem
  refine (h.path_chars _ hmem).2 ?_
  cases other <;> decide

/-- The name with the shorthand is cut into its path and the value. -/
theorem split_eq (h : kind.Condensed path value) :
    LevelName.split (path ++ kind.mark :: value) = .ok ⟨path, some (kind, value)⟩ := by
  have hblank := Level.not_blank_of_isNameChar h.value_ne_nil h.isNameChar_value
  exact LevelName.split_append_shorthand h.mark_notMem_path h.value_marks hblank
    fun _ => h.value_quotes

end Condensed

end Shorthand

theorem LevelName.reference_of_ne_reference {kind : Shorthand} (h : kind ≠ .reference)
    (path value : Text) : reference ⟨path, some (kind, value)⟩ = none := by
  cases kind with
  | reference => exact absurd rfl h
  | _ => rfl

/-- A shorthand and the condition it stands for write the same level, or are refused alike. -/
theorem Level.ofSegment_shorthand (caseSensitive : Bool) {kind : Shorthand} {path value : Text}
    (h : kind.Condensed path value) (lead : Text) (bodies : List Text) :
    ofSegment caseSensitive ⟨lead, path, (kind.condition value).render :: bodies⟩ =
      ofSegment caseSensitive ⟨lead, path ++ kind.mark :: value, bodies⟩ := by
  have hindex : Index.parse? (kind.condition value).render = .ok none :=
    parse?_of_head?_group (List.cons_ne_nil (kind.condition value) []) rfl
  have hbodies := Modifiers.ofBodies_cons_of_conditions hindex
    (kind.parseAll_condition h.value_quotes caseSensitive).2 bodies
  have hplain := LevelName.split_of_plain h.mark_notMem_path
  simp only [ofSegment, hplain, h.split_eq, hbodies, List.append_eq_nil_iff, List.cons_ne_nil,
    and_false, false_and, if_false, LevelName.conditions_of_ne_reference h.ne_reference,
    LevelName.reference_of_ne_reference h.ne_reference]
  cases Axis.ofLead? lead with
  | none => rfl
  | some axis => cases Modifiers.ofBodies caseSensitive bodies <;> rfl

/-- Written out between brackets, a shorthand is longer by the name of its attribute and five
signs. -/
theorem Shorthand.length_bracketed_condition (kind : Shorthand) (value : Text) :
    (Segment.bracketed (kind.condition value).render).length =
      kind.label.length + 5 + (kind.mark :: value).length := by
  simp only [condition, Condition.render, Condition.enclose, Operator.token, Segment.bracketed,
    List.length_append, List.length_cons, List.length_nil]
  omega

namespace Chain

/-! ### Selectors that open with a shorthand -/

/-- A selector without blanks at its end is cut as what stands behind its first name is read. -/
theorem cut_append (axis : Axis) {name rest : Text}
    (hname : ∀ c ∈ name, Segment.isNameChar c = true)
    (hslash : name = [] → rest.head? ≠ some '/')
    (hrest : ∀ c, rest.head? = some c → Segment.isNameChar c = false) (htight : Text.Tight rest) :
    cut (axis.lead ++ name ++ rest) =
      ((Segment.scanBehind rest).map fun read => ⟨axis.lead, name, read.1⟩ :: read.2).mapError
        fun unread => (Segment.unreadable 0 rest unread).shift (axis.lead ++ name).length := by
  obtain ⟨hne, hhead, hlead⟩ : axis.lead ≠ [] ∧ axis.lead.head? = some '/' ∧
      ∀ c ∈ axis.lead, c = '/' := by
    cases axis <;> decide
  have hfront : Text.Tight (axis.lead ++ name) := by
    refine Text.tight_of_forall (List.forall_mem_append.mpr ⟨fun c hc => ?_, fun c hc => ?_⟩)
    · rw [hlead c hc]
      decide
    · exact (Segment.isNameChar_iff.mp (hname c hc)).2.2.2
  have hopen : (axis.lead ++ name ++ rest).head? = some '/' := by
    rw [List.append_assoc, List.head?_append, hhead]
    rfl
  rw [cut_of_tight (hfront.append htight) hopen,
    Segment.parseAll_append hne hlead hname ?_ hrest]
  cases name with
  | nil => exact hslash rfl
  | cons c name =>
    intro hc
    obtain rfl : c = '/' := Option.some.inj hc
    exact absurd (hname _ List.mem_cons_self) (by decide)

/-- The same for a name with a bracketed text behind it. -/
theorem cut_bracketed_append (axis : Axis) {name body rest : Text}
    (hname : ∀ c ∈ name, Segment.isNameChar c = true) (hbody : Segment.IsBody body)
    (htight : Text.Tight rest) :
    cut (axis.lead ++ name ++ (Segment.bracketed body ++ rest)) =
      ((Segment.scanBehind rest).map
        fun read => ⟨axis.lead, name, body :: read.1⟩ :: read.2).mapError
          fun unread => (Segment.unreadable 0 rest unread).shift
            (axis.lead ++ name ++ Segment.bracketed body).length := by
  have hbracketed : Text.Tight (Segment.bracketed body) := by
    refine ⟨fun c hc => ?_, fun c hc => ?_⟩
    · obtain rfl : '[' = c := Option.some.inj hc
      decide
    · rw [Segment.bracketed, List.getLast?_concat] at hc
      obtain rfl : ']' = c := Option.some.inj hc
      decide
  have hopen : ∀ c, (Segment.bracketed body ++ rest).head? = some c → c = '[' :=
    fun c hc => (Option.some.inj hc).symm
  rw [cut_append axis hname (fun _ hc => absurd (hopen _ hc) (by decide))
    (fun c hc => hopen c hc ▸ by decide) (hbracketed.append htight),
    Segment.scanBehind_bracketed_append hbody]
  cases hscan : Segment.scanBehind rest with
  | ok read => rfl
  | error unread =>
    have hmoved := Segment.unreadable_append (Int.add_zero (Segment.bracketed body).length)
      (Segment.suffix_of_scanBehind hscan)
    refine congrArg Except.error ?_
    simp only [hmoved, Reason.shift_shift, List.length_append]

/-- A selector that opens with a shorthand and ends without blanks fares as the one that opens with
the condition it stands for, which is refused further right. -/
theorem parse_shorthand_of_tight (caseSensitive : Bool) (axis : Axis) {kind : Shorthand}
    {path value rest : Text} (h : kind.Condensed path value) (htight : Text.Tight rest)
    (hrest : ∀ c, rest.head? = some c → c = '[' ∨ c = '/') :
    parse caseSensitive
        (axis.lead ++ path ++ (Segment.bracketed (kind.condition value).render ++ rest)) =
      (parse caseSensitive (axis.lead ++ (path ++ kind.mark :: value) ++ rest)).mapError
        (Fault.shift (kind.label.length + 5)) := by
  have hbody := (kind.parseAll_condition h.value_quotes caseSensitive).1
  have hstop : ∀ c, rest.head? = some c → Segment.isNameChar c = false := by
    intro c hc
    rcases hrest c hc with rfl | rfl <;> decide
  have hshort := cut_append axis h.isNameChar_append (by simp) hstop htight
  have hlong := cut_bracketed_append axis h.isNameChar_path hbody htight
  cases hscan : Segment.scanBehind rest with
  | error unread =>
    rw [hscan] at hshort hlong
    have hlength : (axis.lead ++ path ++ Segment.bracketed (kind.condition value).render).length =
        kind.label.length + 5 + (axis.lead ++ (path ++ kind.mark :: value)).length := by
      simp only [List.length_append, kind.length_bracketed_condition value]
      omega
    rw [parse_of_cut_error hshort, parse_of_cut_error hlong]
    refine congrArg (fun reason => Except.error (Fault.malformed reason)) ?_
    simp only [Reason.shift_shift, hlength]
  | ok read =>
    rw [hscan] at hshort hlong
    rw [parse_of_cut_ok hshort, mapError_shift_ofSegments, parse_of_cut_ok hlong]
    simp only [ofSegments, List.mapM_cons, Level.ofSegment_shorthand caseSensitive h]

/-- A selector that opens with a shorthand fares as the one that opens with the condition it stands
for, which is refused further right. -/
theorem parse_shorthand (caseSensitive : Bool) (axis : Axis) {kind : Shorthand}
    {path value rest : Text} (h : kind.Condensed path value)
    (hrest : ∀ c, rest.head? = some c → c = '[' ∨ c = '/') :
    parse caseSensitive
        (axis.lead ++ path ++ (Segment.bracketed (kind.condition value).render ++ rest)) =
      (parse caseSensitive (axis.lead ++ (path ++ kind.mark :: value) ++ rest)).mapError
        (Fault.shift (kind.label.length + 5)) := by
  have hstart : ∀ c, rest.head? = some c → Text.isBlank c = false := by
    intro c hc
    rcases hrest c hc with rfl | rfl <;> decide
  -- blanks at the end do not matter, and what is left of the rest opens as the rest does
  obtain ⟨back, hback, heq⟩ := Text.exists_trimEnd_append rest
  rw [← Text.trim_eq_trimEnd hstart] at heq
  have hhead : ∀ c, (Text.trim rest).head? = some c → c = '[' ∨ c = '/' := by
    intro c hc
    refine hrest c ?_
    rw [heq, List.head?_append, hc]
    rfl
  have hsides : ∀ front : Text,
      parse caseSensitive (front ++ rest) = parse caseSensitive (front ++ Text.trim rest) := by
    intro front
    rw [← parse_append_blank caseSensitive hback (front ++ Text.trim rest), List.append_assoc,
      ← heq]
  rw [hsides, ← List.append_assoc, hsides, List.append_assoc]
  exact parse_shorthand_of_tight caseSensitive axis h (Text.tight_trim rest) hhead

/-- The two selectors fare alike, written sign by sign. -/
theorem alike_of_condensed (caseSensitive : Bool) (axis : Axis) {kind : Shorthand}
    {path value rest : Text} (h : kind.Condensed path value)
    (hrest : ∀ c, rest.head? = some c → c = '[' ∨ c = '/') :
    Alike (fun column moved => moved = column + (kind.label.length + 5))
      (compile caseSensitive (axis.lead ++ path ++ [kind.mark] ++ value ++ rest))
      (compile caseSensitive (axis.lead ++ path ++ ("[@".toList ++ kind.label ++ ['=']) ++
        Condition.enclose value ++ [']'] ++ rest)) := by
  have hshort : axis.lead ++ path ++ [kind.mark] ++ value ++ rest =
      axis.lead ++ (path ++ kind.mark :: value) ++ rest := by
    simp only [List.append_assoc, List.cons_append, List.nil_append]
  have hlong : axis.lead ++ path ++ ("[@".toList ++ kind.label ++ ['=']) ++
      Condition.enclose value ++ [']'] ++ rest =
        axis.lead ++ path ++ (Segment.bracketed (kind.condition value).render ++ rest) := by
    simp only [Segment.bracketed, Shorthand.condition, Condition.render, Operator.token,
      List.append_assoc, List.cons_append, List.nil_append]
    rfl
  rw [hshort, hlong]
  exact alike_of_parse_eq (parse_shorthand caseSensitive axis h hrest)

/-- **A shorthand is its condition written out.** An identifier or a class behind the path of the
first level may be replaced by the quoted test of its attribute: the two selectors compile to the
same chain, or are refused for the same reason, at a column further right by as much as the written
test is longer. -/
theorem compile_alike_shorthand (caseSensitive : Bool) (axis : Axis) {path value rest : Text}
    (hpath : ∀ c ∈ path, Text.isBlank c = false ∧ c ∉ "/[]#.%".toList) (hne : value ≠ [])
    (hvalue : ∀ c ∈ value, Text.isBlank c = false ∧ c ∉ "/[]".toList)
    (hquotes : ¬ (Text.singleQuote ∈ value ∧ Text.doubleQuote ∈ value))
    (hrest : ∀ c, rest.head? = some c → c = '[' ∨ c = '/') :
    ('.' ∉ value → '%' ∉ value →
      Alike (fun column moved => moved = column + 7)
        (compile caseSensitive (axis.lead ++ path ++ ['#'] ++ value ++ rest))
        (compile caseSensitive (axis.lead ++ path ++ "[@id=".toList ++ Condition.enclose value ++
          [']'] ++ rest))) ∧
    ('#' ∉ value → '%' ∉ value →
      Alike (fun column moved => moved = column + 10)
        (compile caseSensitive (axis.lead ++ path ++ ['.'] ++ value ++ rest))
        (compile caseSensitive (axis.lead ++ path ++ "[@class=".toList ++ Condition.enclose value ++
          [']'] ++ rest))) := by
  refine ⟨fun hdot href => ?_, fun hhash href => ?_⟩
  · have hmarks : ∀ other : Shorthand, other ≠ .identifier → other.mark ∉ value
      | .identifier, hother => absurd rfl hother
      | .styleClass, _ => hdot
      | .reference, _ => href
    rw [show "[@id=".toList = "[@".toList ++ Shorthand.identifier.label ++ ['='] by decide]
    exact alike_of_condensed caseSensitive axis
      ⟨by decide, hpath, hne, hvalue, hmarks, hquotes⟩ hrest
  · have hmarks : ∀ other : Shorthand, other ≠ .styleClass → other.mark ∉ value
      | .identifier, _ => hhash
      | .styleClass, hother => absurd rfl hother
      | .reference, _ => href
    rw [show "[@class=".toList = "[@".toList ++ Shorthand.styleClass.label ++ ['='] by decide]
    exact alike_of_condensed caseSensitive axis
      ⟨by decide, hpath, hne, hvalue, hmarks, hquotes⟩ hrest

/-- An identifier that holds a quote, signs of operators and its own mark, with an index and a level
behind it, and a class behind no path, with a text behind it that is refused. -/
theorem compile_alike_shorthand_quote :
    Alike (fun column moved => moved = column + 7)
        (compile true "/div#it's!=a#b[2]/p".toList)
        (compile true "/div[@id=\"it's!=a#b\"][2]/p".toList) ∧
      Alike (fun column moved => moved = column + 10)
        (compile false "//.\"x\".y[@Z]]".toList)
        (compile false "//[@class='\"x\".y'][@Z]]".toList) ∧
      compile false "//.\"x\".y[@Z]]".toList =
        .error ⟨"//.\"x\".y[@Z]]".toList, .malformed (.unexpectedChar ']' 13)⟩ := by
  have hgroup : ∀ (text : Text) (c : Char), ('[' :: text).head? = some c → c = '[' ∨ c = '/' :=
    fun _ _ hc => .inl (Option.some.inj hc).symm
  have hid := @compile_alike_shorthand true .child "div".toList "it's!=a#b".toList "[2]/p".toList
    (by decide) (by decide) (by decide) (by decide) (hgroup _)
  have hclass := @compile_alike_shorthand false .anyDepth [] "\"x\".y".toList "[@Z]]".toList
    (by decide) (by decide) (by decide) (by decide) (hgroup _)
  exact ⟨hid.1 (by decide) (by decide), hclass.2 (by decide) (by decide), by decide +kernel⟩

end Chain

end PathSelector
