import PathSelector.CommandLine.Run
import PathSelector.Proofs.Chain.Refusal
import PathSelector.Proofs.Lint.Concatenation

/-!
# The report on a file adds up

A file of selectors is checked line by line. What is said about a selector does not depend on the
other lines, so the report is the list of what is said about each line that counts, in the order of
the lines and with their numbers. The numbers in its last line count the selectors that do not
compile and the diagnostics of those that do, and only the former make the run a failure.

Main definitions:

* `Report.Measured`: no numeral in the file has too many digits;
* `Report.diagnosticsOf`, `Report.linesOf`: what is said about one selector, and in which words;
* `Report.failing`, `Report.diagnostics`, `Report.printed`: the same for the whole file.

Main statements:

* `Rule.severity_ne_error_of_mem_report`: no rule reports an error;
* `Report.mem_selectors_iff`: which lines count;
* `Report.exists_entry`: what is said about a selector depends on it alone;
* `Report.filterMap_out_outcome`: the lines of the standard output;
* `Program.outcome_check_adds_up`: the whole run.
-/

namespace PathSelector

/-! ### Diagnostics -/

theorem Rule.severity_ne_error (rule : Rule) : rule.severity ≠ .error := by
  cases rule <;> decide

/-- No rule reports an error. -/
theorem Rule.severity_ne_error_of_mem_report {rule : Rule} {chain : Chain} {d : Diagnostic}
    (h : d ∈ rule.report chain) : d.severity ≠ .error := by
  obtain ⟨found, -, rfl⟩ := List.mem_map.mp h
  exact severity_ne_error found.2.rule

/-- A compiled selector is checked by all rules in order. -/
theorem Chain.validate_of_compile {caseSensitive : Bool} {selector : Text} {chain : Chain}
    (h : compile caseSensitive selector = .ok chain) :
    chain.validate = .ok (Rule.all.flatMap (·.report chain)) := by
  have hrun : Rule.all.mapM (·.check chain) = .ok (Rule.all.map (·.report chain)) := by
    rw [mapM_eq_ok_iff, List.forall₂_map_right_iff, List.forall₂_same]
    exact fun rule _ => rule.check_eq_ok (valued_of_compile h)
  simp [validate, hrun, List.flatMap_def]

/-! ### Output lines -/

/-- The text of a line of the standard output. -/
def OutputLine.out? : OutputLine → Option Text
  | .out text => some text
  | .err _ => none

theorem OutputLine.filterMap_out (lines : List Text) :
    (lines.map OutputLine.out).filterMap OutputLine.out? = lines := by
  rw [List.filterMap_map]
  exact List.filterMap_some

/-- Each line of a report is about one thing that is said. -/
theorem ReportEntry.length_lines (file : Text) (entry : ReportEntry) :
    (entry.lines file).length = entry.severities.length := by
  unfold lines remarks severities
  cases entry.verdict <;> simp

namespace Report

variable {caseSensitive : Bool} {selector text : Text} {session : Session}

/-! ### Lines that count -/

/-- A selector of the report is a line that is neither blank nor opens with a number sign, without
the blanks around it and with its number. -/
theorem mem_selectors_iff {number : Nat} :
    (number, selector) ∈ selectors text ↔
      1 ≤ number ∧ ∃ line, (Text.lines text)[number - 1]? = some line ∧
        selector = Text.trim line ∧ selector ≠ [] ∧ selector.head? ≠ some '#' := by
  simp only [selectors, List.mem_filter, List.mem_map, Prod.exists, Prod.mk.injEq, counts,
    Bool.and_eq_true, Bool.not_eq_true', List.isEmpty_eq_false_iff, bne_iff_ne]
  constructor
  · rintro ⟨⟨line, place, hline, rfl, rfl⟩, hne, hsign⟩
    obtain ⟨hpos, hline⟩ := List.mem_zipIdx_iff_le_and_getElem?_sub.mp hline
    exact ⟨hpos, line, hline, rfl, hne, hsign⟩
  · rintro ⟨hpos, line, hline, rfl, hne, hsign⟩
    exact ⟨⟨line, number, List.mem_zipIdx_iff_le_and_getElem?_sub.mpr ⟨hpos, hline⟩, rfl, rfl⟩, hne,
      hsign⟩

/-- The numbers of the selectors are those of different lines, in order. -/
theorem pairwise_selectors (text : Text) :
    (selectors text).Pairwise fun line other => line.1 < other.1 := by
  have hnumbers : (((Text.lines text).zipIdx 1).map Prod.snd).Pairwise (· < ·) := by
    rw [List.zipIdx_map_snd]
    exact List.pairwise_lt_range'
  rw [selectors]
  refine List.Pairwise.filter _ (List.pairwise_map.mpr ?_)
  exact List.pairwise_map.mp hnumbers

/-! ### One selector -/

/-- What the rules say about a selector, which is nothing if it does not compile. -/
def diagnosticsOf (caseSensitive : Bool) (selector : Text) : List Diagnostic :=
  match Chain.compile caseSensitive selector with
  | .error _ => []
  | .ok chain =>
    match chain.validate with
    | .error _ => []
    | .ok diagnostics => diagnostics

/-- A remark with the name of the file and the number of the line in front. -/
def numbered (file : Text) (number : Nat) (remark : Text) : Text :=
  file ++ [':'] ++ Nat.toDigits 10 number ++ ": ".toList ++ remark

/-- The line about a selector whose form is wrong. -/
def errorLine (file : Text) (number : Nat) (selector : Text) (reason : Reason) : Text :=
  numbered file number
    ("ERROR: ".toList ++
      ("Invalid syntax in selector \"".toList ++ selector ++ "\": ".toList ++ reason.text))

/-- The line about a diagnostic. -/
def diagnosticLine (file : Text) (number : Nat) (d : Diagnostic) : Text :=
  numbered file number
    ((match d.severity with
        | .error => "ERROR".toList
        | .warning => "WARNING".toList
        | .info => "INFO".toList) ++
      (match d.level with
        | none => []
        | some level => " level ".toList ++ Text.decimal level) ++
      " (".toList ++ d.rule ++ "): ".toList ++ d.message)

/-- The lines about a selector: the error if its form is wrong, and each diagnostic if it compiles.
On a selector that compiling breaks down on there is no report. -/
def linesOf (file : Text) (caseSensitive : Bool) (number : Nat) (selector : Text) : List Text :=
  match Chain.compile caseSensitive selector with
  | .error ⟨_, .malformed reason⟩ => [errorLine file number selector reason]
  | .error ⟨_, .breakdown _⟩ => []
  | .ok _ => (diagnosticsOf caseSensitive selector).map (diagnosticLine file number)

/-- How serious each thing is that is said about a selector. -/
def severitiesOf (caseSensitive : Bool) (selector : Text) : List Severity :=
  match Chain.compile caseSensitive selector with
  | .error _ => [.error]
  | .ok _ => (diagnosticsOf caseSensitive selector).map (·.severity)

theorem validate_eq_diagnosticsOf {chain : Chain}
    (h : Chain.compile caseSensitive selector = .ok chain) :
    chain.validate = .ok (diagnosticsOf caseSensitive selector) := by
  simp [diagnosticsOf, h, Chain.validate_of_compile h]

theorem severity_ne_error_of_mem {d : Diagnostic} (h : d ∈ diagnosticsOf caseSensitive selector) :
    d.severity ≠ .error := by
  cases hcompile : Chain.compile caseSensitive selector with
  | error e => simp [diagnosticsOf, hcompile] at h
  | ok chain =>
    simp only [diagnosticsOf, hcompile, Chain.validate_of_compile hcompile, List.mem_flatMap] at h
    obtain ⟨rule, -, hd⟩ := h
    exact Rule.severity_ne_error_of_mem_report hd

theorem count_error_severitiesOf (caseSensitive : Bool) (selector : Text) :
    (severitiesOf caseSensitive selector).count .error =
      if (Chain.compile caseSensitive selector).isOk then 0 else 1 := by
  cases hcompile : Chain.compile caseSensitive selector with
  | error e => simp [severitiesOf, hcompile, Except.isOk, Except.toBool]
  | ok chain =>
    have hnone : .error ∉ (diagnosticsOf caseSensitive selector).map (·.severity) := by
      intro hmem
      obtain ⟨d, hd, hseverity⟩ := List.mem_map.mp hmem
      exact severity_ne_error_of_mem hd hseverity
    simpa [severitiesOf, hcompile, Except.isOk, Except.toBool] using List.count_eq_zero.mpr hnone

/-- All but the errors are those of the diagnostics. -/
theorem count_severitiesOf {severity : Severity} (h : severity ≠ .error) (caseSensitive : Bool)
    (selector : Text) :
    (severitiesOf caseSensitive selector).count severity =
      (diagnosticsOf caseSensitive selector).countP (·.severity = severity) := by
  cases hcompile : Chain.compile caseSensitive selector with
  | error e => simp [severitiesOf, diagnosticsOf, hcompile, h.symm]
  | ok chain =>
    simp only [severitiesOf, hcompile, List.count, List.countP_map]
    rfl

/-- A numeral with too many digits stands nowhere between brackets in the file, as far as its
selectors can be cut. -/
def Measured (text : Text) : Prop :=
  ∀ line ∈ selectors text, ∀ segments, Chain.cut line.2 = .ok segments →
    ∀ segment ∈ segments, ∀ body ∈ segment.bodies, ¬ Index.Overlong body

theorem numbered_render (file : Text) (number : Nat) (d : Diagnostic) :
    numbered file number d.render = diagnosticLine file number d := by
  obtain ⟨rule, severity, message, level, fix⟩ := d
  cases severity <;> cases level <;> rfl

/-- What is said about a selector depends on the selector alone. -/
theorem exists_entry {line : Nat} (hshort : ∀ segments, Chain.cut selector = .ok segments →
      ∀ segment ∈ segments, ∀ body ∈ segment.bodies, ¬ Index.Overlong body) :
    ∃ found, entry session line selector = .ok found ∧
      (∀ file, found.lines file = linesOf file session.config.caseSensitive line selector) ∧
        found.severities = severitiesOf session.config.caseSensitive selector := by
  cases hparse : Chain.parse session.config.caseSensitive selector with
  | ok chain =>
    have hcompile := Chain.compile_eq_ok_iff.mpr hparse
    have hvalid := validate_eq_diagnosticsOf hcompile
    refine ⟨⟨line, selector, .compiled chain
      (diagnosticsOf session.config.caseSensitive selector)⟩, ?_, fun file => ?_, ?_⟩
    · simp only [entry, Session.compile, hparse, hvalid]
    · simp only [ReportEntry.lines, ReportEntry.remarks, linesOf, hcompile, List.map_map]
      exact List.map_congr_left fun d _ => numbered_render file line d
    · simp only [ReportEntry.severities, severitiesOf, hcompile]
  | error fault =>
    cases fault with
    | malformed reason =>
      have hcompile : Chain.compile session.config.caseSensitive selector =
          .error ⟨selector, .malformed reason⟩ := Chain.compile_eq_error_iff.mpr ⟨hparse, rfl⟩
      refine ⟨⟨line, selector, .refused reason⟩, ?_, fun file => ?_, ?_⟩
      · simp only [entry, Session.compile, hparse]
      · simp only [linesOf, hcompile]
        rfl
      · simp only [ReportEntry.severities, severitiesOf, hcompile]
    | breakdown cause =>
      -- the numeral that compiling breaks down on would be one of the bracketed texts
      obtain ⟨body, limit, ⟨front, segment, back, hcut, -, -, -, before, behind, hbodies, -⟩,
        hlimit, -⟩ := Chain.parse_eq_breakdown_iff.mp hparse
      have hbody : body ∈ segment.bodies := by simp [hbodies]
      exact absurd (Index.overlong_iff.mpr ⟨limit, hlimit⟩)
        (hshort _ hcut segment (by simp) body hbody)

/-! ### The whole file -/

/-- The selectors of the file that do not compile, with the numbers of their lines. -/
def failing (caseSensitive : Bool) (text : Text) : List (Nat × Text) :=
  (selectors text).filter fun line => !(Chain.compile caseSensitive line.2).isOk

/-- What the rules say about the selectors of the file that compile. -/
def diagnostics (caseSensitive : Bool) (text : Text) : List Diagnostic :=
  (selectors text).flatMap fun line => diagnosticsOf caseSensitive line.2

/-- The lines about the selectors of the file. -/
def printed (file : Text) (caseSensitive : Bool) (text : Text) : List Text :=
  (selectors text).flatMap fun line => linesOf file caseSensitive line.1 line.2

/-- The line that ends a report with nothing to say. -/
def okLine (file : Text) (checked : Nat) : Text :=
  "OK: ".toList ++ file ++ " is valid (".toList ++ Nat.toDigits 10 checked ++
    " selector(s), 0 diagnostics)".toList

/-- The line that ends every other report. -/
def summaryLine (checked errors warnings infos : Nat) : Text :=
  "Summary: ".toList ++ Nat.toDigits 10 checked ++ " selector(s), ".toList ++
    Nat.toDigits 10 errors ++ " error(s), ".toList ++ Nat.toDigits 10 warnings ++
    " warning(s), ".toList ++ Nat.toDigits 10 infos ++ " info".toList

/-- How serious each thing is that is said about the selectors of the file. -/
def severities (caseSensitive : Bool) (text : Text) : List Severity :=
  (selectors text).flatMap fun line => severitiesOf caseSensitive line.2

/-- The report on a file lists what is said about its selectors, one by one. -/
theorem exists_ofText (session : Session) (hshort : Measured text) :
    ∃ report, ofText session text = .ok report ∧ report.length = (selectors text).length ∧
      (∀ file, report.flatMap (·.lines file) =
        printed file session.config.caseSensitive text) ∧
      report.flatMap ReportEntry.severities =
        severities session.config.caseSensitive text := by
  have hlines : ∀ line ∈ selectors text, ∃ found, entry session line.1 line.2 = .ok found ∧
      (∀ file, found.lines file = linesOf file session.config.caseSensitive line.1 line.2) ∧
        found.severities = severitiesOf session.config.caseSensitive line.2 :=
    fun line hline => exists_entry (hshort line hline)
  obtain ⟨report, hreport, hentries⟩ := exists_mapM_eq_ok hlines
  refine ⟨report, hreport, hentries.length_eq.symm, fun file => ?_, ?_⟩
  · exact flatMap_eq_of_forall₂ (hentries.imp fun line found hfound => hfound.1 file)
  · exact flatMap_eq_of_forall₂ (hentries.imp fun line found hfound => hfound.2)

theorem count_error_severities (caseSensitive : Bool) (text : Text) :
    (severities caseSensitive text).count .error = (failing caseSensitive text).length := by
  unfold severities failing
  induction selectors text with
  | nil => rfl
  | cons line rest ih =>
    rw [List.flatMap_cons, List.count_append, ih, count_error_severitiesOf, List.filter_cons]
    cases (Chain.compile caseSensitive line.2).isOk
    · rw [if_neg (by simp), if_pos (by simp), List.length_cons, Nat.add_comm]
    · rw [if_pos rfl, if_neg (by simp), Nat.zero_add]

theorem count_severities {severity : Severity} (h : severity ≠ .error) (caseSensitive : Bool)
    (text : Text) :
    (severities caseSensitive text).count severity =
      (diagnostics caseSensitive text).countP (·.severity = severity) := by
  rw [severities, diagnostics, List.count_flatMap, List.countP_flatMap]
  refine congrArg List.sum (List.map_congr_left fun line _ => ?_)
  exact count_severitiesOf h caseSensitive line.2

/-- Nothing is said about a file whose selectors all compile to chains without diagnostics. -/
theorem severities_eq_nil_iff :
    severities caseSensitive text = [] ↔
      failing caseSensitive text = [] ∧ diagnostics caseSensitive text = [] := by
  have hline : ∀ selector, severitiesOf caseSensitive selector = [] ↔
      (Chain.compile caseSensitive selector).isOk ∧ diagnosticsOf caseSensitive selector = [] := by
    intro selector
    cases hcompile : Chain.compile caseSensitive selector <;>
      simp [severitiesOf, hcompile, Except.isOk, Except.toBool]
  simp only [severities, failing, diagnostics, List.flatMap_eq_nil_iff, List.filter_eq_nil_iff,
    hline, Bool.not_eq_true', Bool.not_eq_false, forall_and]

/-- Everything that is said has one of the three severities. -/
theorem length_severities (caseSensitive : Bool) (text : Text) :
    (severities caseSensitive text).length =
      (failing caseSensitive text).length +
        (diagnostics caseSensitive text).countP (·.severity = .warning) +
          (diagnostics caseSensitive text).countP (·.severity = .info) := by
  have hkinds : ∀ kinds : List Severity, kinds.length =
      kinds.count .error + kinds.count .warning + kinds.count .info := by
    intro kinds
    induction kinds with
    | nil => rfl
    | cons kind kinds ih => cases kind <;> simp [ih] <;> omega
  rw [hkinds, count_error_severities, count_severities (by decide),
    count_severities (by decide)]

/-! ### The output -/

/-- The lines of the standard output of a run that checks a file; the log goes elsewhere. -/
theorem filterMap_out_outcome (session : Session) (file : Text) (report : Report) :
    (report.outcome session file).lines.filterMap OutputLine.out? =
      report.flatMap (·.lines file) ++ closing file report := by
  have hentry : ∀ found : ReportEntry,
      (found.output session file).filterMap OutputLine.out? = found.lines file := by
    intro found
    have hlog : ∀ selector chain, (session.log selector chain).filterMap OutputLine.out? = [] := by
      intro selector chain
      unfold Session.log
      split <;> rfl
    rw [ReportEntry.output, List.filterMap_append, OutputLine.filterMap_out]
    cases found.verdict with
    | refused reason => rfl
    | compiled chain diagnostics => rw [hlog, List.nil_append]
  rw [outcome, List.filterMap_append, List.filterMap_flatMap, OutputLine.filterMap_out]
  simp only [hentry]

/-- The last lines of a report with what they count. -/
theorem closing_eq (file : Text) {report : Report}
    (hlength : report.length = (selectors text).length)
    (hseverities : report.flatMap ReportEntry.severities = severities caseSensitive text) :
    closing file report =
      if failing caseSensitive text = [] ∧ diagnostics caseSensitive text = [] then
        [okLine file (selectors text).length]
      else
        [[], summaryLine (selectors text).length (failing caseSensitive text).length
          ((diagnostics caseSensitive text).countP (·.severity = .warning))
          ((diagnostics caseSensitive text).countP (·.severity = .info))] := by
  simp only [closing, isClean, count, hlength, hseverities, List.isEmpty_iff,
    severities_eq_nil_iff, count_error_severities,
    count_severities (show Severity.warning ≠ .error by decide),
    count_severities (show Severity.info ≠ .error by decide)]
  rfl

end Report

/-- **The report on a file adds up.** The selectors are the lines that are neither blank nor open
with a number sign. Each that does not compile is an error, and the diagnostics of the others are
warnings and infos, never errors. All of them are printed once, with the numbers of their lines and
in their order. Behind them stands the line for a valid file if there are none, and the summary with
their numbers otherwise. The run fails exactly when a selector does not compile. -/
theorem Program.outcome_check_adds_up (mode : MarkupMode) (choice : Option Bool) (verbose : Bool)
    (path : Text) {content : ByteArray} {text : Text} (htext : decode? content = some text)
    (hshort : Report.Measured text) :
    let config := Config.resolve mode choice
    let failing := Report.failing config.caseSensitive text
    let diagnostics := Report.diagnostics config.caseSensitive text
    let printed := Report.printed (baseName path) config.caseSensitive text
    let checked := (Report.selectors text).length
    let warnings := diagnostics.countP (·.severity = .warning)
    let infos := diagnostics.countP (·.severity = .info)
    (∀ number selector, (number, selector) ∈ Report.selectors text ↔
      1 ≤ number ∧ ∃ line, (Text.lines text)[number - 1]? = some line ∧
        selector = Text.trim line ∧ selector ≠ [] ∧ selector.head? ≠ some '#') ∧
    ((Report.selectors text).Pairwise fun line other => line.1 < other.1) ∧
    (∀ line ∈ Report.selectors text, ∀ chain,
      Chain.compile config.caseSensitive line.2 = .ok chain →
        chain.validate = .ok (Report.diagnosticsOf config.caseSensitive line.2)) ∧
    (∀ (rule : Rule) (chain : Chain), ∀ d ∈ rule.report chain, d.severity ≠ .error) ∧
    printed.length = failing.length + warnings + infos ∧
    ∃ outcome, Task.outcome ⟨config, verbose⟩ (.check path content) = .ok outcome ∧
      outcome.lines.filterMap OutputLine.out? = printed ++
        (if failing = [] ∧ diagnostics = [] then [Report.okLine (baseName path) checked]
        else [[], Report.summaryLine checked failing.length warnings infos]) ∧
      outcome.exitCode = if failing = [] then 0 else 1 := by
  intro config failing diagnostics printed checked warnings infos
  obtain ⟨report, hreport, hlength, hprinted, hseverities⟩ :=
    Report.exists_ofText ⟨config, verbose⟩ hshort
  have herrors : report.count .error = failing.length := by
    rw [Report.count, hseverities, Report.count_error_severities]
  have hcount : printed.length = failing.length + warnings + infos := by
    rw [← Report.length_severities, ← hseverities, List.length_flatMap]
    simp only [← ReportEntry.length_lines (baseName path)]
    rw [← List.length_flatMap, hprinted]
  refine ⟨fun _ _ => Report.mem_selectors_iff, Report.pairwise_selectors text,
    fun _ _ _ => Report.validate_eq_diagnosticsOf,
    fun _ _ _ => Rule.severity_ne_error_of_mem_report, hcount,
    report.outcome ⟨config, verbose⟩ (baseName path), ?_, ?_, ?_⟩
  · simp only [Task.outcome, htext, hreport]
  · rw [Report.filterMap_out_outcome, hprinted, Report.closing_eq _ hlength hseverities]
  · simp only [Report.outcome, herrors, List.length_eq_zero_iff]

/-- The encoding of a text in UTF-8 is read back. -/
theorem Program.decode?_toUTF8 (text : Text) :
    decode? (String.ofList text).toUTF8 = some text := by
  have hvalid : String.fromUTF8? (String.ofList text).toUTF8 = some (String.ofList text) :=
    dif_pos (String.ofList text).isValidUTF8
  rw [decode?, hvalid, Option.map_some, String.toList_ofList]

/-- A comment, a blank line, a selector that does not compile, and one with a warning and an
info. -/
theorem Program.outcome_check_adds_up_lines :
    let text := "# c\r\n\r\n/a[\n  /x[@b][@b][3 and @c]  ".toList
    Report.Measured text ∧
      ∃ outcome, Task.outcome ⟨Config.resolve .xml none, true⟩
          (.check "dir/list".toList (String.ofList text).toUTF8) = .ok outcome ∧
        outcome.lines.filterMap OutputLine.out? =
          ["list:3: ERROR: Invalid syntax in selector \"/a[\": ".toList ++
              "unexpected end of selector, expected ".toList ++
              "(/|//)(name)([@attrib='value' (and @attrib2='value')*])*([index])?".toList,
            "list:4: WARNING level 0 (check_index_shaped_attribute): ".toList ++
              "Modifier [3] is not a valid index and was ".toList ++
              "read as a test for an attribute named '3'.".toList,
            "list:4: INFO level 0 (check_duplicate_conditions): ".toList ++
              "Condition @b is repeated at level /x[@b and @b and @3 and @c].".toList,
            [], "Summary: 2 selector(s), 1 error(s), 1 warning(s), 1 info".toList] ∧
        outcome.exitCode = 1 := by
  intro text
  have hselectors : Report.selectors text =
      [(3, "/a[".toList), (4, "/x[@b][@b][3 and @c]".toList)] := by decide +kernel
  have hsegments : Chain.cut "/x[@b][@b][3 and @c]".toList =
      .ok [⟨['/'], ['x'], ["@b".toList, "@b".toList, "3 and @c".toList]⟩] := by decide +kernel
  have hbodies : ∀ body ∈ ["@b".toList, "@b".toList, "3 and @c".toList],
      Index.parse? body = .ok none := by decide +kernel
  have hshort : Report.Measured text := by
    rw [Report.Measured, hselectors, List.forall_mem_cons, List.forall_mem_singleton]
    constructor
    · intro segments hcut
      have herror : Chain.cut "/a[".toList = .error .unexpectedEnd := by decide +kernel
      cases herror.symm.trans hcut
    · intro segments hcut segment hsegment body hbody
      obtain rfl := Except.ok.inj (hsegments.symm.trans hcut)
      obtain rfl := List.mem_singleton.mp hsegment
      exact Index.exists_parse?_eq_ok_iff.mp ⟨none, hbodies body hbody⟩
  obtain ⟨-, -, -, -, -, outcome, houtcome, hlines, hexit⟩ :=
    outcome_check_adds_up .xml none true "dir/list".toList (decode?_toUTF8 text) hshort
  refine ⟨hshort, outcome, houtcome, hlines.trans ?_, hexit.trans ?_⟩
  · decide +kernel
  · decide +kernel

end PathSelector
