import PathSelector.Condition.Parser
import PathSelector.Proofs.Segment.Grammar
import PathSelector.Proofs.Text.Trim

/-!
# Words outside quotes

A word is bare in a text when some occurrence of it starts outside quotes. Bare closing brackets
and open quotes tell whether a text may stand between brackets, and bare joining words tell how it
falls into conditions.

Main definitions:

* `Condition.BareFrom`, `Condition.Bare`: a word starts outside quotes;
* `Condition.joiner`: the joining word without the space behind it.

Main statements:

* `isBody_iff`: a text may stand between brackets when its quotes pair up and no closing bracket
  is bare;
* `bareFrom_append_mark`, `not_bareFrom_quoted`: a word is bare on one side of a character that it
  lacks, and not inside a quoted text;
* `intercalate_atomsFrom`: cutting at the joining words loses nothing;
* `atoms_intercalate_iff`: which texts are found again when they are joined and cut.
-/

namespace PathSelector

namespace Condition

/-- Some occurrence of the word in the text starts outside quotes, when `quote` is open in front. -/
def BareFrom (quote : Option Char) (word text : Text) : Prop :=
  ∃ front back, text = front ++ word ++ back ∧ openQuote quote front = none

/-- Some occurrence of the word in the text starts outside quotes. -/
def Bare (word text : Text) : Prop := BareFrom none word text

/-- The joining word without the space behind it. -/
def joiner : Text := " and".toList

theorem joint_eq : joint = [' ', 'a', 'n', 'd', ' '] := rfl

theorem joint_eq_joiner : joint = joiner ++ [' '] := rfl

/-! ### Open quotes -/

/-- Only a quote character can be open. -/
theorem isQuote_of_openQuote {text : Text} {quote : Option Char} {q : Char}
    (hquote : ∀ p, quote = some p → Text.isQuote p = true)
    (h : openQuote quote text = some q) : Text.isQuote q = true := by
  induction text generalizing quote with
  | nil => exact hquote q h
  | cons c text ih =>
    refine ih (fun p hp => ?_) h
    cases quote with
    | none =>
      by_cases hc : Text.isQuote c = true
      · simp only [openQuoteAfter, hc, if_true, Option.some.injEq] at hp
        exact hp ▸ hc
      · simp [openQuoteAfter, hc] at hp
    | some r =>
      by_cases hc : c = r
      · simp [openQuoteAfter, hc] at hp
      · simp only [openQuoteAfter, hc, if_false] at hp
        exact hquote p hp

/-- An open quote stays open until its next occurrence. -/
theorem openQuote_some_of_notMem {q : Char} {text : Text} (h : q ∉ text) :
    openQuote (some q) text = some q := by
  induction text with
  | nil => rfl
  | cons c text ih =>
    rw [List.mem_cons, not_or] at h
    rw [openQuote_cons, openQuoteAfter, if_neg (Ne.symm h.1), ih h.2]

/-- A text without quotes opens none. -/
theorem openQuote_none_of_plain {text : Text} (h : ∀ c ∈ text, Text.isQuote c = false) :
    openQuote none text = none := by
  induction text with
  | nil => rfl
  | cons c text ih =>
    obtain ⟨hc, htext⟩ := List.forall_mem_cons.mp h
    rw [openQuote_cons, openQuoteAfter, hc]
    exact ih htext

/-- A text without quotes changes nothing about the quote that is open. -/
theorem openQuote_append_plain {text plain : Text} (h : ∀ c ∈ plain, Text.isQuote c = false) :
    openQuote none (text ++ plain) = openQuote none text := by
  rw [openQuote_append]
  cases hquote : openQuote none text with
  | none => exact openQuote_none_of_plain h
  | some q =>
    refine openQuote_some_of_notMem fun hmem => ?_
    have hq := isQuote_of_openQuote (by simp) hquote
    rw [h q hmem] at hq
    cases hq

theorem isQuote_joint : ∀ c ∈ joint, Text.isQuote c = false := by decide

/-! ### Bare words -/

theorem not_bareFrom_nil {quote : Option Char} {word : Text} (h : word ≠ []) :
    ¬ BareFrom quote word [] := by
  rintro ⟨front, back, heq, -⟩
  simp [h] at heq

/-- A word is bare when it stands in front outside quotes or is bare behind the first character. -/
theorem bareFrom_cons_iff {quote : Option Char} {word : Text} {c : Char} {text : Text} :
    BareFrom quote word (c :: text) ↔
      quote = none ∧ word <+: c :: text ∨ BareFrom (openQuoteAfter quote c) word text := by
  constructor
  · rintro ⟨front, back, heq, hquote⟩
    cases front with
    | nil => exact Or.inl ⟨hquote, back, by simp [heq]⟩
    | cons d front =>
      obtain ⟨rfl, rfl⟩ : c = d ∧ text = front ++ word ++ back := by simpa using heq
      exact Or.inr ⟨front, back, rfl, hquote⟩
  · rintro (⟨rfl, back, heq⟩ | ⟨front, back, rfl, hquote⟩)
    · exact ⟨[], back, by simp [heq], rfl⟩
    · exact ⟨c :: front, back, by simp, hquote⟩

theorem Bare.append {word text : Text} (h : Bare word text) (more : Text) :
    Bare word (text ++ more) := by
  obtain ⟨front, back, rfl, hquote⟩ := h
  exact ⟨front, back ++ more, by simp, hquote⟩

/-- A single character is bare in one of two texts put together. -/
theorem bareFrom_singleton_append_iff {quote : Option Char} {mark : Char} {text more : Text} :
    BareFrom quote [mark] (text ++ more) ↔
      BareFrom quote [mark] text ∨ BareFrom (openQuote quote text) [mark] more := by
  induction text generalizing quote with
  | nil =>
    have hnil : ¬ BareFrom quote [mark] [] := not_bareFrom_nil (by simp)
    simp [hnil]
  | cons c text ih =>
    have hfront : [mark] <+: c :: (text ++ more) ↔ [mark] <+: c :: text := by
      simp [List.cons_prefix_cons]
    rw [List.cons_append, bareFrom_cons_iff, bareFrom_cons_iff, ih, hfront, openQuote_cons,
      or_assoc]

/-- A character that does not occur is nowhere bare. -/
theorem not_bareFrom_of_notMem {quote : Option Char} {mark : Char} {text : Text}
    (h : mark ∉ text) : ¬ BareFrom quote [mark] text := by
  rintro ⟨front, back, rfl, -⟩
  simp at h

/-- A word does not start with a character that it lacks. -/
theorem bareFrom_of_cons {quote : Option Char} {word text : Text} {c : Char} (hc : c ∉ word)
    (hne : word ≠ []) (h : BareFrom quote word (c :: text)) :
    BareFrom (openQuoteAfter quote c) word text := by
  rcases bareFrom_cons_iff.mp h with ⟨-, hword⟩ | htext
  · obtain ⟨d, rest, rfl⟩ := List.exists_cons_of_ne_nil hne
    obtain ⟨rfl, -⟩ := List.cons_prefix_cons.mp hword
    exact absurd List.mem_cons_self hc
  · exact htext

/-- A word is bare on one side of a character that it lacks. -/
theorem bareFrom_append_mark {quote : Option Char} {word text more : Text} {mark : Char}
    (hmark : mark ∉ word) (hne : word ≠ []) (h : BareFrom quote word (text ++ mark :: more)) :
    BareFrom quote word text ∨ BareFrom (openQuote quote (text ++ [mark])) word more := by
  induction text generalizing quote with
  | nil => exact Or.inr (bareFrom_of_cons hmark hne h)
  | cons c text ih =>
    rcases bareFrom_cons_iff.mp h with ⟨hquote, hword⟩ | htext
    · refine Or.inl (bareFrom_cons_iff.mpr (Or.inl ⟨hquote, ?_⟩))
      have hsplit : c :: (text ++ mark :: more) = (c :: text ++ [mark]) ++ more := by simp
      have hmarked : c :: text ++ [mark] <+: c :: (text ++ mark :: more) := ⟨more, hsplit.symm⟩
      rcases List.prefix_or_prefix_of_prefix hword hmarked with hshort | hlong
      · rcases List.prefix_concat_iff.mp hshort with rfl | hfront
        · exact absurd (by simp) hmark
        · exact hfront
      · exact absurd (hlong.subset (by simp)) hmark
    · rcases ih htext with hfront | hmore
      · exact Or.inl (bareFrom_cons_iff.mpr (Or.inr hfront))
      · exact Or.inr hmore

/-- A quoted text pairs up its quotes when it does not hold the one that encloses it. -/
theorem openQuote_quoted {q : Char} {inner : Text} (hq : Text.isQuote q = true) (h : q ∉ inner) :
    openQuote none (q :: inner ++ [q]) = none := by
  rw [List.cons_append, openQuote_cons, openQuoteAfter, if_pos hq, openQuote_append,
    openQuote_some_of_notMem h, openQuote_cons, openQuoteAfter, if_pos rfl, openQuote_nil]

/-- No word but the enclosing quote is bare in a quoted text. -/
theorem not_bareFrom_quoted {q : Char} {inner word : Text} (hq : Text.isQuote q = true)
    (h : q ∉ inner) (hne : word ≠ []) (hword : q ∉ word) :
    ¬ BareFrom none word (q :: inner ++ [q]) := by
  intro hbare
  obtain ⟨front, back, heq, hopen⟩ := bareFrom_of_cons hword hne hbare
  rw [openQuoteAfter, if_pos hq] at hopen
  -- the quote is closed in front of the word, but its next occurrence is the last character
  have hmem : q ∈ front := by
    by_contra hmem
    rw [openQuote_some_of_notMem hmem] at hopen
    cases hopen
  obtain ⟨behind, hbehind⟩ := Option.ne_none_iff_exists'.mp
    (mt Text.after?_eq_none_iff.mp (not_not.mpr hmem))
  have hsides : inner ++ q :: [] = Text.upTo q front ++ q :: (behind ++ word ++ back) := by
    rw [← Text.upTo_append_after hbehind] at heq
    refine heq.trans ?_
    simp only [List.append_assoc, List.cons_append]
  obtain ⟨-, hnil⟩ := Text.sides_unique h (Text.mark_notMem_upTo q front) hsides
  simp [hne] at hnil

/-! ### Between brackets -/

/-- A text is read up to the closing bracket behind it exactly when its quotes pair up and none of
its closing brackets is bare. -/
theorem scanBody_append_bracket_iff {quote : Option Char} {text rest : Text} :
    Segment.scanBody quote (text ++ ']' :: rest) = (text, ']' :: rest) ↔
      openQuote quote text = none ∧ ¬ BareFrom quote [']'] text := by
  induction text generalizing quote with
  | nil =>
    have hnil : ¬ BareFrom quote [']'] [] := not_bareFrom_nil (by simp)
    cases quote with
    | none => simp [Segment.scanBody, hnil]
    | some q => simp [Segment.scanBody, Prod.ext_iff]
  | cons c text ih =>
    have hmap : ∀ read : Text × Text,
        read.map (c :: ·) id = (c :: text, ']' :: rest) ↔ read = (text, ']' :: rest) := by
      simp [Prod.ext_iff]
    rw [bareFrom_cons_iff, openQuote_cons, not_or]
    cases quote with
    | some q =>
      rw [List.cons_append, Segment.scanBody, hmap, ih, openQuoteAfter]
      simp
    | none =>
      rw [List.cons_append, Segment.scanBody]
      by_cases hbracket : c = ']'
      · simp [hbracket]
      · have hfront : ¬ [']'] <+: c :: text := by
          simpa [List.cons_prefix_cons] using Ne.symm hbracket
        rw [if_neg hbracket]
        by_cases hquote : Text.isQuote c = true
        · rw [if_pos hquote, openQuoteAfter, if_pos hquote, ← and_assoc,
            and_iff_left (a := openQuote (some c) text = none) fun h => hfront h.2, ← ih]
          split
          · exact hmap _
          · next hmem =>
            -- a quote that is not closed ends the body in front of it
            constructor
            · intro h
              simp at h
            · intro h
              have hopen := (ih.mp h).1
              rw [openQuote_some_of_notMem fun hc => hmem (List.mem_append_left _ hc)] at hopen
              cases hopen
        · rw [if_neg hquote, hmap, ih, openQuoteAfter, if_neg hquote]
          simp [hfront]

/-- A text may stand between brackets exactly when it is not empty, its quotes pair up and none of
its closing brackets is bare. -/
theorem isBody_iff {text : Text} :
    Segment.IsBody text ↔ text ≠ [] ∧ openQuote none text = none ∧ ¬ Bare [']'] text := by
  constructor
  · intro h
    exact ⟨h.ne_nil, scanBody_append_bracket_iff.mp (Segment.scanBody_append_bracket h [])⟩
  · rintro ⟨hne, htext⟩
    have hscan : Segment.scanBody none (text ++ [']']) = (text, [']']) :=
      scanBody_append_bracket_iff.mpr htext
    exact Segment.isBody_of_scanBody hscan hne

/-! ### Joined texts -/

theorem atomsFrom_joint_append (rest : Text) :
    atomsFrom none (joint ++ rest) = [] :: atomsFrom none rest := rfl

/-- Where no joining word starts outside quotes, a character belongs to the first text. -/
theorem atomsFrom_cons {quote : Option Char} {c : Char} {rest : Text}
    (h : ¬ (quote = none ∧ joint <+: c :: rest)) :
    atomsFrom quote (c :: rest) = Text.consFirst c (atomsFrom (openQuoteAfter quote c) rest) := by
  rw [atomsFrom.eq_3]
  intro tail hquote hc hrest
  subst hquote hc hrest
  exact h ⟨rfl, tail, rfl⟩

/-- The first text of a body: the whole body when no joining word is bare in it, and otherwise what
stands in front of the first bare one. -/
theorem atomsFrom_eq_singleton_or (quote : Option Char) (text : Text) :
    atomsFrom quote text = [text] ∧ ¬ BareFrom quote joint text ∨
      ∃ atom rest, text = atom ++ joint ++ rest ∧
        atomsFrom quote text = atom :: atomsFrom none rest ∧ openQuote quote atom = none ∧
          ¬ BareFrom quote joint (atom ++ [' ']) := by
  induction text generalizing quote with
  | nil => exact Or.inl ⟨by rw [atomsFrom], not_bareFrom_nil (by decide)⟩
  | cons c text ih =>
    by_cases hjoint : quote = none ∧ joint <+: c :: text
    · -- the first text is empty, and a space alone does not hold the word
      obtain ⟨rfl, rest, hrest⟩ := hjoint
      refine Or.inr ⟨[], rest, by simp [hrest], by rw [← hrest, atomsFrom_joint_append], rfl, ?_⟩
      rintro ⟨front, back, heq, -⟩
      have hlen := congrArg List.length heq
      simp [joint] at hlen
      omega
    · -- the character goes to the first text of what follows
      have hcons := atomsFrom_cons hjoint
      rcases ih (openQuoteAfter quote c) with
        ⟨hatoms, hbare⟩ | ⟨atom, rest, rfl, hatoms, hopen, hbare⟩
      · left
        rw [hcons, hatoms, bareFrom_cons_iff, not_or]
        exact ⟨rfl, hjoint, hbare⟩
      · right
        refine ⟨c :: atom, rest, by simp, by rw [hcons, hatoms]; rfl, hopen, ?_⟩
        rw [List.cons_append, bareFrom_cons_iff, not_or]
        refine ⟨?_, hbare⟩
        rintro ⟨hquote, hfront⟩
        refine hjoint ⟨hquote, hfront.trans ?_⟩
        exact ⟨['a', 'n', 'd', ' '] ++ rest, by simp [joint]⟩

/-- Cutting a body at the joining words loses nothing. -/
theorem intercalate_atomsFrom (quote : Option Char) (text : Text) :
    List.intercalate joint (atomsFrom quote text) = text := by
  -- what stands behind the first joining word is no part of the text by structure, only shorter
  induction hlen : text.length using Nat.strong_induction_on generalizing quote text with
  | _ n ih =>
    rcases atomsFrom_eq_singleton_or quote text with ⟨hatoms, -⟩ | ⟨atom, rest, rfl, hatoms, -, -⟩
    · rw [hatoms, List.intercalate_singleton]
    · have hshorter : rest.length < n := by
        rw [← hlen]
        simp [joint]
        omega
      have hrest := ih rest.length hshorter none rest rfl
      obtain ⟨next, more, hnext⟩ := List.exists_cons_of_ne_nil (atomsFrom_ne_nil none rest)
      rw [hatoms, hnext, List.intercalate_cons_cons, ← hnext, hrest]

theorem intercalate_atoms (body : Text) : List.intercalate joint (atoms body) = body :=
  intercalate_atomsFrom none body

/-- A body in which no joining word is bare is one text. -/
theorem atomsFrom_eq_singleton_iff {quote : Option Char} {text : Text} :
    atomsFrom quote text = [text] ↔ ¬ BareFrom quote joint text := by
  rcases atomsFrom_eq_singleton_or quote text with
    ⟨hatoms, hbare⟩ | ⟨atom, rest, heq, hatoms, hopen, -⟩
  · exact ⟨fun _ => hbare, fun _ => hatoms⟩
  · constructor
    · intro hone
      rw [hatoms] at hone
      exact absurd (List.cons.inj hone).2 (atomsFrom_ne_nil none rest)
    · intro hbare
      exact absurd ⟨atom, rest, heq, hopen⟩ hbare

/-- The joining word overlaps itself in its spaces only: one that starts in a text in front of
another ends with the first space of the other at the latest. -/
theorem joint_prefix_of_append {text rest : Text} (hne : text ≠ [])
    (h : joint <+: text ++ joint ++ rest) : joint <+: text ++ [' '] := by
  -- a text of up to three characters would make the space of the second word a letter of the first
  match text, hne with
  | [_], _ => simp [joint, List.cons_prefix_cons] at h
  | [_, _], _ => simp [joint, List.cons_prefix_cons] at h
  | [_, _, _], _ => simp [joint, List.cons_prefix_cons] at h
  | c :: d :: e :: f :: text, _ =>
    rw [joint_eq] at h ⊢
    simp only [List.cons_append, List.cons_prefix_cons] at h ⊢
    obtain ⟨hc, hd, he, hf, htail⟩ := h
    refine ⟨hc, hd, he, hf, ?_⟩
    cases text with
    | nil => exact List.prefix_refl _
    | cons g text => simpa [List.cons_prefix_cons] using htail

/-- A text that closes its quotes is cut off at the joining word behind it, unless another one is
bare before. -/
theorem atomsFrom_append_joint_append {quote : Option Char} {text : Text}
    (hopen : openQuote quote text = none) (hbare : ¬ BareFrom quote joint (text ++ [' ']))
    (rest : Text) : atomsFrom quote (text ++ joint ++ rest) = text :: atomsFrom none rest := by
  induction text generalizing quote with
  | nil =>
    obtain rfl : quote = none := hopen
    exact atomsFrom_joint_append rest
  | cons c text ih =>
    rw [List.cons_append, bareFrom_cons_iff, not_or] at hbare
    have hjoint : ¬ (quote = none ∧ joint <+: c :: (text ++ joint ++ rest)) := by
      rintro ⟨hquote, hfront⟩
      exact hbare.1 ⟨hquote, joint_prefix_of_append (List.cons_ne_nil c text) hfront⟩
    rw [List.cons_append, List.cons_append, atomsFrom_cons hjoint, ih hopen hbare.2]
    rfl

/-- Behind a text that closes its quotes, a space completes a bare joining word only if the text
ends with the rest of it. -/
theorem bare_joint_append_space_iff {text : Text} (hopen : openQuote none text = none) :
    Bare joint (text ++ [' ']) ↔ Bare joint text ∨ joiner <:+ text := by
  constructor
  · rintro ⟨front, back, heq, hfront⟩
    rcases List.eq_nil_or_concat back with rfl | ⟨back, c, rfl⟩
    · right
      rw [List.append_nil, joint_eq_joiner, ← List.append_assoc] at heq
      exact ⟨front, (List.append_inj_left' heq rfl).symm⟩
    · left
      rw [List.concat_eq_append, ← List.append_assoc] at heq
      exact ⟨front, back, List.append_inj_left' heq rfl, hfront⟩
  · rintro (hbare | ⟨front, rfl⟩)
    · exact hbare.append [' ']
    · refine ⟨front, [], by simp [joint_eq_joiner], ?_⟩
      rwa [openQuote_append_plain (by decide)] at hopen

/-- **Joined texts are found again** exactly when no joining word is bare in any of them and each
but the last closes its quotes and does not end with the joining word. -/
theorem atoms_intercalate_iff {parts : List Text} :
    atoms (List.intercalate joint parts) = parts ↔
      parts ≠ [] ∧ (∀ part ∈ parts, ¬ Bare joint part) ∧
        ∀ part ∈ parts.dropLast, openQuote none part = none ∧ ¬ joiner <:+ part := by
  induction parts with
  | nil => simp [atoms, atomsFrom]
  | cons part parts ih =>
    cases parts with
    | nil => simpa [atoms, Bare] using atomsFrom_eq_singleton_iff
    | cons next rest =>
      rw [List.intercalate_cons_cons, List.dropLast_cons_of_ne_nil (by simp),
        List.forall_mem_cons (l := next :: rest),
        List.forall_mem_cons (l := (next :: rest).dropLast)]
      constructor
      · intro hatoms
        rcases atomsFrom_eq_singleton_or none
            (part ++ joint ++ List.intercalate joint (next :: rest)) with
          ⟨hone, -⟩ | ⟨atom, tail, heq, hcut, hopen, hbare⟩
        · rw [atoms, hone] at hatoms
          simp at hatoms
        · rw [atoms, hcut] at hatoms
          obtain ⟨rfl, hrest⟩ := List.cons.inj hatoms
          obtain rfl := List.append_cancel_left heq
          obtain ⟨-, hnot, hlast⟩ := ih.mp hrest
          have hspace := mt (bare_joint_append_space_iff hopen).mpr hbare
          rw [not_or] at hspace
          exact ⟨by simp, ⟨hspace.1, hnot⟩, ⟨hopen, hspace.2⟩, hlast⟩
      · rintro ⟨-, ⟨hpart, hnot⟩, ⟨hopen, hend⟩, hlast⟩
        have hspace : ¬ Bare joint (part ++ [' ']) := by
          rw [bare_joint_append_space_iff hopen, not_or]
          exact ⟨hpart, hend⟩
        rw [atoms, atomsFrom_append_joint_append hopen hspace]
        exact congrArg (part :: ·) (ih.mpr ⟨by simp, hnot, hlast⟩)

/-- Joined texts pair up their quotes when each of them does. -/
theorem openQuote_intercalate {parts : List Text} (h : ∀ part ∈ parts, openQuote none part = none) :
    openQuote none (List.intercalate joint parts) = none := by
  induction parts with
  | nil => rfl
  | cons part parts ih =>
    obtain ⟨hpart, hparts⟩ := List.forall_mem_cons.mp h
    cases parts with
    | nil => rwa [List.intercalate_singleton]
    | cons next rest =>
      rw [List.intercalate_cons_cons, openQuote_append, openQuote_append_plain isQuote_joint, hpart,
        ih hparts]

/-- When each but the last of some joined texts pairs up its quotes and so do all of them together,
the last one does too. -/
theorem openQuote_of_intercalate {parts : List Text}
    (hinit : ∀ part ∈ parts.dropLast, openQuote none part = none)
    (h : openQuote none (List.intercalate joint parts) = none) :
    ∀ part ∈ parts, openQuote none part = none := by
  induction parts with
  | nil => simp
  | cons part parts ih =>
    cases parts with
    | nil => simpa using h
    | cons next rest =>
      rw [List.dropLast_cons_of_ne_nil (by simp), List.forall_mem_cons] at hinit
      rw [List.intercalate_cons_cons, openQuote_append, openQuote_append_plain isQuote_joint,
        hinit.1] at h
      exact List.forall_mem_cons.mpr ⟨hinit.1, ih hinit.2 h⟩

/-- A closing bracket is bare in joined texts that pair up their quotes when it is bare in one of
them. -/
theorem bare_bracket_intercalate_iff {parts : List Text}
    (h : ∀ part ∈ parts, openQuote none part = none) :
    Bare [']'] (List.intercalate joint parts) ↔ ∃ part ∈ parts, Bare [']'] part := by
  induction parts with
  | nil => simpa [Bare] using not_bareFrom_nil (by simp)
  | cons part parts ih =>
    obtain ⟨hpart, hparts⟩ := List.forall_mem_cons.mp h
    cases parts with
    | nil => simp
    | cons next rest =>
      have hjoint : ¬ BareFrom none [']'] joint := not_bareFrom_of_notMem (by decide)
      have hsplit : (∃ p ∈ part :: next :: rest, Bare [']'] p) ↔
          Bare [']'] part ∨ ∃ p ∈ next :: rest, Bare [']'] p := by
        simp only [List.mem_cons, exists_eq_or_imp]
      rw [hsplit, ← ih hparts, List.intercalate_cons_cons, Bare,
        bareFrom_singleton_append_iff, bareFrom_singleton_append_iff,
        openQuote_append_plain isQuote_joint, hpart, or_iff_left hjoint]
      rfl

end Condition

end PathSelector
