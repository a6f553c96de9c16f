import PathSelector.Text.Basic

/-!
# Runs of code points

A class of characters is given by a table of runs of code points in ascending order.
`CodeRange.covers` searches such a table and stops at the first run that lies beyond the
character, so a character near the start of the table is found after a few comparisons. On an
ascending table this is plain membership (`CodeRange.covers_iff`).
-/

namespace PathSelector

/-- A run of consecutive code points, both ends included. -/
structure CodeRange where
  first : Nat
  last : Nat
deriving DecidableEq

namespace CodeRange

/-- Whether the code point lies in the run. -/
def contains (r : CodeRange) (code : Nat) : Bool := r.first ≤ code && code ≤ r.last

/-- Whether some run of an ascending table holds the code point. -/
def covers : List CodeRange → Nat → Bool
  | [], _ => false
  | r :: rest, code => r.first ≤ code && (code ≤ r.last || covers rest code)

/-- Every run is followed by runs that start beyond its first code point. -/
def Ascending (table : List CodeRange) : Prop :=
  table.Pairwise fun r s => r.first < s.first

instance (table : List CodeRange) : Decidable (Ascending table) :=
  inferInstanceAs (Decidable (table.Pairwise _))

/-- On an ascending table the search finds a code point exactly when some run contains it. -/
theorem covers_iff {table : List CodeRange} (h : Ascending table) (code : Nat) :
    covers table code = true ↔ ∃ r ∈ table, r.contains code = true := by
  induction table with
  | nil => simp [covers]
  | cons r rest ih =>
    obtain ⟨hr, hrest⟩ := List.pairwise_cons.mp h
    simp only [covers, contains, Bool.and_eq_true, Bool.or_eq_true, decide_eq_true_eq,
      List.mem_cons, exists_eq_or_imp, ih hrest]
    constructor
    · rintro ⟨hfirst, hlast | ⟨s, hs, hcode⟩⟩
      · exact Or.inl ⟨hfirst, hlast⟩
      · exact Or.inr ⟨s, hs, hcode⟩
    · rintro (⟨hfirst, hlast⟩ | ⟨s, hs, hcode⟩)
      · exact ⟨hfirst, Or.inl hlast⟩
      · have hlt := hr s hs
        exact ⟨by omega, Or.inr ⟨s, hs, hcode⟩⟩

end CodeRange

end PathSelector
