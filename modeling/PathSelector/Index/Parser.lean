import PathSelector.Index.Basic
import PathSelector.Text.Blank
import PathSelector.Text.Lower

/-!
# Reading an index

The text between two brackets is an index when its small form is one of the words for the
parities, or when it is an integer of 32 bits with an optional sign of comparison in front. Every
other text is no index.
-/

namespace PathSelector

namespace Index

/-- The smallest number an index may hold. -/
def least : Int := -2147483648

/-- The largest number an index may hold. -/
def greatest : Int := 2147483647

/-- The number of an index, if the text is a numeral in range with blanks around it. -/
def number? (text : Text) : Except DigitLimitExceeded (Option Int) :=
  match Numeral.read? (Text.trim text) with
  | none => .ok none
  | some numeral =>
    match numeral.value with
    | .error limit => .error limit
    | .ok value => .ok (if least ≤ value ∧ value ≤ greatest then some value else none)

/-- The index of the given kind whose number is the text, if it is one. -/
def numbered? (kind : IndexKind) (text : Text) : Except DigitLimitExceeded (Option Index) :=
  (number? text).map (Option.map fun value => ⟨kind, value⟩)

/-- A bracketed text as an index, if it is one. -/
def parse? (body : Text) : Except DigitLimitExceeded (Option Index) :=
  let word := Text.lower body
  if word = oddWord then .ok (some ⟨.odd, -1⟩)
  else if word = evenWord then .ok (some ⟨.even, -1⟩)
  else
    match body with
    | '>' :: bound => numbered? .moreThan bound
    | '<' :: bound => numbered? .lessThan bound
    | _ => numbered? .exactly body

end Index

end PathSelector
