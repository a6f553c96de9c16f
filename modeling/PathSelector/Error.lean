import PathSelector.Level.Basic
import PathSelector.Shorthand

/-!
# Why a selector is refused

A part of a selector is refused for a `Reason`, which is about its form. A stage that reads a part
can also end in a `Breakdown`, which is not. Either is a `Fault`, and a `SelectorError` is a fault
together with the whole selector as it was given.

Main definitions:

* `Breakdown`: how a stage can end other than with a result or a reason;
* `Reason.text`: the wording of a reason;
* `Reason.column?`: the place a reason points at, the first character being column one;
* `SelectorError.message`: the wording of an error.
-/

namespace PathSelector

/-- Why the form of a selector is refused. -/
inductive Reason where
  /-- No selector goes on with the character `c`, which stands at the given column. -/
  | unexpectedChar (c : Char) (column : Nat)
  /-- The text ends in the middle of a level. -/
  | unexpectedEnd
  /-- A level opens with something other than one or two slashes. -/
  | badLead (lead : Text)
  /-- A level has neither a name nor a modifier. -/
  | emptyLevel
  /-- A name holds the marks of several kinds of shorthand. -/
  | severalShorthands
  /-- Only blanks follow the mark of a shorthand. -/
  | emptyShorthand (kind : Shorthand) (name : Text)
  /-- The value of a shorthand holds both kinds of quotes, so that neither can enclose it. -/
  | mixedQuotes (kind : Shorthand) (name : Text)
  /-- An index is followed by a further modifier. -/
  | indexNotLast (body : Text)
  /-- A condition is blank. -/
  | emptyCondition
  /-- A condition names no attribute. -/
  | unnamedCondition (atom : Text)
  /-- The value of a condition is not enclosed in quotes. -/
  | unquotedValue (atom : Text)
deriving DecidableEq

/-- How a stage ends that neither reads its part nor refuses the form of it. -/
inductive Breakdown where
  /-- A numeral has too many digits. -/
  | digitLimit (limit : DigitLimitExceeded)
  /-- The token of a condition writes no operator. -/
  | unknownOperator (unknown : UnknownOperator)
  /-- A level selects text nodes and elements of a name at once. -/
  | targetConflict (conflict : TargetConflict)
deriving DecidableEq

/-- Why a selector is refused. -/
inductive Fault where
  /-- Its form is wrong. -/
  | malformed (reason : Reason)
  /-- A stage broke down. -/
  | breakdown (cause : Breakdown)
deriving DecidableEq

/-- The refusal of a selector, which it cites as it was given. -/
structure SelectorError where
  selector : Text
  fault : Fault
deriving DecidableEq

namespace Reason

/-- The shape of a selector, as messages show it. -/
def hint : Text :=
  "(/|//)(name)([@attrib='value' (and @attrib2='value')*])*([index])?".toList

/-- The wording of a reason. -/
def text : Reason → Text
  | unexpectedChar c _ => "unexpected ".toList ++ Text.quoted [c] ++ ", expected ".toList ++ hint
  | unexpectedEnd => "unexpected end of selector, expected ".toList ++ hint
  | badLead lead => "level must start with '/' or '//', not ".toList ++ Text.quoted lead
  | emptyLevel => "'/' should be followed by further selector specification".toList
  | severalShorthands =>
    "more than one modifier (id, class, reference) has been specified, which is forbidden".toList
  | emptyShorthand kind name =>
    "empty ".toList ++ kind.label ++ " modifier in level ".toList ++ Text.quoted name
  | mixedQuotes kind name =>
    kind.label ++ " modifier in level ".toList ++ Text.quoted name ++
      " mixes single and double quotes".toList
  | indexNotLast body =>
    "index modifier [".toList ++ body ++ "] must be the last modifier of its level".toList
  | emptyCondition => "empty attribute condition".toList
  | unnamedCondition atom =>
    "attribute condition ".toList ++ Text.quoted atom ++ " has no attribute name".toList
  | unquotedValue atom =>
    "value in attribute condition ".toList ++ Text.quoted atom ++
      " must be enclosed in matching single or double quotes".toList

/-- The column that the reason points at. -/
def column? : Reason → Option Nat
  | unexpectedChar _ column => some column
  | _ => none

end Reason

/-- The wording of a breakdown. -/
def Breakdown.message : Breakdown → Text
  | digitLimit limit => limit.message
  | unknownOperator unknown => unknown.message
  | targetConflict conflict => conflict.message

namespace SelectorError

/-- The wording of an error in the form of a selector. -/
def malformedMessage (selector : Text) (reason : Reason) : Text :=
  "Invalid syntax in selector \"".toList ++ selector ++ "\": ".toList ++ reason.text

/-- The wording of an error. -/
def message (e : SelectorError) : Text :=
  match e.fault with
  | .malformed reason => malformedMessage e.selector reason
  | .breakdown cause => cause.message

end SelectorError

end PathSelector
