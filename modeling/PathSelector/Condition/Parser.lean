import PathSelector.Condition.Basic
import PathSelector.Error
import PathSelector.Text.Blank
import PathSelector.Text.Lower

/-!
# Reading attribute conditions

A bracketed text holds conditions joined by the word `and` between two spaces. The word does not
join inside a quoted value, so the text is read with the quote that is open at each place
(`Condition.openQuote`).

Main definitions:

* `Condition.atoms`: the texts between the joining words;
* `Fragment.split`: name, token and value of one such text, as they are written;
* `Condition.parse` and `Condition.parseAll`: one condition, and all of a bracketed text.
-/

namespace PathSelector

/-! ### One condition -/

/-- The parts of a condition as they are written. -/
structure Fragment where
  name : Text
  /-- The token that writes the operator. -/
  token : Text
  /-- The text behind the equals sign, with its quotes. -/
  value : Option Text
deriving DecidableEq

namespace Fragment

/-- Whether a character in front of the equals sign belongs to the token. -/
def isMark (c : Char) : Bool := c ∈ "!^$*".toList

/-- The parts of a text that has an equals sign, the first of which stands between `before` and
`behind`. -/
def ofSides (before behind : Text) : Fragment :=
  match before.getLast?.filter isMark with
  | some mark => ⟨Text.trim before.dropLast, [mark, '='], some (Text.trim behind)⟩
  | none => ⟨Text.trim before, ['='], some (Text.trim behind)⟩

/-- The parts of a text without an equals sign, which tests presence or, behind an exclamation
mark, absence. -/
def ofName : Text → Fragment
  | '!' :: name => ⟨Text.trim name, ['!'], none⟩
  | name => ⟨Text.trim name, [], none⟩

/-- The parts of a condition; only the first equals sign counts. -/
def split (text : Text) : Fragment :=
  match Text.after? '=' text with
  | some behind => ofSides (Text.upTo '=' text) behind
  | none => ofName text

end Fragment

namespace Condition

/-- The value inside a text enclosed in two quotes of one kind. -/
def unquote? : Text → Option Text
  | [] => none
  | quote :: rest =>
    if Text.isQuote quote ∧ rest.getLast? = some quote then some rest.dropLast else none

/-- An attribute name without the sign that may introduce it. -/
def bareName : Text → Text
  | '@' :: name => name
  | name => name

/-- One condition, such as `@id='x'`, `@lang` or `!@hidden`, with blanks around it. -/
def parse (caseSensitive : Bool) (text : Text) : Except Fault Condition :=
  let atom := Text.trim text
  if atom = [] then .error (.malformed .emptyCondition)
  else
    let fragment := Fragment.split atom
    let name := bareName fragment.name
    if name = [] then .error (.malformed (.unnamedCondition atom))
    else
      match Operator.ofToken fragment.token with
      | .error unknown => .error (.breakdown (.unknownOperator unknown))
      | .ok operator =>
        match fragment.value with
        | none => .ok ⟨Text.fold caseSensitive name, operator, none⟩
        | some written =>
          match unquote? written with
          | none => .error (.malformed (.unquotedValue atom))
          | some value => .ok ⟨Text.fold caseSensitive name, operator, some value⟩

/-! ### Joined conditions -/

/-- The quote that is open behind `c` when `quote` is the one open in front of it. -/
def openQuoteAfter : (quote : Option Char) → (c : Char) → Option Char
  | some quote, c => if c = quote then none else some quote
  | none, c => if Text.isQuote c then some c else none

/-- The quote that is open at the end of a text when `quote` is the one open in front of it. -/
def openQuote (quote : Option Char) (text : Text) : Option Char := text.foldl openQuoteAfter quote

/-- The texts between the joining words outside quotes, when `quote` is open in front. -/
def atomsFrom : (quote : Option Char) → Text → List Text
  | _, [] => [[]]
  | none, ' ' :: 'a' :: 'n' :: 'd' :: ' ' :: rest => [] :: atomsFrom none rest
  | quote, c :: rest => Text.consFirst c (atomsFrom (openQuoteAfter quote c) rest)

/-- The texts between the joining words outside quotes. -/
def atoms (body : Text) : List Text := atomsFrom none body

/-- The conditions of a bracketed text, from left to right. -/
def parseAll (caseSensitive : Bool) (body : Text) : Except Fault (List Condition) :=
  (atoms body).mapM (parse caseSensitive)

@[simp]
theorem openQuote_nil (quote : Option Char) : openQuote quote [] = quote := rfl

@[simp]
theorem openQuote_cons (quote : Option Char) (c : Char) (text : Text) :
    openQuote quote (c :: text) = openQuote (openQuoteAfter quote c) text := rfl

@[simp]
theorem openQuote_append (quote : Option Char) (text more : Text) :
    openQuote quote (text ++ more) = openQuote (openQuote quote text) more :=
  List.foldl_append

theorem atomsFrom_ne_nil (quote : Option Char) (body : Text) : atomsFrom quote body ≠ [] := by
  unfold atomsFrom
  split
  · simp
  · simp
  · unfold Text.consFirst
    split <;> simp

end Condition

end PathSelector
