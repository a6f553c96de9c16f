import PathSelector.Chain
import PathSelector.Text.Lower

/-!
# Settings

Names compare in lowercase for one kind of markup and as written for the other, unless the user
says otherwise.
-/

namespace PathSelector

/-- The kind of markup that selectors are meant for. -/
inductive MarkupMode where
  | html
  | xml
deriving DecidableEq

/-- The refusal of a word that is no kind of markup; `word` is in lowercase. -/
structure UnknownMode where
  word : Text
deriving DecidableEq

/-- What the user is told about a word that is no kind of markup. -/
def UnknownMode.message (e : UnknownMode) : Text :=
  Text.quoted e.word ++ " is not a valid MarkupMode".toList

namespace MarkupMode

/-- Every kind of markup. -/
def all : List MarkupMode := [.html, .xml]

/-- The word for the kind of markup. -/
def word : MarkupMode → Text
  | .html => "html".toList
  | .xml => "xml".toList

/-- Whether names are compared as written in this kind of markup. -/
def caseSensitive : MarkupMode → Bool
  | .html => false
  | .xml => true

/-- The kind of markup that a word means in any letter case. -/
def ofWord (word : Text) : Except UnknownMode MarkupMode :=
  let lowered := Text.lower word
  match all.find? (·.word = lowered) with
  | some mode => .ok mode
  | none => .error ⟨lowered⟩

end MarkupMode

/-- The settings that selectors are compiled with. -/
structure Config where
  caseSensitive : Bool := false
  mode : MarkupMode := .html
deriving DecidableEq

namespace Config

/-- The settings for a kind of markup, in which an explicit choice about case wins. -/
def resolve (mode : MarkupMode) (caseSensitive : Option Bool) : Config :=
  ⟨caseSensitive.getD mode.caseSensitive, mode⟩

/-- The chain of a selector under the settings. -/
def compile (config : Config) (selector : Text) : Except SelectorError Chain :=
  Chain.compile config.caseSensitive selector

end Config

end PathSelector
