import PathSelector.Text.Basic

/-!
# Name shorthand

The name of a level may end in a shorthand: a mark and a value. `div#main` asks for the identifier
`main`, `li.item` for the class `item`, and `part%ref` refers to the fragment `ref`.
-/

namespace PathSelector

/-- What the value of a shorthand stands for. -/
inductive Shorthand where
  | identifier
  | styleClass
  | reference
deriving DecidableEq

namespace Shorthand

/-- Every kind of shorthand. -/
def all : List Shorthand := [.identifier, .styleClass, .reference]

/-- The character that opens the shorthand. -/
def mark : Shorthand → Char
  | .identifier => '#'
  | .styleClass => '.'
  | .reference => '%'

/-- The word for the shorthand in messages. For the two that are conditions it is also the
attribute that the value is compared with. -/
def label : Shorthand → Text
  | .identifier => "id".toList
  | .styleClass => "class".toList
  | .reference => "reference".toList

theorem mem_all (kind : Shorthand) : kind ∈ all := by cases kind <;> decide

theorem mark_injective {k l : Shorthand} (h : k.mark = l.mark) : k = l := by
  cases k <;> cases l <;> simp_all [mark]

end Shorthand

end PathSelector
