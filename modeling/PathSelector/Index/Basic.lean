import PathSelector.Text.Decimal

/-!
# Index conditions

An index selects among the matches of a level by their position: one position, the positions
below or above a bound, or every second one.
-/

namespace PathSelector

/-- How an index selects positions. -/
inductive IndexKind where
  | exactly
  | lessThan
  | moreThan
  | even
  | odd
deriving DecidableEq

/-- A selection of positions. The two parities ignore the number, which is `-1` when they are
read. -/
structure Index where
  kind : IndexKind
  value : Int := -1
deriving DecidableEq

namespace IndexKind

/-- Every kind of index. -/
def all : List IndexKind := [.exactly, .lessThan, .moreThan, .even, .odd]

/-- The name of the kind in reports. -/
def label : IndexKind → Text
  | .exactly => "VALUE".toList
  | .lessThan => "LESS_THAN".toList
  | .moreThan => "MORE_THAN".toList
  | .even => "EVEN".toList
  | .odd => "ODD".toList

end IndexKind

namespace Index

/-- The word for the even positions. -/
def evenWord : Text := "even()".toList

/-- The word for the odd positions. -/
def oddWord : Text := "odd()".toList

/-- What stands between the brackets of a written index. -/
def body (index : Index) : Text :=
  match index.kind with
  | .exactly => Text.decimal index.value
  | .lessThan => '<' :: Text.decimal index.value
  | .moreThan => '>' :: Text.decimal index.value
  | .even => evenWord
  | .odd => oddWord

/-- The index as it is written. -/
def render (index : Index) : Text := '[' :: index.body ++ [']']

end Index

end PathSelector
