import PathSelector.Level.Parser

/-!
# Compiled selectors

A selector compiles to the chain of its levels, the outermost first. A selector that does not open
with a slash searches at any depth, as if two slashes stood in front of it, and blanks around a
selector do not count. Columns in errors count the characters of the selector as it was given.

Main definitions:

* `Chain.parse`: the chain of a selector, or the fault in it;
* `Chain.compile`: the same, with errors that cite the selector;
* `Chain.render`: the canonical writing of a chain.
-/

namespace PathSelector

/-- The levels of a selector, the outermost first. -/
abbrev Chain := List Level

namespace Chain

/-- The text that is cut into segments for a trimmed selector, and how far its columns stand from
those of the selector as given, in front of which `indent` blanks were trimmed. -/
def complete (indent : Nat) (text : Text) : Text × Int :=
  match text with
  | '/' :: _ => (text, indent)
  | _ => ('/' :: '/' :: text, (indent : Int) - 2)

/-- The levels of some segments, from left to right. -/
def ofSegments (caseSensitive : Bool) (segments : List Segment) : Except Fault Chain :=
  segments.mapM (Level.ofSegment caseSensitive)

/-- The chain of a selector, or the first fault in it. All of the selector is cut into segments
before the first level is built. -/
def parse (caseSensitive : Bool) (selector : Text) : Except Fault Chain :=
  let source := complete (Text.indent selector) (Text.trim selector)
  match Segment.parseAll source.2 source.1 with
  | .error reason => .error (.malformed reason)
  | .ok segments => ofSegments caseSensitive segments

/-- The chain of a selector, or an error that cites it. -/
def compile (caseSensitive : Bool) (selector : Text) : Except SelectorError Chain :=
  (parse caseSensitive selector).mapError (SelectorError.mk selector)

/-- The canonical writing of a chain. -/
def render (chain : Chain) : Text := chain.flatMap Level.render

@[simp]
theorem render_nil : render [] = [] := rfl

@[simp]
theorem render_cons (level : Level) (chain : Chain) :
    render (level :: chain) = level.render ++ render chain := by
  simp [render]

@[simp]
theorem render_append (front back : Chain) :
    render (front ++ back) = render front ++ render back := by
  simp [render]

end Chain

end PathSelector
