import PathSelector.CommandLine.Outcome

/-!
# Printing canonical forms

The `compile` command prints the canonical form of each selector it is given and complains about
those whose form is wrong.
-/

namespace PathSelector

namespace Canonical

/-- The lines about one selector, and whether its form is right. -/
def entry (session : Session) (selector : Text) : Except Breakdown (List OutputLine × Bool) :=
  match session.compile selector with
  | .error cause => .error cause
  | .ok (.error reason) => .ok ([Session.complaint selector reason], false)
  | .ok (.ok chain) => .ok (session.log selector chain ++ [.out (Chain.render chain)], true)

/-- The outcome for some selectors, which is a failure if the form of one is wrong. -/
def outcome (session : Session) (selectors : List Text) : Except Breakdown Outcome :=
  match selectors.mapM (entry session) with
  | .error cause => .error cause
  | .ok entries => .ok ⟨entries.flatMap (·.1), if entries.all (·.2) then 0 else 1⟩

end Canonical

end PathSelector
