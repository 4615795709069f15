import FocusLayout.Layout.Backend

/-!
# A backend that follows a script

`Script.backend` answers from a `Script`: each of the three operations can be set to fail, and locking can be set to
end in another group than the one asked for.
-/

namespace FocusLayout.Layout

/-- The answers of a scripted backend. -/
structure Script where
  group : Nat
  names : List String
  /-- The group that every locking ends in, if it is not the one asked for. -/
  effective : Option Nat
  currentFailure : Option Failure
  lockFailure : Option Failure
  namesFailure : Option Failure

namespace Script

/-- The script in which nothing fails and there are no names. -/
def default : Script := ⟨0, [], none, none, none, none⟩

/-- Fails if a failure is set. -/
def failIf (failure : Option Failure) : Step Script Unit :=
  match failure with
  | some f => Step.fail f
  | none => Step.done ()

/-- The backend that answers from its script and keeps the locked group there. -/
def backend : Backend Script where
  name := "scripted"
  current := do
    failIf (← Step.state).currentFailure
    return (← Step.state).group
  lock group := do
    failIf (← Step.state).lockFailure
    Step.update fun s => { s with group := s.effective.getD group }
    return (← Step.state).group
  names := do
    failIf (← Step.state).namesFailure
    return (← Step.state).names

end Script

end FocusLayout.Layout
