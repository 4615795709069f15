import FocusLayout.Display.Connection

/-!
# Shared connections

A connection can have several owners, and closes when the last of them lets it go. `Shares ω` says which connection
each owner has.
-/

namespace FocusLayout.Display

/-- The owners and their connections; each owner has at most one. -/
structure Shares (ω : Type) where
  entries : List (ω × Connection)

namespace Shares

variable {ω σ : Type} [DecidableEq ω] (lib : Library σ)

/-- No owners. -/
def empty : Shares ω := ⟨[]⟩

/-- The connection of an owner. -/
def of? (s : Shares ω) (owner : ω) : Option Connection :=
  (s.entries.find? (·.1 == owner)).map (·.2)

/-- The shares of everyone else. -/
def without (s : Shares ω) (owner : ω) : Shares ω :=
  ⟨s.entries.filter (·.1 != owner)⟩

/-- Closes a connection unless somebody has it. -/
def closeUnowned (s : Shares ω) (c : Option Connection) : Step (World σ) Unit :=
  match c with
  | some c => if s.entries.any (·.2 == c) then Step.done () else c.close lib
  | none => Step.done ()

/-- Takes away an owner's share. -/
def release (s : Shares ω) (owner : ω) : Step (World σ) (Shares ω) := do
  let rest := s.without owner
  rest.closeUnowned lib (s.of? owner)
  return rest

/-- Gives an owner a share, in place of the one it had. -/
def give (s : Shares ω) (owner : ω) (c : Connection) : Step (World σ) (Shares ω) := do
  let next : Shares ω := ⟨(owner, c) :: (s.without owner).entries⟩
  next.closeUnowned lib (s.of? owner)
  return next

/-- Gives an owner a share of the connection, if there is one. -/
def giveAny (s : Shares ω) (owner : ω) (c : Option Connection) : Step (World σ) (Shares ω) :=
  match c with
  | some c => s.give lib owner c
  | none => Step.done s

end Shares

end FocusLayout.Display
