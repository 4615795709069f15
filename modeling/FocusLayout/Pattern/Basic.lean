import FocusLayout.Pattern.Matching
import FocusLayout.Pattern.Size

/-!
# Patterns

A `Pattern` is a regular expression that has been read: `Pattern.compile?` refuses what is not one or would be too
large, and `Pattern.isIn` looks for it anywhere in a text.
-/

namespace FocusLayout

/-- A regular expression. -/
structure Pattern where
  node : Pattern.Node

namespace Pattern

/-- Reads a regular expression. -/
def compile? (source : String) : Option Pattern := do
  let node ← (← Tree.read? source).meaning?
  if node.isTooLarge then none else some ⟨node⟩

/-- Whether the pattern matches somewhere in a text. -/
def isIn (p : Pattern) (text : String) : Bool :=
  p.node.matchesIn text

end Pattern

end FocusLayout
