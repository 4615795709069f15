/-!
# Keyboard state

`Keyboard` is a snapshot of the main keyboard: the group in effect, the locked group, and the modifiers in effect, of
which caps lock and num lock are two bits.
-/

namespace FocusLayout.Layout

/-- The groups and modifiers in effect. -/
structure Keyboard where
  group : Nat
  lockedGroup : Nat
  modifiers : UInt8
  deriving DecidableEq, Repr

namespace Keyboard

/-- Caps lock is the lock modifier. -/
def capsLock (k : Keyboard) : Bool :=
  k.modifiers &&& 2 != 0

/-- Num lock is the second numbered modifier. -/
def numLock (k : Keyboard) : Bool :=
  k.modifiers &&& 16 != 0

end Keyboard

end FocusLayout.Layout
