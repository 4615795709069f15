import FocusLayout.Display.Connection
import FocusLayout.Layout.Backend
import FocusLayout.Layout.Keyboard
import FocusLayout.Layout.Names

/-!
# The keyboard of a display

The state of the main keyboard, locking a group of it, and the names of its layouts, which the server keeps in a
property of the root window. `Connection.backend` is these as a backend.
-/

namespace FocusLayout.Display

/-- The main keyboard. -/
def mainKeyboard : Nat := 256

/-- The property that holds the names of the layouts. -/
def rulesProperty : String := "_XKB_RULES_NAMES"

/-- How much of a property is read, in units of four bytes. -/
def propertyLimit : Nat := 1024

namespace Connection

variable {σ : Type} (lib : Library σ) (c : Connection)

/-- The state of the main keyboard. -/
def keyboard : Step (World σ) Layout.Keyboard := do
  let reply : KeyboardReply ← c.ask lib (.keyboard mainKeyboard)
  if reply.status ≠ 0 then
    Step.fail (.serviceUnavailable s!"XkbGetState вернул {reply.status} (нет расширения XKB?)")
  else
    return ⟨reply.group.toNat, reply.lockedGroup.toNat, reply.modifiers⟩

/-- Locks a group of the main keyboard, and gives the one in effect afterwards. -/
def lockGroup (group : Nat) : Step (World σ) Nat := do
  let sent : Int ← c.ask lib (.lockGroup mainKeyboard group)
  if sent = 0 then
    Step.fail (.serviceUnavailable "XkbLockGroup не отправлен")
  else
    let state ← c.keyboard lib
    Step.say .debug .keyboard s!"XkbLockGroup({group}) -> группа {state.group}"
    return state.group

/-- The names of the layouts; none if the server does not have the property. -/
def layoutNames : Step (World σ) (List String) := do
  let atom : Nat ← c.ask lib (.atom rulesProperty true)
  if atom = 0 then
    return []
  else
    let root ← c.root lib
    let property : Property ← c.ask lib (.property root atom 0 propertyLimit)
    if property.status ≠ 0 then
      Step.fail (.serviceUnavailable s!"XGetWindowProperty({rulesProperty}) не удался")
    else
      return Layout.Names.ofProperty (if property.format = 8 then property.data.getD [] else [])

/-- The layouts of the main keyboard as a backend. -/
def backend : Layout.Backend (World σ) where
  name := "xkb"
  current := do return (← c.keyboard lib).group
  lock := c.lockGroup lib
  names := c.layoutNames lib

/-- The backend on a connection, if there is one. -/
def backend? (c : Option Connection) : Except Failure (Layout.Backend (World σ)) :=
  match c with
  | some c => .ok (c.backend lib)
  | none => .error Layout.noBackend

end Connection

end FocusLayout.Display
