import FocusLayout.Display.Connection
import FocusLayout.Focus.Source

/-!
# The window with the focus

`Connection.focusedWindow` asks the server for the window with the focus and describes it. Many programs give the
focus to a window without a class, whose neighbour or parent has it, so a class is also looked for there
(`fallbackWindows`); the title is that of the window where the class was found.

Errors on the focus window itself are failures, errors on the others only leave them out.
-/

namespace FocusLayout.Display

/-- The greatest id that names no window: the focus is nowhere, or wherever the pointer is. -/
def pointerRoot : WindowId := 1

/-- Where to look for a class that the focus window does not have: the window made just before it, and its parent
unless that is the root. -/
def fallbackWindows (focus : WindowId) (parent : Option WindowId) (root : WindowId) : List WindowId :=
  let before := if pointerRoot < focus - 1 then [focus - 1] else []
  match parent with
  | some p => if p ≠ root ∧ pointerRoot < p ∧ p ∉ before then before ++ [p] else before
  | none => before

namespace Connection

variable {σ : Type} (lib : Library σ) (c : Connection)

/-- Logs a line about the focus. -/
def note (text : String) : Step (World σ) Unit :=
  Step.say .debug .focusQuery text

/-- The class property of a window, its instance first. -/
def classHint (w : WindowId) : Step (World σ) (Option (String × String)) := do
  let hint : ClassHint ← c.ask lib (.classHint w)
  if hint.status = 0 then
    return none
  else
    let text (bytes : Option (List UInt8)) : String := (bytes.map Text.Utf8.ofCString).getD ""
    return some (text hint.instanceName, text hint.className)

/-- The title of a window. -/
def title (w : WindowId) : Step (World σ) String := do
  match ← (c.ask lib (.windowName w)).attempt with
  | .ok (name : Option (List UInt8)) => return (name.map Text.Utf8.ofCString).getD ""
  | .error f =>
    note s!"Не удалось прочитать имя окна {Window.showId w}: {f.message}"
    return ""

/-- The parent of a window, if the server can tell. -/
def parent (w : WindowId) : Step (World σ) (Option WindowId) := do
  match ← (c.ask lib (.tree w)).attempt with
  | .ok (place : TreePlace) => return if place.status = 0 ∨ place.parent = 0 then none else some place.parent
  | .error _ => return none

/-- The first of some windows that has a class, with the class. -/
def firstNamed : List WindowId → Step (World σ) (Option (WindowId × String × String))
  | [] => return none
  | w :: rest => do
    match ← (c.classHint lib w).attempt with
    | .ok (some hint) => return some (w, hint)
    | .ok none => firstNamed rest
    | .error f =>
      note s!"Окно {Window.showId w} недоступно: {f.message}"
      firstNamed rest

/-- The window that a focus window's class and title are taken from, with the class. -/
def owner (focus : WindowId) : Step (World σ) (WindowId × String × String) := do
  match ← c.classHint lib focus with
  | some hint => return (focus, hint)
  | none =>
    let parent ← c.parent lib focus
    let root ← c.root lib
    match ← c.firstNamed lib (fallbackWindows focus parent root) with
    | some found => return found
    | none =>
      note s!"У окна {Window.showId focus} нет WM_CLASS"
      return (focus, "", "")

/-- The window with the focus. -/
def focusedWindow : Step (World σ) (Option Window) := do
  let focus : WindowId ← c.ask lib .inputFocus
  if focus ≤ pointerRoot then
    return none
  else
    let (owner, instanceName, className) ← c.owner lib focus
    let title ← c.title lib owner
    return some ⟨focus, title, className, instanceName⟩

/-- The focus as the server tells it on a connection. -/
def source : Focus.Source (World σ) where
  name := "xlib"
  activeWindow := c.focusedWindow lib
  delay _ := 0

/-- The source on a connection, if there is one. -/
def source? (c : Option Connection) : Except Failure (Focus.Source (World σ)) :=
  match c with
  | some c => .ok (c.source lib)
  | none => .error Focus.noSource

end Connection

end FocusLayout.Display
