import FocusLayout.Step
import FocusLayout.Window

/-!
# Where the focus is read from

A `Source S` tells which window has the focus, as a step over a device of type `S`, and how long telling it will take.

- `Source.dryRun` goes through a list of windows over and over (`Cycling`);
- `Source.scripted` goes through a list of answers once and stays at the last one.
-/

namespace FocusLayout.Focus

/-- A way to ask for the window with the focus. -/
structure Source (S : Type) where
  name : String
  /-- The window with the focus, if any has it. -/
  activeWindow : Step S (Option Window)
  /-- How many milliseconds the next question will take. -/
  delay : S → Nat

/-- The failure to have a source without a display. -/
def noSource : Failure :=
  .serviceUnavailable "нет соединения с X-дисплеем для FocusSource"

namespace Source

variable {S T : Type}

/-- A source for a part of a larger device. -/
def within (get : T → S) (put : S → T → T) (source : Source S) : Source T where
  name := source.name
  activeWindow := source.activeWindow.within get put
  delay t := source.delay (get t)

end Source

/-! ## A list of windows -/

/-- A list of windows and the position of the next one. -/
structure Cycling where
  windows : List (Option Window)
  index : Nat
  deriving DecidableEq, Repr

namespace Cycling

/-- A list from its beginning. -/
def ofList (windows : List (Option Window)) : Cycling := ⟨windows, 0⟩

/-- The windows of a dry run. -/
def default : Cycling :=
  ofList
    [some ⟨0x1400003, "Terminal - dry_run", "XTerm", "xterm"⟩,
      some ⟨0x2600011, "Browser - dry_run", "firefox", "Navigator"⟩,
      none,
      some ⟨0x3000007, "Editor - dry_run", "Code", "code"⟩]

/-- The next window of the list, which begins anew after its end. -/
def next : Step Cycling (Option Window) := do
  let c ← Step.state
  match c.windows[c.index]? with
  | none => return none
  | some window =>
    Step.update fun c => { c with index := (c.index + 1) % c.windows.length }
    if let some w := window then
      Step.say .info .dryRunSource s!"Dry-run: эмулируем фокус на: {w.text}"
    return window

end Cycling

/-- The source that goes through a list of windows over and over. -/
def Source.dryRun : Source Cycling where
  name := "dry-run"
  activeWindow := Cycling.next
  delay _ := 0

/-! ## A list of answers -/

/-- An answer, and how many milliseconds it takes. -/
structure Reply where
  answer : Except Failure (Option Window)
  delay : Nat

/-- The next answer of a script; the last one stays, and an empty script has no window. -/
def Reply.head (script : List Reply) : Reply :=
  script.headD ⟨.ok none, 0⟩

/-- The source that goes through a list of answers and stays at the last one. -/
def Source.scripted : Source (List Reply) where
  name := "script"
  activeWindow := do
    let script ← Step.state
    Step.update fun script => if script.tail.isEmpty then script else script.tail
    Step.ofExcept (Reply.head script).answer
  delay script := (Reply.head script).delay

end FocusLayout.Focus
