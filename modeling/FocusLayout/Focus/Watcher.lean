import FocusLayout.Config.Basic
import FocusLayout.Focus.Source
import FocusLayout.Layout.Switcher

/-!
# Following the focus

A `Watcher` remembers the window it saw last. `Watcher.observe` takes in one answer of the source: a window that
differs from the remembered one is an event, and brings its layout into effect. `Watcher.poll` asks the source and
takes in the answer.

A passing failure, of the source or of the switch, is only warned about.
-/

namespace FocusLayout.Focus

/-- What the watcher keeps: the last observation, if there was one, and the switcher beside its device. -/
structure Watcher (S : Type) where
  seen : Option (Option Window)
  bench : Layout.Bench S

namespace Watcher

variable {S : Type}

/-- A step on the switcher of a watcher. -/
def onBench {α : Type} (t : Step (Layout.Bench S) α) : Step (Watcher S) α :=
  t.within Watcher.bench fun bench w => { w with bench := bench }

/-- Begins to watch with a switcher; nothing is observed yet. -/
def start (source : Source S) (switcher : Layout.Switcher) : Step S (Watcher S) := do
  Step.say .info .watcher s!"Инициализация FocusWatcher (источник: {source.name})"
  return ⟨none, switcher, ← Step.state⟩

/-- Whether an observation is news after what was seen last. -/
def isChange (seen : Option (Option Window)) (window : Option Window) : Bool :=
  match seen, window with
  | some none, none => false
  | some (some before), some w => before.differs w
  | _, _ => true

variable (config : Config) (backend : Layout.Backend S)

/-- Brings the layout for a window into effect. -/
def switchFor (w : Window) : Step (Watcher S) Unit := do
  match config.layoutFor w with
  | none => Step.say .debug .watcher s!"Для {w.text} нет правила раскладки"
  | some group =>
    match ← (onBench (Layout.Switcher.apply backend group)).attempt with
    | .ok true =>
      let layout ← onBench (Layout.Switcher.describe backend group)
      Step.say .info .watcher s!"Раскладка {layout} для {w.text}"
    | .ok false => Step.done ()
    | .error f =>
      if f.isProtocol then
        Step.say .warn .watcher s!"Не удалось переключить раскладку для {w.text}: {f.message}"
      else
        Step.fail f

/-- Takes in an answer of the source, and gives the event that it is, if it is one. -/
def observe (answer : Except Failure (Option Window)) : Step (Watcher S) (Option FocusEvent) := do
  match answer with
  | .error f =>
    if f.isProtocol then
      Step.say .warn .watcher s!"Окно с фокусом недоступно: {f.message}"
      return none
    else
      Step.fail f
  | .ok window =>
    if isChange (← Step.state).seen window then
      let event := FocusEvent.ofObservation window
      Step.say .info .watcher event.text
      Step.update fun watcher => { watcher with seen := some window }
      if let some w := window then
        switchFor config backend w
      return some event
    else
      return none

/-- Asks the source once and takes in its answer. -/
def poll (source : Source S) : Step (Watcher S) (Option FocusEvent) := do
  let answer ← (onBench (Layout.onDevice source.activeWindow)).attempt
  observe config backend answer

/-- One poll of a watch, in which a failure is only logged. -/
def pollOn (source : Source S) : Step (Watcher S) Unit := do
  match ← (poll config backend source).attempt with
  | .ok _ => Step.done ()
  | .error f => Step.say .error .watcher s!"Ошибка опроса фокуса: {f.message}"

/-- A number of polls of a watch. -/
def pollTimes (source : Source S) : Nat → Step (Watcher S) Unit
  | 0 => Step.done ()
  | n + 1 => do
    pollOn config backend source
    pollTimes source n

end Watcher

end FocusLayout.Focus
