import FocusLayout.CommandLine.Basic
import FocusLayout.Config.Environment
import FocusLayout.Display.Focus
import FocusLayout.Display.Keyboard
import FocusLayout.Display.Shares
import FocusLayout.Focus.Schedule
import FocusLayout.Session

/-!
# What the commands do

Each command is a step that ends in the text to print.

- `focus`, `layout` and `watch` work with any source and backend;
- `makeSource` and `makeBackend` choose these: those of a dry run (`Rehearsal`), or else those on the connection, which
  then have a share of it;
- `carryOut` does what a command says. However that ends, nobody has a share afterwards (`releasing`).
-/

namespace FocusLayout.Program

open CommandLine (Command LayoutChange)
open Display (Connection Library Shares World)
open Focus (Cycling Source Watcher)
open Layout (Backend Bench Switcher)

variable {S σ : Type}

/-- A line of the program itself. -/
def say (level : Log.Level) (text : String) : Step S Unit :=
  Step.say level .program text

/-- A line of output. -/
def line (text : String) : String :=
  text ++ "\n"

/-- Prints the window with the focus. -/
def focus (source : Source S) : Step S String := do
  match ← source.activeWindow with
  | some w => return line w.text
  | none => return line "нет окна с фокусом"

/-- Changes the layout, and gives the group in effect afterwards. -/
def change (backend : Backend S) : LayoutChange → Step (Bench S) Nat
  | .keep => Switcher.current backend
  | .set group => Switcher.set backend group
  | .next => Switcher.next backend

/-- Changes the layout and prints it. -/
def layout (config : Config) (backend : Backend S) (c : LayoutChange) : Step S String :=
  Switcher.begin backend config.layout.cycle do
    let group ← change backend c
    return line (← Switcher.describe backend group)

/-- A line about the group in effect. -/
def groupLine (name : String) : String :=
  line ("группа: " ++ name)

/-- A line about a lock. -/
def lockLine (name : String) (isOn : Bool) : String :=
  line (name ++ ": " ++ if isOn then "вкл" else "выкл")

/-- Prints the state of a keyboard. -/
def keyboardState (config : Config) (backend : Backend S) (keyboard : Layout.Keyboard) : Step S String :=
  Switcher.begin backend config.layout.cycle do
    let group ← Switcher.describe backend keyboard.group
    let locked ← Switcher.describe backend keyboard.lockedGroup
    return groupLine group ++ line ("зафиксированная группа: " ++ locked) ++
      lockLine "caps lock" keyboard.capsLock ++ lockLine "num lock" keyboard.numLock

/-- Prints the group in effect, which is all that is known of a layout without a keyboard. -/
def groupState (config : Config) (backend : Backend S) : Step S String :=
  Switcher.begin backend config.layout.cycle do
    let group ← Switcher.current backend
    return groupLine (← Switcher.describe backend group)

/-! ## Watching -/

/-- Begins to watch. -/
def startWatch (config : Config) (source : Source S) (backend : Backend S) : Step S (Watcher S) := do
  let switcher ← Switcher.start backend config.layout.cycle
  let watcher ← Watcher.start source switcher
  say .info s!"Правил раскладки: {config.rules.length}"
  return watcher

/-- The polls of a watcher, on its device. -/
def polling (config : Config) (source : Source S) (backend : Backend S) (polls : Nat) (watcher : Watcher S) :
    Step S Unit :=
  let watching : Step (Watcher S) Unit := do
    Watcher.announce config
    Watcher.pollTimes config backend source polls
  watching.within (fun s => { watcher with bench := { watcher.bench with device := s } }) fun w _ => w.bench.device

/-- A watch that is interrupted after a number of polls. Waiting for the interruption is taken not to fail, so the line
about such a failure is left out. -/
def watch (config : Config) (source : Source S) (backend : Backend S) (polls : Nat) : Step S Unit := do
  let watcher ← startWatch config source backend
  polling config source backend polls watcher
  say .info "Получен сигнал завершения (Ctrl+C)"
  say .info "Завершение работы..."

/-! ## Dry runs -/

/-- What a dry run works on. -/
structure Rehearsal where
  windows : Cycling
  memory : Backend.Memory
  deriving DecidableEq, Repr

namespace Rehearsal

/-- The beginning of a dry run. -/
def default : Rehearsal := ⟨.default, .default⟩

/-- The focus in a dry run. -/
def source : Source Rehearsal :=
  Source.dryRun.within windows fun windows r => { r with windows := windows }

/-- The layouts in a dry run. -/
def backend : Backend Rehearsal :=
  Backend.dryRun.within memory fun memory r => { r with memory := memory }

end Rehearsal

/-! ## On a display or as a dry run -/

/-- Who can have a share of the connection. -/
inductive Owner where
  /-- The command itself, until it hands its share on. -/
  | command
  | source
  | backend
  deriving DecidableEq, Repr

/-- All that a command can work on: the world, what a dry run has in its place, and the shares of the connection. -/
structure Surroundings (σ : Type) where
  world : World σ
  rehearsal : Rehearsal
  shares : Shares Owner

namespace Surroundings

/-- The beginning of a run. -/
def start (world : World σ) : Surroundings σ := ⟨world, .default, .empty⟩

/-- The surroundings with another world. -/
def withWorld (world : World σ) (s : Surroundings σ) : Surroundings σ := { s with world := world }

/-- The surroundings after some rehearsing. -/
def withRehearsal (rehearsal : Rehearsal) (s : Surroundings σ) : Surroundings σ := { s with rehearsal := rehearsal }

/-- A step in the world. -/
def inWorld {α : Type} (t : Step (World σ) α) : Step (Surroundings σ) α :=
  t.within world withWorld

/-- Passes shares of the connection around. -/
def reshare (f : Shares Owner → Step (World σ) (Shares Owner)) : Step (Surroundings σ) Unit := do
  let shares ← inWorld (f (← Step.state).shares)
  Step.update fun s => { s with shares := shares }

end Surroundings

open Surroundings (inWorld reshare)

/-- Opens a connection if the session has a display. -/
def connect (lib : Library σ) (config : Config) (env : Environment) : Step (World σ) Connection := do
  let _ ← Session.check config.display.name (env.value? "XDG_SESSION_TYPE") (env.value? "DISPLAY")
  Connection.open lib config.display.name

section Commands

variable (lib : Library σ) (config : Config) (display : Option Connection) (isDryRun : Bool)

/-- Gives an owner a share of the connection, if there is one. -/
def share (owner : Owner) : Step (Surroundings σ) Unit :=
  reshare fun shares => shares.giveAny lib owner display

/-- Lets go of an owner's share. The last one to go closes the connection. -/
def letGo (owner : Owner) : Step (Surroundings σ) Unit :=
  reshare fun shares => shares.release lib owner

/-- Lets go of the shares of some owners, one after the other. -/
def letGoAll : List Owner → Step (Surroundings σ) Unit
  | [] => return ()
  | owner :: rest => do
    letGo lib owner
    letGoAll rest

/-- Makes the source that a command works with. -/
def makeSource : Step (Surroundings σ) (Source (Surroundings σ)) := do
  if isDryRun then
    return Rehearsal.source.within Surroundings.rehearsal Surroundings.withRehearsal
  else
    let source ← Step.ofExcept (Connection.source? lib display)
    share lib display .source
    return source.within Surroundings.world Surroundings.withWorld

/-- Makes the backend that a command works with. -/
def makeBackend : Step (Surroundings σ) (Backend (Surroundings σ)) := do
  if isDryRun then
    return Rehearsal.backend.within Surroundings.rehearsal Surroundings.withRehearsal
  else
    let backend ← Step.ofExcept (Connection.backend? lib display)
    share lib display .backend
    return backend.within Surroundings.world Surroundings.withWorld

/-- Runs a step, and lets go of every share however that ends. -/
def releasing {α : Type} (t : Step (Surroundings σ) α) : Step (Surroundings σ) α := do
  let result ← t.attempt
  letGoAll lib [.source, .backend, .command]
  Step.ofExcept result

/-- Prints the state of the keyboard, or the group in effect where there is no connection. -/
def state : Step (Surroundings σ) String := do
  match display with
  | none => groupState config (← makeBackend lib none isDryRun)
  | some c =>
    let keyboard ← inWorld (c.keyboard lib)
    let backend ← makeBackend lib (some c) isDryRun
    letGo lib .command
    keyboardState config backend keyboard

/-- Watches until interrupted after a number of polls, and lets go of the connection. A poll that is going on by then is
taken to end within the time that it is given at shutdown, which is five seconds. -/
def watchUntil (polls : Nat) : Step (Surroundings σ) Unit :=
  releasing lib do
    let source ← makeSource lib display isDryRun
    let backend ← makeBackend lib display isDryRun
    letGo lib .command
    watch config source backend polls

/-- The end of a watch, after its connection has been closed: tells of errors on connections that nobody knew. Since the
last poll is taken to have ended in time, the line about one that has not is left out. -/
def endWatch : Step (Surroundings σ) String := do
  say .info "FocusWatcher завершил работу"
  if ← inWorld (Step.act World.takeUnrouted) then
    say .warn "Были ошибки X11 на незарегистрированных соединениях"
  return ""

/-- Does what a command says. -/
def carryOut (polls : Nat) : Command → Step (Surroundings σ) String
  | .focus => releasing lib do
    let source ← makeSource lib display isDryRun
    letGo lib .command
    focus source
  | .layout change => releasing lib do
    let backend ← makeBackend lib display isDryRun
    letGo lib .command
    layout config backend change
  | .state => releasing lib (state lib config display isDryRun)
  | .watch => do
    watchUntil lib config display isDryRun polls
    endWatch

end Commands

end FocusLayout.Program
