import FocusLayout.Data.Pairs
import FocusLayout.Display.Library

/-!
# A described server

`Scene` describes a server: its displays, windows, keyboard and layout names, and the faults of its requests.
`Scene.library` is the behaviour of the library over it.

- a fault is an error during the call, an error when the connection next waits for the server, or an error on a
  connection that nobody knows (`Fault`);
- a request about a window that is not there is an error.
-/

namespace FocusLayout.Display

/-- How a request goes wrong, although it is answered. -/
inductive Fault where
  /-- An error during the call. -/
  | call
  /-- An error when the connection next waits for the server, or closes. -/
  | sync
  /-- An error during the call on an unknown connection. -/
  | unrouted
  deriving DecidableEq, Repr

/-- A window of a described server. -/
structure SceneWindow where
  /-- The two texts of the class property, instance first, if the window has it. -/
  hint : Option (Option (List UInt8) × Option (List UInt8))
  title : Option (List UInt8)
  tree : TreePlace
  deriving DecidableEq, Repr

/-- The keyboard of a described server. -/
structure SceneKeyboard where
  status : Int
  group : Nat
  lockedGroup : Nat
  modifiers : Nat
  deriving DecidableEq, Repr

/-- What happens when a group is locked. -/
structure SceneLock where
  sent : Int
  isIgnored : Bool
  groups : Nat
  deriving DecidableEq, Repr

/-- The property with the names of the layouts. -/
structure SceneRules where
  atom : Nat
  property : Property
  deriving DecidableEq, Repr

/-- A described server. -/
structure Scene where
  displays : List String
  defaultDisplay : Option String
  root : WindowId
  focus : WindowId
  windows : List (WindowId × SceneWindow)
  keyboard : SceneKeyboard
  lock : SceneLock
  rules : SceneRules
  faults : Data.Pairs Fault
  deriving DecidableEq, Repr

namespace Scene

/-- A server without displays or windows. -/
def default : Scene where
  displays := []
  defaultDisplay := none
  root := 483
  focus := 0
  windows := []
  keyboard := ⟨0, 0, 0, 0⟩
  lock := ⟨1, false, 4⟩
  rules := ⟨0, ⟨0, 8, none⟩⟩
  faults := []

/-- The fault of the requests with a name. -/
def fault? (s : Scene) (name : String) : Option Fault :=
  s.faults.lookup? name

/-- The window with an id. -/
def window? (s : Scene) (id : WindowId) : Option SceneWindow :=
  (s.windows.find? (·.1 == id)).map (·.2)

/-- The reply to a request. -/
def reply (s : Scene) : (r : Request) → r.Reply
  | .inputFocus => s.focus
  | .classHint w =>
    match (s.window? w).bind (·.hint) with
    | some (instanceName, className) => (⟨1, instanceName, className⟩ : ClassHint)
    | none => (⟨0, none, none⟩ : ClassHint)
  | .windowName w => (s.window? w).bind (·.title)
  | .tree w => ((s.window? w).map (·.tree)).getD ⟨0, 0⟩
  | .atom _ _ => s.rules.atom
  | .property _ _ offset length =>
    let data := s.rules.property.data.map fun bytes => (bytes.drop (4 * offset)).take (4 * length)
    ({ s.rules.property with data := data } : Property)
  | .keyboard _ =>
    (⟨s.keyboard.status, UInt8.ofNat s.keyboard.group, UInt8.ofNat s.keyboard.lockedGroup,
      UInt8.ofNat s.keyboard.modifiers⟩ : KeyboardReply)
  | .lockGroup _ _ => s.lock.sent

/-- The server after a request: a locked group is one of those that the keyboard has. -/
def after (s : Scene) : Request → Scene
  | .lockGroup _ group =>
    if s.lock.sent = 0 || s.lock.isIgnored then s
    else
      let effective := group % max s.lock.groups 1
      { s with keyboard := { s.keyboard with group := effective, lockedGroup := effective } }
  | _ => s

/-- Whether a request is about a window that is not there. -/
def isAboutMissing (s : Scene) : Request → Bool
  | .classHint w | .windowName w | .tree w => (s.window? w).isNone
  | _ => false

end Scene

/-- A described server with its connections: where each display was opened, and the errors still to come. -/
structure Stage where
  scene : Scene
  opened : List (Address × String)
  waiting : List Address
  deriving DecidableEq, Repr

namespace Stage

/-- A described server before any connection. -/
def ofScene (scene : Scene) : Stage := ⟨scene, [], []⟩

/-- The address of a connection that nobody knows. -/
def nowhere : Address := 0

/-- The display that was opened at an address. -/
def displayAt? (s : Stage) (a : Address) : Option String :=
  (s.opened.find? (·.1 == a)).map (·.2)

/-- The errors that a fault makes during a call on a connection, and the server after it. -/
def strike (s : Stage) (fault : Option Fault) (a : Address) : List Address × Stage :=
  match fault with
  | none => ([], s)
  | some .call => ([a], s)
  | some .sync => ([], { s with waiting := s.waiting ++ [a] })
  | some .unrouted => ([nowhere], s)

/-- The errors that have been waiting for a connection. -/
def release (s : Stage) (a : Address) : List Address × Stage :=
  (s.waiting.filter (· == a), { s with waiting := s.waiting.filter (· != a) })

/-- Opens a display by its name, or the default one. Every connection has an address of its own. -/
def connect (name : Option String) (s : Stage) : Delivery Stage (Option Address) :=
  match name.or s.scene.defaultDisplay with
  | some display =>
    if s.scene.displays.contains display then
      let a := s.opened.length + 1
      ⟨some a, [], { s with opened := (a, display) :: s.opened }⟩
    else ⟨none, [], s⟩
  | none => ⟨none, [], s⟩

/-- Waits for a connection. -/
def sync (a : Address) (s : Stage) : Delivery Stage Unit :=
  let (errors, s) := s.release a
  ⟨(), errors, s⟩

/-- Closes a connection. -/
def disconnect (a : Address) (s : Stage) : Delivery Stage Unit :=
  let (struck, s) := s.strike (s.scene.fault? "XCloseDisplay") a
  let (released, s) := s.release a
  ⟨(), struck ++ released, s⟩

/-- Answers a request. -/
def ask (a : Address) (r : Request) (s : Stage) : Delivery Stage r.Reply :=
  let (struck, next) := s.strike (s.scene.fault? r.name) a
  let missing := if s.scene.isAboutMissing r then [a] else []
  ⟨s.scene.reply r, struck ++ missing, { next with scene := s.scene.after r }⟩

/-- The library over a described server. -/
def library : Library Stage where
  connect := connect
  disconnect := disconnect
  sync := sync
  root _ s := s.scene.root
  ask := ask

end Stage

end FocusLayout.Display
