import FocusLayout.Display.Routes

/-!
# The display library

What the program asks of the library that speaks to the X server. A `Request` goes to an open connection and has a
reply of its own kind (`Request.Reply`). Every call can deliver protocol errors while it runs (`Delivery`), and a
`Library σ` is any behaviour at all of the server and the library together, with a state of type `σ`.
-/

namespace FocusLayout.Display

/-- The id of a window; `0` is none, and as a focus `1` means the one under the pointer. -/
abbrev WindowId := Nat

/-- What can be asked on a connection. -/
inductive Request where
  | inputFocus
  | classHint (window : WindowId)
  | windowName (window : WindowId)
  | tree (window : WindowId)
  | atom (name : String) (onlyIfExists : Bool)
  | property (window : WindowId) (atom offset length : Nat)
  | keyboard (device : Nat)
  | lockGroup (device group : Nat)
  deriving DecidableEq, Repr

/-- A class property: whether it was found, and its two texts, each of which may be missing. -/
structure ClassHint where
  status : Int
  instanceName : Option (List UInt8)
  className : Option (List UInt8)
  deriving DecidableEq, Repr

/-- A window's place in the tree. -/
structure TreePlace where
  status : Int
  parent : WindowId
  deriving DecidableEq, Repr

/-- A property's value. -/
structure Property where
  status : Int
  format : Int
  data : Option (List UInt8)
  deriving DecidableEq, Repr

/-- The state of a keyboard as the server tells it. -/
structure KeyboardReply where
  status : Int
  group : UInt8
  lockedGroup : UInt8
  modifiers : UInt8
  deriving DecidableEq, Repr

namespace Request

/-- The kind of reply that a request has. -/
def Reply : Request → Type
  | inputFocus => WindowId
  | classHint _ => ClassHint
  | windowName _ => Option (List UInt8)
  | tree _ => TreePlace
  | atom _ _ => Nat
  | property _ _ _ _ => Property
  | keyboard _ => KeyboardReply
  | lockGroup _ _ => Int

/-- The name of a request in messages. -/
def name : Request → String
  | inputFocus => "XGetInputFocus"
  | classHint _ => "XGetClassHint"
  | windowName _ => "XFetchName"
  | tree _ => "XQueryTree"
  | atom _ _ => "XInternAtom"
  | property _ _ _ _ => "XGetWindowProperty"
  | keyboard _ => "XkbGetState"
  | lockGroup _ _ => "XkbLockGroup"

/-- A request with its arguments. -/
def text (r : Request) : String :=
  match r with
  | inputFocus => r.name
  | classHint w | windowName w | tree w => s!"{r.name} {w}"
  | atom n onlyIfExists => s!"{r.name} {n} {if onlyIfExists then 1 else 0}"
  | property w a offset length => s!"{r.name} {w} {a} {offset} {length}"
  | keyboard device => s!"{r.name} {device}"
  | lockGroup device group => s!"{r.name} {device} {group}"

end Request

/-- What a call gives: its value, the addresses on which protocol errors were delivered meanwhile, in order, and the
next state. -/
structure Delivery (σ α : Type) where
  value : α
  errors : List Address
  state : σ

/-- The behaviour of the library and the servers behind it. -/
structure Library (σ : Type) where
  /-- Opens a connection to the named display, or to the environment's. -/
  connect : Option String → σ → Delivery σ (Option Address)
  /-- Closes a connection, after everything that was still to be sent. -/
  disconnect : Address → σ → Delivery σ Unit
  /-- Waits until the server has answered everything sent on a connection. -/
  sync : Address → σ → Delivery σ Unit
  /-- The root window of a connection, which is known without asking. -/
  root : Address → σ → WindowId
  /-- Sends a request and takes its reply. -/
  ask : Address → (r : Request) → σ → Delivery σ r.Reply

end FocusLayout.Display
