import FocusLayout.Step

/-!
# Where the layout in effect lives

A `Backend S` tells the group in effect, locks a group and knows the names of the groups, all as steps over a device
of type `S`.

- `Backend.dryRun` keeps the group in memory;
- `Backend.noting` keeps a record of the calls that a backend receives (`Call`).
-/

namespace FocusLayout.Layout

/-- The operations on a device that has layout groups. -/
structure Backend (S : Type) where
  name : String
  /-- The group in effect. -/
  current : Step S Nat
  /-- Locks a group and gives the one in effect afterwards. -/
  lock : Nat → Step S Nat
  /-- The names of the groups. -/
  names : Step S (List String)

/-- The failure to have a backend without a display. -/
def noBackend : Failure :=
  .serviceUnavailable "нет соединения с X-дисплеем для LayoutBackend"

namespace Backend

variable {S T : Type}

/-! ## Parts of a device -/

/-- A backend for a part of a larger device. -/
def within (get : T → S) (put : S → T → T) (b : Backend S) : Backend T where
  name := b.name
  current := b.current.within get put
  lock group := (b.lock group).within get put
  names := b.names.within get put

/-! ## Memory -/

/-- A device in memory. -/
structure Memory where
  group : Nat
  names : List String
  deriving DecidableEq, Repr

/-- The device for dry runs: two layouts, the first one in effect. -/
def Memory.default : Memory := ⟨0, ["us", "ru"]⟩

/-- The backend over a device in memory. It locks whatever it is asked for. -/
def dryRun : Backend Memory where
  name := "dry-run"
  current := do return (← Step.state).group
  lock group := do
    Step.say .info .switcher s!"Dry-run: XkbLockGroup({group})"
    Step.update fun m => { m with group := group }
    return group
  names := do return (← Step.state).names

/-! ## Calls -/

/-- A call that a backend receives. -/
inductive Call where
  | current
  | lock (group : Nat)
  | names
  deriving DecidableEq, Repr

/-- The text of a call. -/
def Call.text : Call → String
  | current => "current"
  | lock group => s!"lock {group}"
  | names => "names"

/-- A device with the calls it has received, in order. -/
structure Noted (S : Type) where
  device : S
  calls : List Call

/-- Notes a call, then runs it on the device. -/
def noted {α : Type} (call : Call) (t : Step S α) : Step (Noted S) α := do
  Step.update fun n => { n with calls := n.calls ++ [call] }
  t.within Noted.device fun s n => { n with device := s }

/-- The backend that also notes its calls. -/
def noting (b : Backend S) : Backend (Noted S) where
  name := b.name
  current := noted .current b.current
  lock group := noted (.lock group) (b.lock group)
  names := noted .names b.names

end Backend

end FocusLayout.Layout
