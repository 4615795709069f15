import FocusLayout.Layout.Backend
import FocusLayout.Text.Quoted

/-!
# Switching layouts

A `Switcher` knows the groups to rotate through and remembers the names of the groups once they have been read. Its
operations are steps over a `Bench`, which is the switcher beside the device.

- `Switcher.set` asks only for groups below `available`, which is `4` or the number of names if that is less and not
  zero;
- `Switcher.next` goes to the group after the current one (`following`);
- `Switcher.apply` locks a group unless it is in effect already.
-/

namespace FocusLayout.Layout

/-- The number of groups that a keyboard can have. -/
def maxGroups : Nat := 4

/-- What a switcher keeps: the groups to rotate through, and the names once they are known. -/
structure Switcher where
  cycle : List Nat
  known : Option (List String)
  deriving DecidableEq, Repr

/-- A switcher beside the device it works on. -/
structure Bench (S : Type) where
  switcher : Switcher
  device : S

/-- A step on the device of a bench. -/
def onDevice {S α : Type} (t : Step S α) : Step (Bench S) α :=
  t.within Bench.device fun s bench => { bench with device := s }

/-- The number of names as a number of groups, which has 32 bits. -/
def groupCount (names : List String) : Nat :=
  names.length % Nat.pow 2 32

/-- The element after `current` in a list taken as a ring; the first one if it is not there. -/
def following (candidates : List Nat) (current : Nat) : Nat :=
  match candidates.findIdx? (· == current) with
  | some i => candidates.getD ((i + 1) % candidates.length) current
  | none => candidates.headD current

namespace Switcher

variable {S : Type} (b : Backend S)

/-- Begins to switch layouts on a device; nothing is read yet. -/
def start (cycle : List Nat) : Step S Switcher := do
  Step.say .info .switcher s!"Инициализация LayoutSwitcher (backend: {b.name})"
  return ⟨cycle, none⟩

/-- Runs a step on a bench with a switcher that begins now. -/
def begin {α : Type} (cycle : List Nat) (t : Step (Bench S) α) : Step S α := do
  let switcher ← start b cycle
  t.within (fun s => ⟨switcher, s⟩) fun bench _ => bench.device

/-- The names of the groups, which are read from the device once. -/
def names : Step (Bench S) (List String) := do
  match (← Step.state).switcher.known with
  | some names => return names
  | none =>
    let names ← onDevice b.names
    Step.say .debug .switcher ("Известные раскладки: " ++ Text.Quoted.quoteList .string names)
    Step.update fun bench => { bench with switcher := { bench.switcher with known := some names } }
    return names

/-- The group in effect. -/
def current : Step (Bench S) Nat :=
  onDevice b.current

/-- A group with its name, if that is known. -/
def describe (group : Nat) : Step (Bench S) String := do
  match ← (names b).attempt with
  | .ok names =>
    match names[group]? with
    | some name => return s!"{group} ({name})"
    | none => return toString group
  | .error _ => return toString group

/-- How many groups there are, by their names. -/
def available : Step (Bench S) Nat := do
  let count := groupCount (← names b)
  return if count = 0 then maxGroups else min count maxGroups

/-- Locks a group that exists, and gives the one in effect afterwards. -/
def set (group : Nat) : Step (Bench S) Nat := do
  let available ← available b
  if available ≤ group then
    Step.fail (.invalidLayout group available)
  else
    let effective ← onDevice (b.lock group)
    if effective ≠ group then
      Step.say .warn .switcher s!"Запрошена раскладка {group}, но действует {effective}"
    return effective

/-- The groups to rotate through: the configured ones, else all that have names. -/
def candidates : Step (Bench S) (List Nat) := do
  let cycle := (← Step.state).switcher.cycle
  if cycle.isEmpty then
    let count := groupCount (← names b)
    if count = 0 then
      Step.fail (.serviceUnavailable "список раскладок пуст, задайте layout.cycle")
    else
      return List.range (min count maxGroups)
  else
    return cycle

/-- Locks the next group in the rotation. -/
def next : Step (Bench S) Nat := do
  let candidates ← candidates b
  let current ← current b
  let next := following candidates current
  Step.say .debug .switcher s!"Переключение раскладки {current} -> {next}"
  set b next

/-- Brings a group into effect, and tells whether that took a switch. -/
def apply (group : Nat) : Step (Bench S) Bool := do
  if (← current b) = group then
    return false
  else
    let _ ← set b group
    return true

end Switcher

end FocusLayout.Layout
