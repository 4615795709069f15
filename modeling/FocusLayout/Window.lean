import FocusLayout.Text.Quoted

/-!
# Windows and focus events

- `Window`: what is known of the window with the input focus, and its text;
- `Window.differs`: whether the focus counts as moved; the instance alone does not count (`differs_eq_false_iff`);
- `FocusEvent`: the focus moved to a window, or to none.
-/

namespace FocusLayout

/-- The window with the input focus. `className` and `instanceName` are the two parts of its class property. -/
structure Window where
  id : Nat
  title : String
  className : String
  instanceName : String
  deriving DecidableEq, Repr

namespace Window

/-- A number in hexadecimal, as window ids are shown. -/
def showId (id : Nat) : String :=
  "0x" ++ String.ofList (Text.Quoted.hex id)

/-- The text of a window: id, title, and in brackets the parts of its class that it has. -/
def text (w : Window) : String :=
  let head := showId w.id ++ " \x22" ++ w.title ++ "\x22"
  match w.instanceName.isEmpty, w.className.isEmpty with
  | true, true => head
  | false, true => s!"{head} ({w.instanceName})"
  | true, false => s!"{head} ({w.className})"
  | false, false => s!"{head} ({w.instanceName}.{w.className})"

/-- Whether one window counts as another than the one before it: by id, class or title. -/
def differs (w before : Window) : Bool :=
  w.id != before.id || w.className != before.className || w.title != before.title

/-- Windows do not differ when id, class and title agree, whatever the instances. -/
theorem differs_eq_false_iff (w before : Window) :
    w.differs before = false ↔
      w.id = before.id ∧ w.className = before.className ∧ w.title = before.title := by
  simp [differs, and_assoc]

/-- A window does not differ from itself. -/
theorem differs_self (w : Window) : w.differs w = false :=
  (differs_eq_false_iff w w).2 ⟨rfl, rfl, rfl⟩

/-- A window without a class property, which only rules for every window speak of. -/
def isUnnamed (w : Window) : Bool :=
  w.instanceName.isEmpty && w.className.isEmpty

end Window

/-- A change of the focus. -/
inductive FocusEvent where
  | changed (window : Window)
  | lost
  deriving DecidableEq, Repr

namespace FocusEvent

/-- The event for a new observation. -/
def ofObservation : Option Window → FocusEvent
  | some w => changed w
  | none => lost

/-- The window the focus moved to. -/
def window? : FocusEvent → Option Window
  | changed w => some w
  | lost => none

/-- The event's kind as a word. -/
def kind : FocusEvent → String
  | changed _ => "FocusChanged"
  | lost => "FocusLost"

/-- The text of an event. -/
def text (e : FocusEvent) : String :=
  match e.window? with
  | some w => s!"{e.kind}: {w.text}"
  | none => e.kind

@[simp] theorem window?_ofObservation (seen : Option Window) : (ofObservation seen).window? = seen := by
  cases seen <;> rfl

end FocusEvent

end FocusLayout
