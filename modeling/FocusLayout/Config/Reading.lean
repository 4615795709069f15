import FocusLayout.Config.Basic
import FocusLayout.Data.Value

/-!
# Configurations as values

`Config.read` takes a configuration from a value, section by section in the order of the alphabet, and
`Config.toValue` gives the value of a configuration. A section is a dictionary, or a list of its fields in their
order of declaration; unknown keys and surplus items do not count.

A `Problem` says what is wrong, and where: the keys and positions that lead there.
-/

namespace FocusLayout.Config

open Data (Value Entries)

/-! ## Problems -/

/-- What is wrong with a value. -/
inductive Cause where
  | wrongType (found : Value) (expected : String)
  | outOfRange (found : Value) (expected : String)
  | missingField (name : String)
  | tooShort (length : Nat) (expected : String) (fields : Nat)

/-- The text shown for a cause. -/
def Cause.text : Cause → String
  | wrongType found expected => s!"invalid type: found {found.shown}, expected {expected}"
  | outOfRange found expected => s!"invalid value {found.shown}, expected {expected}"
  | missingField name => "missing field \x60" ++ name ++ "\x60"
  | tooShort length expected fields =>
    let noun := if fields = 1 then "element" else "elements"
    s!"invalid length {length}, expected {expected} with {fields} {noun}"

/-- A cause, and the keys and positions that lead to its value. -/
structure Problem where
  path : List String
  cause : Cause

/-- Reading from a value. -/
abbrev Reader (α : Type) := Value → Except Problem α

namespace Reader

variable {α : Type}

/-- A problem with the value itself. -/
def fail (cause : Cause) : Except Problem α :=
  .error ⟨[], cause⟩

/-- Reads something that a key or a position leads to. -/
def «at» (step : String) (result : Except Problem α) : Except Problem α :=
  match result with
  | .ok a => .ok a
  | .error p => .error { p with path := step :: p.path }

/-! ## Simple values -/

/-- A whole number of so many bits. -/
def whole (bits : Nat) : Reader Nat := fun v =>
  let expected := s!"u{bits}"
  match v with
  | .signed n => if 0 ≤ n && n.toNat < Nat.pow 2 bits then .ok n.toNat else fail (.outOfRange v expected)
  | .unsigned n => if n < Nat.pow 2 bits then .ok n else fail (.outOfRange v expected)
  | _ => fail (.wrongType v expected)

/-- A text; one character is a text, too. -/
def text : Reader String := fun v =>
  match v with
  | .string s => .ok s
  | .char c => .ok (String.singleton c)
  | _ => fail (.wrongType v "a string")

/-- A value that may be absent. -/
def optional (read : Reader α) : Reader (Option α) := fun v =>
  match v with
  | .absent => .ok none
  | v => (read v).map some

/-- The items of a list, numbered from a position on. -/
def items (read : Reader α) (position : Nat) : List Value → Except Problem (List α)
  | [] => .ok []
  | v :: rest => do
    let a ← «at» (toString position) (read v)
    let others ← items read (position + 1) rest
    return a :: others

/-- A list. -/
def list (read : Reader α) : Reader (List α) := fun v =>
  match v with
  | .array values => items read 0 values
  | v => fail (.wrongType v "a sequence")

/-! ## Fields -/

/-- The field of a dictionary, if it is there. -/
def field? (entries : Entries) (name : String) (read : Reader α) : Except Problem (Option α) :=
  match entries.lookup? name with
  | some v => («at» name (read v)).map some
  | none => .ok none

/-- A field that must be there. -/
def required (name : String) (found : Option α) : Except Problem α :=
  match found with
  | some a => .ok a
  | none => fail (.missingField name)

/-- The item of a list at a position, if it is there. -/
def item? (values : List Value) (position : Nat) (read : Reader α) : Except Problem (Option α) :=
  match values[position]? with
  | some v => («at» (toString position) (read v)).map some
  | none => .ok none

/-- An item that must be there, in a list that stands for a section with so many fields. -/
def requiredItem (values : List Value) (position : Nat) (read : Reader α) (expected : String) (fields : Nat) :
    Except Problem α := do
  match ← item? values position read with
  | some a => return a
  | none => fail (.tooShort position expected fields)

/-- A section as a dictionary or as a list. -/
def «section» (expected : String) (ofEntries : Entries → Except Problem α) (ofItems : List Value → Except Problem α) :
    Reader α := fun v =>
  match v with
  | .dict entries => ofEntries entries
  | .array values => ofItems values
  | v => fail (.wrongType v expected)

end Reader

open Reader

/-! ## Sections -/

/-- Reads how to log. -/
def Logging.read : Reader Logging :=
  let expected := "struct LoggingConfig"
  Reader.section expected
    (fun entries => do
      let filter ← field? entries "filter" text
      let format ← field? entries "format" text
      let level ← field? entries "level" text
      let level ← required "level" level
      let format ← required "format" format
      return ⟨level, format, filter.getD ""⟩)
    (fun values => do
      let level ← requiredItem values 0 text expected 3
      let format ← requiredItem values 1 text expected 3
      let filter ← item? values 2 text
      return ⟨level, format, filter.getD ""⟩)

/-- Reads which display to use. -/
def Display.read : Reader Display :=
  Reader.section "struct DisplayConfig"
    (fun entries => do return ⟨((← field? entries "name" (optional text)).join)⟩)
    (fun values => do return ⟨((← item? values 0 (optional text)).join)⟩)

/-- Reads the groups to rotate through. -/
def Layout.read : Reader Layout :=
  Reader.section "struct LayoutConfig"
    (fun entries => do return ⟨(← field? entries "cycle" (list (whole 32))).getD []⟩)
    (fun values => do return ⟨(← item? values 0 (list (whole 32))).getD []⟩)

/-- Reads how to watch. -/
def Watch.read : Reader Watch :=
  let expected := "struct WatchConfig"
  Reader.section expected
    (fun entries => do
      let layout ← field? entries "default_layout" (optional (whole 32))
      let interval ← field? entries "polling_interval_ms" (whole 64)
      return ⟨← required "polling_interval_ms" interval, layout.join⟩)
    (fun values => do
      let interval ← requiredItem values 0 (whole 64) expected 2
      let layout ← item? values 1 (optional (whole 32))
      return ⟨interval, layout.join⟩)

/-- Reads a rule. -/
def Rule.read : Reader Rule :=
  let expected := "struct WindowRule"
  Reader.section expected
    (fun entries => do
      let className ← field? entries "class" (optional text)
      let layout ← field? entries "layout" (whole 32)
      return ⟨className.join, ← required "layout" layout⟩)
    (fun values => do
      let className ← item? values 0 (optional text)
      let layout ← requiredItem values 1 (whole 32) expected 2
      return ⟨className.join, layout⟩)

/-! ## The whole -/

/-- Reads a configuration, without matchers. -/
def read (entries : Entries) : Except Problem Config := do
  let display ← field? entries "display" Display.read
  let layout ← field? entries "layout" Layout.read
  let logging ← field? entries "logging" Logging.read
  let rules ← field? entries "rules" (list Rule.read)
  let watch ← field? entries "watch" Watch.read
  let logging ← required "logging" logging
  let display ← required "display" display
  let layout ← required "layout" layout
  let watch ← required "watch" watch
  return ⟨logging, display, layout, watch, rules.getD [], []⟩

/-- A value that may be absent, as a value. -/
def ofOption {α : Type} (f : α → Value) (a : Option α) : Value :=
  (a.map f).getD .absent

/-- The entries of a configuration. -/
def toEntries (c : Config) : Entries :=
  [("display", .dict [("name", ofOption .string c.display.name)]),
    ("layout", .dict [("cycle", .array (c.layout.cycle.map .unsigned))]),
    ("logging", .dict
      [("filter", .string c.logging.filter), ("format", .string c.logging.format), ("level", .string c.logging.level)]),
    ("rules", .array (c.rules.map fun r =>
      .dict [("class", ofOption .string r.className), ("layout", .unsigned r.layout)])),
    ("watch", .dict
      [("default_layout", ofOption .unsigned c.watch.defaultLayout),
        ("polling_interval_ms", .unsigned c.watch.pollingIntervalMs)])]

end FocusLayout.Config
