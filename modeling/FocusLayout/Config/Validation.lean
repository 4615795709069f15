import FocusLayout.Config.Basic

/-!
# Valid configurations

`Config.validate` finds the first fault of a configuration, in the order level, format, polling interval, rotation,
rules. `Config.Fault` says what can be wrong.
-/

namespace FocusLayout.Config

/-- What is wrong with a configuration. Rules are numbered from 1. -/
inductive Fault where
  | unknownLevel (level : String)
  | unknownFormat (format : String)
  | intervalTooShort
  | repeatedGroup (group : Nat)
  | blankClass (number : Nat)
  | badPattern (number : Nat)
  deriving DecidableEq, Repr

/-- The text shown for a fault. -/
def Fault.message : Fault → String
  | unknownLevel level => s!"Неверный уровень логирования: {level}"
  | unknownFormat format => s!"Неверный формат логирования: {format}"
  | intervalTooShort => "polling_interval_ms должно быть минимум 50"
  | repeatedGroup group => s!"Группа {group} повторяется в layout.cycle"
  | blankClass number => s!"Пустой класс окна в правиле #{number}"
  | badPattern number => s!"Неверное регулярное выражение в правиле #{number}"

/-- The levels that can be configured. -/
def levels : List String := ["trace", "debug", "info", "warn", "error"]

/-- The formats that can be configured. -/
def formats : List String := ["pretty", "compact"]

/-- The shortest polling interval in milliseconds. -/
def shortestInterval : Nat := 50

/-- The earliest entry that equals an entry before it or one already seen. -/
def repeated? (seen : List Nat) : List Nat → Option Nat
  | [] => none
  | g :: rest => if seen.contains g then some g else repeated? (g :: seen) rest

/-- What is wrong with a rule that has this number. -/
def Rule.fault? (number : Nat) (r : Rule) : Option Fault :=
  match r.className with
  | none => none
  | some source =>
    if Text.isBlankString source then some (.blankClass number)
    else if (Pattern.compile? source).isNone then some (.badPattern number)
    else none

/-- The fault of the first rule that has one; the rules are numbered from `number` on. -/
def ruleFault? (number : Nat) : List Rule → Option Fault
  | [] => none
  | r :: rest => (r.fault? number).or (ruleFault? (number + 1) rest)

/-- The first fault of a configuration. -/
def fault? (c : Config) : Option Fault :=
  if !levels.contains c.logging.level then some (.unknownLevel c.logging.level)
  else if !formats.contains c.logging.format then some (.unknownFormat c.logging.format)
  else if c.watch.pollingIntervalMs < shortestInterval then some .intervalTooShort
  else ((repeated? [] c.layout.cycle).map Fault.repeatedGroup).or (ruleFault? 1 c.rules)

/-- Accepts a configuration without faults. -/
def validate (c : Config) : Except Fault Unit :=
  match c.fault? with
  | some fault => .error fault
  | none => .ok ()

end FocusLayout.Config
