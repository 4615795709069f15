/-!
# Log lines

- `Level`: the five levels, ordered by how much detail they carry (`Level.detail`);
- `Origin`: the part of the program that speaks, with the dotted path that filters select it by (`Origin.path`);
- `Entry`: one line, and `Entry.line`, its text on a terminal.
-/

namespace FocusLayout.Log

/-- How important a line is. -/
inductive Level where
  | error
  | warn
  | info
  | debug
  | trace
  deriving DecidableEq, Repr

namespace Level

/-- The number of a level in a filter: a filter at `n` lets lines of detail at most `n` through. -/
def detail : Level → Nat
  | error => 1
  | warn => 2
  | info => 3
  | debug => 4
  | trace => 5

/-- The name a level is printed with. -/
def name : Level → String
  | error => "ERROR"
  | warn => "WARN"
  | info => "INFO"
  | debug => "DEBUG"
  | trace => "TRACE"

end Level

/-- The part of the program a line comes from. -/
inductive Origin where
  | program
  | session
  | display
  | focusQuery
  | keyboard
  | switcher
  | watcher
  | dryRunSource
  deriving DecidableEq, Repr

/-- The path that log filters compare with: a filter for a path selects every path that starts with it. -/
def Origin.path : Origin → String
  | program => "xswitch"
  | session => "xswitch::utils::session"
  | display => "xswitch::xorg::display"
  | focusQuery => "xswitch::xorg::focus"
  | keyboard => "xswitch::xorg::xkb"
  | switcher => "xswitch::services::layout_switcher"
  | watcher => "xswitch::services::focus_watcher"
  | dryRunSource => "xswitch::services::focus_source::dry_run"

/-- One log line. -/
structure Entry where
  level : Level
  origin : Origin
  text : String
  deriving DecidableEq, Repr

/-- A line as its level and text, without its origin. -/
def Entry.brief (e : Entry) : String :=
  e.level.name ++ " " ++ e.text

/-- A character as it is written to a terminal: those that a terminal would obey are spelled out. -/
def terminalSafe (c : Char) : String :=
  if c == '\x1b' then "\\x1b"
  else if c == '\x07' then "\\x07"
  else if c == '\x08' then "\\x08"
  else if c == '\x0c' then "\\x0c"
  else if c == '\x7f' then "\\x7f"
  else if 0x80 ≤ c.toNat && c.toNat ≤ 0x9F then
    "\\u\x7b" ++ String.ofList (Nat.toDigits 16 c.toNat) ++ "\x7d"
  else c.toString

/-- A line as it is written to a terminal. -/
def Entry.line (e : Entry) : String :=
  e.level.name ++ " " ++ e.origin.path ++ ": " ++ String.join (e.text.toList.map terminalSafe)

end FocusLayout.Log
