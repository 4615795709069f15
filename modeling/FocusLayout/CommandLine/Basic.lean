import FocusLayout.Number.Whole

/-!
# Commands and flags

What a command line can hold. An `Invocation` is a command line that makes sense: the flags that go before the command,
and the command with its own. A `Scope` is where on the line a flag stands, and `Scope.flags` are the flags that it has.

`Mistake` is what can be wrong with a command line, and `Mistake.message` its wording.
-/

namespace FocusLayout.CommandLine

/-- The name of the program. -/
def programName : String := "xswitch"

/-! ## What is asked for -/

/-- What becomes of the layout in effect. -/
inductive LayoutChange where
  | keep
  | set (group : Nat)
  | next
  deriving DecidableEq, Repr

/-- What the program is to do. -/
inductive Command where
  | focus
  | layout (change : LayoutChange)
  | state
  | watch
  deriving DecidableEq, Repr

/-- A command line that makes sense. -/
structure Invocation where
  settingsFile : String
  isDryRun : Bool
  logFilter : Option String
  command : Command
  deriving DecidableEq, Repr

/-- The settings file where none is given. -/
def defaultSettingsFile : String := "xswitch.toml"

/-! ## Words -/

/-- The word for a command. -/
inductive Verb where
  | focus
  | layout
  | state
  | watch
  deriving DecidableEq, Repr

namespace Verb

/-- All commands. -/
def all : List Verb := [focus, layout, state, watch]

/-- A command as it is typed. -/
def name : Verb → String
  | focus => "focus"
  | layout => "layout"
  | state => "state"
  | watch => "watch"

/-- What a command does, in a line of help. -/
def about : Verb → String
  | focus => "Показать окно с фокусом ввода"
  | layout => "Показать или сменить раскладку"
  | state => "Показать группу XKB и lock-модификаторы"
  | watch => "Следить за фокусом и включать раскладку по правилам"

/-- The command with a name. -/
def named? (name : String) : Option Verb :=
  all.find? (·.name == name)

end Verb

/-- The word that asks for help on other words. -/
def helpName : String := "help"

/-- What the help command does, in a line of help. -/
def helpAbout : String := "Print this message or the help of the given subcommand(s)"

/-- A flag. -/
inductive Flag where
  | config
  | dryRun
  | logFilter
  | set
  | next
  | help
  deriving DecidableEq, Repr

namespace Flag

/-- The name after two hyphens. -/
def longName : Flag → String
  | config => "config"
  | dryRun => "dry-run"
  | logFilter => "log-level"
  | set => "set"
  | next => "next"
  | help => "help"

/-- The letter after one hyphen. -/
def letter? : Flag → Option Char
  | config => some 'c'
  | help => some 'h'
  | _ => none

/-- What a flag's value is called in help and messages, if it has a value. -/
def valueName? : Flag → Option String
  | config => some "CONFIG"
  | logFilter => some "LOG_LEVEL"
  | set => some "SET"
  | _ => none

/-- What a flag does, in a line of help. -/
def about : Flag → String
  | config => "Путь к файлу конфигурации [default: " ++ defaultSettingsFile ++ "]"
  | dryRun => "Режим сухого запуска (без X-сервера)"
  | logFilter => "Директива логирования (по умолчанию logging.filter или xswitch=\x7blogging.level\x7d)"
  | set => "Включить группу XKB с этим номером"
  | next => "Включить следующую раскладку из layout.cycle"
  | help => "Print help"

/-- A flag as messages show it. -/
def shown (f : Flag) : String :=
  match f.valueName? with
  | some value => s!"--{f.longName} <{value}>"
  | none => s!"--{f.longName}"

end Flag

/-- Where on the line a flag stands. -/
inductive Scope where
  /-- Before the command. -/
  | top
  /-- After a command. -/
  | after (verb : Verb)
  deriving DecidableEq, Repr

namespace Scope

/-- The flags of a scope, in the order of help. -/
def flags : Scope → List Flag
  | top => [.config, .dryRun, .logFilter, .help]
  | after .layout => [.set, .next, .help]
  | after _ => [.help]

/-- The flag of a scope with a name. -/
def named? (s : Scope) (name : String) : Option Flag :=
  s.flags.find? (·.longName == name)

/-- The flag of a scope with a letter. -/
def lettered? (s : Scope) (c : Char) : Option Flag :=
  s.flags.find? (·.letter? == some c)

/-- Whether a word is a command where it stands, and not a value. -/
def isCommand (s : Scope) (word : String) : Bool :=
  s == top && (word == helpName || (Verb.named? word).isSome)

end Scope

/-! ## Mistakes -/

/-- Why a text is not the number of a group. -/
inductive GroupFault where
  | unreadable (fault : Whole.Fault)
  | outOfRange (n : Int)
  deriving DecidableEq, Repr

/-- The greatest number that a group is asked for by. -/
def greatestGroup : Nat := Nat.pow 2 32 - 1

/-- The text shown for a number that is no group's. -/
def GroupFault.message : GroupFault → String
  | unreadable fault => fault.message
  | outOfRange n => s!"{n} is not in 0..={greatestGroup}"

/-- The number of a group. -/
def readGroup (text : String) : Except GroupFault Nat :=
  match Whole.read text with
  | .error fault => .error (.unreadable fault)
  | .ok n => if 0 ≤ n ∧ n ≤ greatestGroup then .ok n.toNat else .error (.outOfRange n)

/-- What is wrong with a command line. -/
inductive Mistake where
  | unknownCommand (word : String)
  | unexpected (word : String)
  | missingValue (flag : Flag)
  | surplusValue (value : String) (flag : Flag)
  | badGroup (value : String) (flag : Flag) (fault : GroupFault)
  | repeated (flag : Flag)
  /-- Two flags that exclude each other, the one given first before the other. -/
  | conflict (first second : Flag)
  | noCommand
  deriving DecidableEq, Repr

/-- The text shown for a mistake. -/
def Mistake.message : Mistake → String
  | unknownCommand word => s!"unrecognized subcommand '{word}'"
  | unexpected word => s!"unexpected argument '{word}' found"
  | missingValue flag => s!"a value is required for '{flag.shown}' but none was supplied"
  | surplusValue value flag => s!"unexpected value '{value}' for '{flag.shown}' found; no more were expected"
  | badGroup value flag fault => s!"invalid value '{value}' for '{flag.shown}': {fault.message}"
  | repeated flag => s!"the argument '{flag.shown}' cannot be used multiple times"
  | conflict first second => s!"the argument '{first.shown}' cannot be used with '{second.shown}'"
  | noCommand => s!"'{programName}' requires a subcommand but one was not provided"

/-- A number that is read as a group's is in the range of groups. -/
theorem readGroup_le {text : String} {group : Nat} (h : readGroup text = .ok group) : group ≤ greatestGroup := by
  simp only [readGroup] at h
  split at h
  · simp at h
  · split at h
    · simp only [Except.ok.injEq] at h
      omega
    · simp at h

end FocusLayout.CommandLine
