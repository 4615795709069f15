import FocusLayout.CommandLine.Help

/-!
# Reading a command line

`read` goes through the words from left to right. A flag with a value takes the next word, whatever command it may
name, unless that word looks like a flag itself. Such a flag is settled only when the next flag comes or the words end,
so a mistake in a later word can be found before one in the flag's value (`Line.settle`).

The words after a command are read completely before the flags ahead of the command are settled.
-/

namespace FocusLayout.CommandLine

/-- Why reading ends without an invocation. -/
inductive Stop where
  | help (topic : Topic)
  /-- There was nothing to read. -/
  | nothingGiven
  | mistake (m : Mistake)
  deriving DecidableEq, Repr

/-- A flag that has been given, with its value. -/
inductive Given where
  | config (file : String)
  | dryRun
  | logFilter (text : String)
  | set (group : Nat)
  | next
  deriving DecidableEq, Repr

/-- The flag that was given. -/
def Given.flag : Given → Flag
  | config _ => .config
  | dryRun => .dryRun
  | logFilter _ => .logFilter
  | set _ => .set
  | next => .next

/-! ## Words -/

/-- What a word looks like. -/
inductive Word where
  /-- Two hyphens: what follows are no flags. -/
  | endOfFlags
  | long (name : String) (value : Option String)
  /-- A letter after a hyphen, and what follows it. -/
  | short (letter : Char) (rest : List Char)
  | plain
  deriving DecidableEq, Repr

/-- What a word looks like; a hyphen alone is no flag. -/
def Word.ofString (word : String) : Word :=
  match word.toList with
  | ['-', '-'] => endOfFlags
  | '-' :: '-' :: cs =>
    let name := String.ofList (cs.takeWhile (· != '='))
    match cs.dropWhile (· != '=') with
    | [] => long name none
    | _ :: value => long name (some (String.ofList value))
  | '-' :: letter :: cs => short letter cs
  | _ => plain

/-- The value that follows a letter in the same word; an equals sign before it is left out. -/
def attached? : List Char → Option String
  | [] => none
  | '=' :: value => some (String.ofList value)
  | value => some (String.ofList value)

/-! ## The flags of a scope -/

/-- A flag with a value that is not settled yet; the value may still be missing. -/
structure Pending where
  flag : Flag
  value : Option String
  deriving DecidableEq, Repr

/-- The flags read in a scope: those that are settled, in order, and perhaps one more. -/
structure Line where
  given : List Given
  pending : Option Pending
  deriving DecidableEq, Repr

namespace Line

/-- No flags. -/
def empty : Line := ⟨[], none⟩

/-- Whether the next word is a value. -/
def isWaiting (l : Line) : Bool :=
  l.pending.any (·.value.isNone)

/-- Adds a flag, which must not have been given before. -/
def add (l : Line) (g : Given) : Line :=
  { l with given := l.given ++ [g] }

/-- Adds a flag with the text of its value; help is no flag that can be added. -/
def store (scope : Scope) (l : Line) (flag : Flag) (value : String) : Except Stop Line :=
  if l.given.any (·.flag == flag) then .error (.mistake (.repeated flag))
  else
    match flag with
    | .config => .ok (l.add (.config value))
    | .logFilter => .ok (l.add (.logFilter value))
    | .dryRun => .ok (l.add .dryRun)
    | .next => .ok (l.add .next)
    | .set =>
      match readGroup value with
      | .ok group => .ok (l.add (.set group))
      | .error fault => .error (.mistake (.badGroup value flag fault))
    | .help => .error (.help (.scope scope))

/-- Adds the flag that is not settled. -/
def settle (scope : Scope) (l : Line) : Except Stop Line :=
  match l.pending with
  | none => .ok l
  | some ⟨flag, none⟩ => .error (.mistake (.missingValue flag))
  | some ⟨flag, some value⟩ => store scope { l with pending := none } flag value

/-- Takes in a flag and the value attached to it. -/
def take (scope : Scope) (l : Line) (flag : Flag) (value : Option String) : Except Stop Line :=
  match flag.valueName?, value with
  | some _, some value => do store scope (← l.settle scope) flag value
  | some _, none => do return { ← l.settle scope with pending := some ⟨flag, none⟩ }
  | none, some value => .error (.mistake (.surplusValue value flag))
  | none, none => do store scope (← l.settle scope) flag ""

/-- Takes in the value that was missing. -/
def fill (l : Line) (value : String) : Line :=
  { l with pending := l.pending.map fun p => { p with value := some value } }

end Line

namespace Scope

/-- The mistake of a word that is neither flag nor value nor command. After the mark that ends flags, a command's name
is known for what it is, but is out of place. -/
def surplus (s : Scope) (flagsEnded : Bool) (word : String) : Mistake :=
  match s with
  | top => if flagsEnded && s.isCommand word then .unexpected word else .unknownCommand word
  | after _ => .unexpected word

/-- Takes in a word that is no command. A letter is that of a flag that takes the rest of the word as its value, or of
help, which ends the reading. -/
def takeWord (s : Scope) (l : Line) (word : String) : Except Stop Line :=
  match Word.ofString word with
  | .long name value =>
    match s.named? name with
    | some flag => l.take s flag value
    | none => .error (.mistake (.unexpected ("--" ++ name)))
  | .short letter rest =>
    match s.lettered? letter with
    | some flag => l.take s flag (if flag.valueName?.isSome then attached? rest else none)
    | none => .error (.mistake (.unexpected (String.ofList ['-', letter])))
  | _ => if l.isWaiting then .ok (l.fill word) else .error (.mistake (s.surplus false word))

/-- Goes through the words of a scope: up to the end, or up to a command, which it gives with the words after it. -/
def scan (s : Scope) (l : Line) : List String → Except Stop (Line × Option (String × List String))
  | [] => .ok (l, none)
  | word :: rest =>
    if !l.isWaiting && s.isCommand word then .ok (l, some (word, rest))
    else if Word.ofString word = .endOfFlags then
      match rest with
      | [] => .ok (l, none)
      | next :: _ => .error (.mistake (s.surplus true next))
    else
      match s.takeWord l word with
      | .ok l => scan s l rest
      | .error stop => .error stop

end Scope

/-! ## The whole line -/

/-- The topic that the words after the help command name. -/
def readTopic (topic : Topic) : List String → Except Stop Topic
  | [] => .ok topic
  | word :: rest =>
    match topic with
    | .scope .top =>
      if word == helpName then readTopic .help rest
      else
        match Verb.named? word with
        | some verb => readTopic (.scope (.after verb)) rest
        | none => .error (.mistake (.unknownCommand word))
    | _ => .error (.mistake (.unknownCommand word))

/-- The command that the flags after its word make. -/
def commandOf (verb : Verb) (given : List Given) : Except Stop Command :=
  match verb with
  | .focus => .ok .focus
  | .state => .ok .state
  | .watch => .ok .watch
  | .layout =>
    match given with
    | [] => .ok (.layout .keep)
    | [.set group] => .ok (.layout (.set group))
    | [_] => .ok (.layout .next)
    | first :: second :: _ => .error (.mistake (.conflict first.flag second.flag))

/-- Reads a command with the words after it. -/
def readCommand (verb : Verb) (words : List String) : Except Stop Command := do
  let (line, _) ← Scope.scan (.after verb) .empty words
  let line ← line.settle (.after verb)
  commandOf verb line.given

/-- The value of the settings file flag. -/
def Given.file? : Given → Option String
  | config file => some file
  | _ => none

/-- The value of the log filter flag. -/
def Given.logFilter? : Given → Option String
  | logFilter text => some text
  | _ => none

/-- Reads a command line. -/
def read (words : List String) : Except Stop Invocation := do
  let (line, found) ← Scope.scan .top .empty words
  match found with
  | none =>
    let line ← line.settle .top
    throw (if line.given.isEmpty then .nothingGiven else .mistake .noCommand)
  | some (word, rest) =>
    match Verb.named? word with
    | none => throw (.help (← readTopic (.scope .top) rest))
    | some verb =>
      let command ← readCommand verb rest
      let line ← line.settle .top
      return {
        settingsFile := (line.given.findSome? Given.file?).getD defaultSettingsFile
        isDryRun := line.given.contains .dryRun
        logFilter := line.given.findSome? Given.logFilter?
        command := command }

end FocusLayout.CommandLine
