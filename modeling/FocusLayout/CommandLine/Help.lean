import FocusLayout.CommandLine.Basic

/-!
# Help

`Topic.page` is the help on the program or on one of its commands: what it is about, how it is used, and tables of its
commands and flags (`table`).
-/

namespace FocusLayout.CommandLine

/-- What help is about. -/
inductive Topic where
  | scope (s : Scope)
  | help
  deriving DecidableEq, Repr

/-- A table of names and what they mean, with the meanings in one column. -/
def table (title : String) (rows : List (String × String)) : String :=
  let width := (rows.map (·.1.length)).foldl max 0
  let row (name meaning : String) : String :=
    "  " ++ name ++ String.ofList (List.replicate (width - name.length) ' ') ++ "  " ++ meaning ++ "\n"
  title ++ ":\n" ++ String.join (rows.map fun (name, meaning) => row name meaning)

/-- A flag's name in a table: long names stand in one column too. -/
def Flag.tabled (f : Flag) : String :=
  match f.letter? with
  | some c => s!"-{c}, {f.shown}"
  | none => "    " ++ f.shown

/-- The flags of a scope as a table. -/
def Scope.flagTable (s : Scope) : String :=
  table "Options" (s.flags.map fun f => (f.tabled, f.about))

/-- The line that tells how something is used. -/
def usage (words : String) : String :=
  s!"Usage: {programName} {words}\n"

/-- Paragraphs with blank lines between them. -/
def paragraphs (parts : List String) : String :=
  "\n".intercalate parts

/-- The help on a topic. -/
def Topic.page : Topic → String
  | scope .top =>
    paragraphs [
      "Помощник раскладки клавиатуры для X.Org\n",
      usage "[OPTIONS] <COMMAND>",
      table "Commands" ((Verb.all.map fun v => (v.name, v.about)) ++ [(helpName, helpAbout)]),
      Scope.top.flagTable]
  | scope (.after verb) =>
    let own := (Scope.after verb).flags.any (· != .help)
    paragraphs [
      verb.about ++ "\n",
      usage (if own then verb.name ++ " [OPTIONS]" else verb.name),
      (Scope.after verb).flagTable]
  | help =>
    paragraphs [
      helpAbout ++ "\n",
      usage (helpName ++ " [COMMAND]..."),
      table "Arguments" [("[COMMAND]...", "Print help for the subcommand(s)")]]

end FocusLayout.CommandLine
