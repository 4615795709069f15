import FocusLayout.Data.Brief
import FocusLayout.Text.Fields

/-!
# Settings in the environment

A variable whose name begins with `settingsMark` sets one setting: two underscores in the rest of its name stand for
the step into a section, and letter case does not count. `Environment.settings` is what all variables of an
environment set, the later ones over the earlier ones.
-/

namespace FocusLayout

/-- The variables of an environment in their order; no two have the same name. -/
abbrev Environment := Data.Pairs String

namespace Environment

/-- The value of a variable. -/
def value? (env : Environment) (name : String) : Option String :=
  env.lookup? name

/-- The environment in which variables have been set one after another. -/
def ofList (settings : List (String × String)) : Environment :=
  settings.foldl (fun env (name, value) => env.set name value) []

/-- How the names of variables with settings begin. -/
def settingsMark : List Char := "XSWITCH_".toList

/-- A text with each pair of underscores replaced by a dot. -/
def dotted : List Char → List Char
  | '_' :: '_' :: rest => '.' :: dotted rest
  | c :: rest => c :: dotted rest
  | [] => []

/-- The setting that a variable's name stands for, as the keys that lead to it. -/
def settingOf (name : String) : Option (List String) :=
  let cs := name.toList
  let head := cs.take settingsMark.length
  if head.map Char.toUpper == settingsMark then
    let parts := Text.fields (· == '.') (Text.trim (dotted (cs.drop settingsMark.length)))
    if parts.any List.isEmpty then none
    else some (parts.map fun part => String.ofList (part.map Char.toLower))
  else none

/-- A value under the keys that lead to it. -/
def nest (keys : List String) (value : Data.Value) : Data.Value :=
  keys.foldr (fun key inner => .dict [(key, inner)]) value

/-- The settings of one variable. -/
def settingsOf (name value : String) : Option Data.Value :=
  (settingOf name).map fun keys => nest keys (Data.Brief.read value)

/-- The settings of all variables. -/
def settings (env : Environment) : Data.Value :=
  (env.filterMap fun (name, value) => settingsOf name value).foldl Data.Value.merge (.dict [])

end Environment

end FocusLayout
