import FocusLayout.Config.Environment
import FocusLayout.Config.Reading
import FocusLayout.Config.Validation
import FocusLayout.Data.Toml.Document

/-!
# Loading a configuration

The defaults, the settings file and the environment are three layers, each laid over the one before
(`Config.layers`). `Config.load` reads the result, and gives it with its matchers if it is valid.
-/

namespace FocusLayout.Config

open Data (Value Entries)

/-- Why a configuration cannot be loaded. -/
inductive LoadError where
  /-- The file is no document at all. -/
  | malformed
  /-- A value is not what its setting needs. -/
  | unfit (problem : Problem)
  /-- The settings are readable but not valid. -/
  | invalid (fault : Fault)

/-- The keys that lead to the cause of a load error, and its text unless the file is no document. -/
def LoadError.cause? : LoadError → Option (List String × Option String)
  | malformed => some ([], none)
  | unfit problem => some (problem.path, some problem.cause.text)
  | invalid _ => none

/-- The text shown for a load error; settings that cannot be read are blamed on the file. -/
def LoadError.message (file : String) : LoadError → String
  | invalid fault => fault.message
  | _ => "Не удалось загрузить конфигурацию из " ++ Text.Quoted.quote .fileName file

/-- The entries of a value that is a dictionary. -/
def entriesOf : Value → Entries
  | .dict entries => entries
  | _ => []

/-- The three layers merged; there may be no file. -/
def layers (file : Entries) (env : Environment) : Entries :=
  entriesOf (((Value.dict default.toEntries).merge (.dict file)).merge env.settings)

/-- The entries of a settings file, of which a missing one has none. -/
def fileEntries (file : Option (List UInt8)) : Except LoadError Entries :=
  match file with
  | none => .ok []
  | some bytes =>
    match Data.Toml.read? bytes with
    | some entries => .ok entries
    | none => .error .malformed

/-- The settings as they are in the file and the environment, before they are checked. -/
def extract (file : Option (List UInt8)) (env : Environment) : Except LoadError Config := do
  let entries ← fileEntries file
  match read (layers entries env) with
  | .ok c => return c
  | .error problem => throw (.unfit problem)

/-- A configuration from a settings file and the environment. -/
def load (file : Option (List UInt8)) (env : Environment) : Except LoadError Config := do
  let c ← extract file env
  match c.validate with
  | .ok () => return c.indexed
  | .error fault => throw (.invalid fault)

end FocusLayout.Config
