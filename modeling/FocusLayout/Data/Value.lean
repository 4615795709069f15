import FocusLayout.Data.Pairs
import FocusLayout.Number.Binary64
import FocusLayout.Text.Quoted

/-!
# Values

What a settings file or a variable can hold: a `Value`, with dictionaries as lists of entries that have different
keys. `Value.merge` lays a later value over an earlier one: two dictionaries merge key by key, anything else replaces
what was there. `Value.shown` is how a value is called in a message.
-/

namespace FocusLayout.Data

/-- A value of a settings file or a variable. Whole numbers from a file are signed, most of those from a variable are
not. -/
inductive Value where
  | absent
  | bool (b : Bool)
  | signed (n : Int)
  | unsigned (n : Nat)
  | float (x : Binary64)
  | string (s : String)
  | char (c : Char)
  | array (items : List Value)
  | dict (entries : List (String × Value))

/-- Entries of a dictionary. -/
abbrev Entries := Pairs Value

namespace Value

mutual

/-- A later value over an earlier one. -/
def merge (earlier later : Value) : Value :=
  match later with
  | dict entries =>
    match earlier with
    | dict below => dict (mergeEntries below entries)
    | _ => dict entries
  | other => other

/-- Later entries over earlier ones. -/
def mergeEntries (below : Entries) (entries : Entries) : Entries :=
  match entries with
  | [] => below
  | (key, value) :: rest =>
    let merged := match below.lookup? key with
      | some v => merge v value
      | none => value
    mergeEntries (below.set key merged) rest

end

/-- A value with its kind, as it is called in a message. -/
def shown : Value → String
  | absent => "unit"
  | bool b => s!"bool {b}"
  | signed n => "signed int \x60" ++ toString n ++ "\x60"
  | unsigned n => "unsigned int \x60" ++ toString n ++ "\x60"
  | float x => "float \x60" ++ x.text ++ "\x60"
  | string s => "string " ++ Text.Quoted.quote .string s
  | char c => "char " ++ Text.Quoted.quote .character (String.singleton c)
  | array _ => "sequence"
  | dict _ => "map"

end Value

end FocusLayout.Data
