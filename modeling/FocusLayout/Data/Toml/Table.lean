import FocusLayout.Data.Value

/-!
# TOML: tables in the making

A document builds its tables line by line, and no table may be defined twice. `Node` is a table or a value in the
making and remembers how a table came about (`Origin`), which decides what may still be added:

- `addPair`: a pair under a dotted name goes into tables that only dotted names have made;
- `openTable`: a header opens a new table, or one that only the headers of its subtables have made;
- `openElement`: a header in double brackets adds an element to a list of tables.

Names that lead into a list of tables mean its last element.
-/

namespace FocusLayout.Data.Toml

/-- How a table came about. -/
inductive Origin where
  /-- By a header of its own. -/
  | header
  /-- By the header of a table inside it. -/
  | passed
  /-- By a dotted name. -/
  | dotted
  deriving DecidableEq, Repr

/-- A value or a table in the making. The elements of a list of tables come in reverse. -/
inductive Node where
  | leaf (value : Value)
  | table (origin : Origin) (entries : List (String × Node))
  | tables (elements : List (List (String × Node)))

/-- The entries of a table in the making. -/
abbrev Nodes := Pairs Node

namespace Nodes

/-- Changes the entries of the table that a key leads to: `make` makes it if there is none, and `enter` says which
tables with entries may be changed. -/
def within (nodes : Nodes) (key : String) (make : Origin) (enter : Origin → Bool) (change : Nodes → Option Nodes) :
    Option Nodes :=
  match nodes.lookup? key with
  | none => (change []).map fun entries => nodes.set key (.table make entries)
  | some (.table origin entries) =>
    if enter origin then (change entries).map fun entries => nodes.set key (.table origin entries) else none
  | some (.tables (last :: before)) =>
    (change last).map fun entries => nodes.set key (.tables (entries :: before))
  | _ => none

/-- Adds a pair under a dotted name, whose last part is `key`. -/
def addPair (key : String) (value : Value) : List String → Nodes → Option Nodes
  | [], nodes => if (nodes.lookup? key).isSome then none else some (nodes ++ [(key, .leaf value)])
  | [part], nodes =>
    match nodes.lookup? part with
    | some (.tables _) => none
    | _ => nodes.within part .dotted (· == .dotted) (addPair key value [])
  | part :: rest, nodes => nodes.within part .dotted (· != .header) (addPair key value rest)

/-- Adds a pair to the table that a header has opened. -/
def addUnder (key : String) (value : Value) (name : List String) : List String → Nodes → Option Nodes
  | [], nodes => addPair key value name nodes
  | part :: rest, nodes => nodes.within part .passed (fun _ => true) (addUnder key value name rest)

/-- Opens a table. -/
def openTable : List String → Nodes → Option Nodes
  | [], _ => none
  | [key], nodes =>
    match nodes.lookup? key with
    | none => some (nodes.set key (.table .header []))
    | some (.table .passed entries) => some (nodes.set key (.table .header entries))
    | _ => none
  | part :: rest, nodes => nodes.within part .passed (fun _ => true) (openTable rest)

/-- Adds an element to a list of tables. -/
def openElement : List String → Nodes → Option Nodes
  | [], _ => none
  | [key], nodes =>
    match nodes.lookup? key with
    | none => some (nodes.set key (.tables [[]]))
    | some (.tables elements) => some (nodes.set key (.tables ([] :: elements)))
    | _ => none
  | part :: rest, nodes => nodes.within part .passed (fun _ => true) (openElement rest)

end Nodes

mutual

/-- A finished node as a value. -/
def Node.close : Node → Value
  | .leaf value => value
  | .table _ entries => .dict (Node.closeEntries entries)
  | .tables elements => .array (Node.closeElements [] elements)

/-- Finished entries. -/
def Node.closeEntries : List (String × Node) → Entries
  | [] => []
  | (key, node) :: rest => (key, node.close) :: Node.closeEntries rest

/-- Finished elements, before others that are finished already. -/
def Node.closeElements (after : List Value) : List (List (String × Node)) → List Value
  | [] => after
  | entries :: before => Node.closeElements (.dict (Node.closeEntries entries) :: after) before

end

end FocusLayout.Data.Toml
