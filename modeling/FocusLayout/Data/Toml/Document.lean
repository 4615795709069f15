import FocusLayout.Data.Toml.Scalar
import FocusLayout.Data.Toml.Table
import FocusLayout.Text.Utf8

/-!
# TOML: documents

`Toml.read?` reads the bytes of a whole document as the entries of its top table, or refuses it.
-/

namespace FocusLayout.Data.Toml

mutual

/-- A value. `depth` counts the lists and tables that may still be opened. -/
def value : (fuel depth : Nat) → List Char → Piece Value
  | 0, _, _ => none
  | fuel + 1, depth, cs =>
    match cs with
    | '\x22' :: _ | '\'' :: _ => (text cs).map fun (s, rest) => (.string s, rest)
    | '[' :: rest => if depth = 0 then none else listItems fuel (depth - 1) [] rest
    | '\x7b' :: rest =>
      if depth = 0 then none
      else
        match skipBlanks rest with
        | '\x7d' :: rest => some (.dict [], rest)
        | rest => inlinePairs fuel (depth - 1) [] rest
    | 't' :: 'r' :: 'u' :: 'e' :: rest => some (.bool true, rest)
    | 'f' :: 'a' :: 'l' :: 's' :: 'e' :: rest => some (.bool false, rest)
    | _ => if isDateTimeStart cs then dateTime cs else number cs

/-- The items of a list up to its closing bracket; those read before come in reverse. -/
def listItems : (fuel depth : Nat) → List Value → List Char → Piece Value
  | 0, _, _, _ => none
  | fuel + 1, depth, found, cs =>
    match skipFiller cs with
    | ']' :: rest => some (.array found.reverse, rest)
    | cs =>
      match value fuel depth cs with
      | none => none
      | some (item, rest) =>
        match skipFiller rest with
        | ',' :: rest => listItems fuel depth (item :: found) rest
        | ']' :: rest => some (.array (item :: found).reverse, rest)
        | _ => none

/-- The pairs of a table on one line up to its closing brace, after those read before. -/
def inlinePairs : (fuel depth : Nat) → Nodes → List Char → Piece Value
  | 0, _, _, _ => none
  | fuel + 1, depth, nodes, cs =>
    match key cs with
    | some (name, '=' :: rest) =>
      match value fuel depth (skipBlanks rest) with
      | none => none
      | some (item, rest) =>
        match nodes.addPair (name.getLastD "") item name.dropLast with
        | none => none
        | some nodes =>
          match skipBlanks rest with
          | ',' :: rest => inlinePairs fuel depth nodes rest
          | '\x7d' :: rest => some (.dict (Node.closeEntries nodes), rest)
          | _ => none
    | _ => none

end

/-- A document in the course of reading: its tables, and the name of the one opened last. -/
structure Progress where
  nodes : Nodes
  opened : List String

/-- One line that is not blank, from its first character on, and what follows it. -/
def line (p : Progress) (cs : List Char) : Option (Progress × List Char) := do
  match cs with
  | '[' :: '[' :: rest =>
    match ← key rest with
    | (name, ']' :: ']' :: rest) => return (⟨← p.nodes.openElement name, name⟩, ← lineEnd? rest)
    | _ => none
  | '[' :: rest =>
    match ← key rest with
    | (name, ']' :: rest) => return (⟨← p.nodes.openTable name, name⟩, ← lineEnd? rest)
    | _ => none
  | cs =>
    match ← key cs with
    | (name, '=' :: rest) =>
      let (item, rest) ← value (2 * rest.length + 2) (depthLimit - 1) (skipBlanks rest)
      let nodes ← p.nodes.addUnder (name.getLastD "") item name.dropLast p.opened
      return ({ p with nodes := nodes }, ← lineEnd? rest)
    | _ => none

/-- All lines from here on. -/
def lines : (fuel : Nat) → Progress → List Char → Option Nodes
  | 0, _, _ => none
  | fuel + 1, p, cs =>
    match skipFiller cs with
    | [] => some p.nodes
    | cs => (line p cs).bind fun (p, rest) => lines fuel p rest

/-- The entries of a document, of which a mark of the byte order at the beginning is no part. -/
def read? (bytes : List UInt8) : Option Entries := do
  let cs ← Text.Utf8.decode? bytes
  let cs := match cs with
    | '\uFEFF' :: rest => rest
    | cs => cs
  return Node.closeEntries (← lines (cs.length + 1) ⟨[], []⟩ cs)

end FocusLayout.Data.Toml
