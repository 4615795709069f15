import FocusLayout.Data.Toml.Scalar
import FocusLayout.Text.Blank

/-!
# Values in variables

A variable holds a value in a brief notation: lists in brackets, dictionaries in braces with `=` between key and value,
texts with or without marks. `Brief.read` never fails, because what is not a value in this notation is a text as it
stands.
-/

namespace FocusLayout.Data.Brief

open Toml (Piece)

/-- A blank between the parts of a value. -/
def isBlank (c : Char) : Bool :=
  c == ' ' || c == '\t' || c == '\n' || c == '\r' || c == '\x0c'

/-- A character that does not end a text without marks. -/
def isOpen (c : Char) : Bool :=
  !(c == ',' || c == '\x7b' || c == '\x7d' || c == '[' || c == ']')

/-- The characters after the blanks. -/
def skipBlanks (cs : List Char) : List Char :=
  cs.dropWhile isBlank

/-! ## Numbers -/

/-- The digits of a number after an optional sign, and whether the sign is a minus. -/
def signedDigits? (cs : List Char) : Option (Bool × List Char) :=
  let (negative, digits) := Toml.sign cs
  if digits.isEmpty || !digits.all Char.isDigit then none else some (negative, digits)

/-- A whole number: without a minus one of 64 bits without a sign, else one of 64 bits with a sign. -/
def whole? (cs : List Char) : Option Value :=
  (signedDigits? cs).bind fun (negative, digits) =>
    let n := Toml.ofDigits 10 digits
    if negative then (if n ≤ Nat.pow 2 63 then some (.signed (-n)) else none)
    else if n < Nat.pow 2 64 then some (.unsigned n)
    else none

/-- A number with a point: digits on at least one side of it, and perhaps an exponent. -/
def float? (cs : List Char) : Option Value :=
  let (negative, rest) := Toml.sign cs
  let whole := rest.takeWhile Char.isDigit
  match rest.dropWhile Char.isDigit with
  | '.' :: rest =>
    let fraction := rest.takeWhile Char.isDigit
    let number (exponent : Int) : Option Value :=
      if whole.isEmpty && fraction.isEmpty then none
      else some (.float (.ofDecimal negative (Toml.ofDigits 10 (whole ++ fraction)) (exponent - fraction.length)))
    match rest.dropWhile Char.isDigit with
    | [] => number 0
    | e :: exponent =>
      if e == 'e' || e == 'E' then
        (signedDigits? exponent).bind fun (negative, digits) =>
          let n : Int := Toml.ofDigits 10 digits
          number (if negative then -n else n)
      else none
  | _ => none

/-- The value of a text without marks: a number if it reads as one. -/
def plain (cs : List Char) : Value :=
  let cs := Text.trim cs
  ((float? cs).or (whole? cs)).getD (.string (String.ofList cs))

/-! ## Texts -/

/-- The characters up to the closing mark, in which a backslash keeps a mark from closing, and what follows. -/
def upToMark : List Char → Piece (List Char)
  | [] => none
  | '\x22' :: rest => some ([], rest)
  | '\\' :: c :: rest => (upToMark rest).map fun (cs, rest) => ('\\' :: c :: cs, rest)
  | c :: rest => (upToMark rest).map fun (cs, rest) => (c :: cs, rest)

/-- A text with its escapes resolved. -/
def unescape (fuel : Nat) (cs : List Char) : Option (List Char) :=
  match fuel, cs with
  | _, [] => some []
  | 0, _ => none
  | fuel + 1, '\\' :: rest => (Toml.escape rest).bind fun (c, rest) => (unescape fuel rest).map (c :: ·)
  | fuel + 1, c :: rest => if Toml.isPlain c then (unescape fuel rest).map (c :: ·) else none

/-- A text in marks, after the opening one. Without a backslash it is taken as it stands. -/
def marked (cs : List Char) : Piece String :=
  (upToMark cs).bind fun (inner, rest) =>
    if inner.contains '\\' then (unescape inner.length inner).map fun cs => (String.ofList cs, rest)
    else some (String.ofList inner, rest)

/-- A key, with or without marks. -/
def key (cs : List Char) : Piece String :=
  match cs with
  | '\x22' :: rest => marked rest
  | _ =>
    match cs.takeWhile Toml.isBare with
    | [] => none
    | name => some (String.ofList name, cs.dropWhile Toml.isBare)

/-! ## Values -/

mutual

/-- A value with blanks around it. -/
def value : (fuel : Nat) → List Char → Piece Value
  | 0, _ => none
  | fuel + 1, cs =>
    let found : Piece Value := match skipBlanks cs with
      | 't' :: 'r' :: 'u' :: 'e' :: rest => some (.bool true, rest)
      | 'f' :: 'a' :: 'l' :: 's' :: 'e' :: rest => some (.bool false, rest)
      | '\x7b' :: rest => entries fuel [] rest
      | '[' :: rest => items fuel [] rest
      | '\x22' :: rest => (marked rest).map fun (s, rest) => (.string s, rest)
      | '\'' :: rest =>
        match rest with
        | c :: '\'' :: rest => some (.char c, rest)
        | _ => none
      | cs => some (plain (cs.takeWhile isOpen), cs.dropWhile isOpen)
    found.map fun (v, rest) => (v, skipBlanks rest)

/-- The items of a list up to its closing bracket; those read before come in reverse. -/
def items : (fuel : Nat) → List Value → List Char → Piece Value
  | 0, _, _ => none
  | fuel + 1, found, cs =>
    match cs with
    | ']' :: rest => some (.array found.reverse, rest)
    | cs =>
      match value fuel cs with
      | some (item, ',' :: rest) => items fuel (item :: found) rest
      | some (item, ']' :: rest) => some (.array (item :: found).reverse, rest)
      | _ => none

/-- The entries of a dictionary up to its closing brace, after those read before. -/
def entries : (fuel : Nat) → Entries → List Char → Piece Value
  | 0, _, _ => none
  | fuel + 1, found, cs =>
    match cs with
    | '\x7d' :: rest => some (.dict found, rest)
    | cs =>
      match key (skipBlanks cs) with
      | none => none
      | some (name, rest) =>
        match skipBlanks rest with
        | '=' :: rest =>
          match value fuel rest with
          | some (item, ',' :: rest) => entries fuel (found.set name item) rest
          | some (item, '\x7d' :: rest) => some (.dict (found.set name item), rest)
          | _ => none
        | _ => none

end

/-- The value of a text. -/
def read (s : String) : Value :=
  match value (2 * s.length + 2) s.toList with
  | some (v, []) => v
  | _ => .string s

end FocusLayout.Data.Brief
