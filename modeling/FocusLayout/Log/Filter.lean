import FocusLayout.Log
import FocusLayout.Text.Blank
import FocusLayout.Text.Fields
import FocusLayout.Text.Property
import FocusLayout.Text.Utf8

/-!
# Log filters

A filter is a list of directives with commas between them. A directive names what it is about, which may be the
beginning of a path, a span in brackets and in it a field in braces, and after `=` the detail that it lets through:
`xswitch::xorg=debug`, `[span{field=value}]=2`, or only `warn`.

- `Filter.read` reads a filter; `Filter.Fault` is what can be wrong with one;
- `Filter.keeps` tells whether a line passes: the most specific directive about the line decides
  (`Filter.deciding?`), and without one the line is dropped.

The program opens no spans and its lines have one field, so a directive about a span or a field's value is read but
is never about a line.
-/

namespace FocusLayout.Log

/-- A field that a directive is about, and the value that it asks for, if it does. -/
structure Demand where
  field : String
  value : Option String
  deriving DecidableEq, Repr

/-- What a directive is about, and the greatest detail that it lets through. -/
structure Directive where
  /-- How the path of a line begins. -/
  target : Option String
  /-- The span that a line is in. -/
  span : Option String
  /-- The field that a line has. -/
  demand : Option Demand
  detail : Nat
  deriving DecidableEq, Repr

/-- Directives in the order in which they were given. -/
abbrev Filter := List Directive

namespace Filter

/-- What is wrong with a filter. -/
inductive Fault where
  /-- A directive that cannot be read. -/
  | badDirective
  /-- A directive that does not end in a level. -/
  | badLevel
  deriving DecidableEq, Repr

/-- The text shown for a fault. -/
def Fault.message : Fault → String
  | badDirective => "invalid filter directive"
  | badLevel =>
    "error parsing level filter: expected one of \x22off\x22, \x22error\x22, \x22warn\x22, \x22info\x22, " ++
      "\x22debug\x22, \x22trace\x22, or a number 0-5"

/-! ## Levels -/

/-- The detail that a number stands for; a plus sign and zeros before it are allowed. -/
def numbered? (text : List Char) : Option Nat :=
  let digits := match text with
    | '+' :: rest => rest
    | cs => cs
  if digits.isEmpty || !digits.all Char.isDigit then none
  else
    match digits.dropWhile (· == '0') with
    | [] => some 0
    | [c] => if c.toNat - 48 ≤ Level.trace.detail then some (c.toNat - 48) else none
    | _ => none

/-- The detail that a name stands for in any letter case. -/
def named? (text : List Char) : Option Nat :=
  match String.ofList (text.map Char.toLower) with
  | "off" => some 0
  | "error" => some Level.error.detail
  | "warn" => some Level.warn.detail
  | "info" => some Level.info.detail
  | "debug" => some Level.debug.detail
  | "trace" => some Level.trace.detail
  | _ => none

/-- The detail that a level stands for. -/
def level? (text : String) : Option Nat :=
  (numbered? text.toList).or (named? text.toList)

/-- The level after the equals sign of a directive; nothing there is everything. -/
def levelAfter (text : String) : Except Fault Nat :=
  if text.isEmpty then .ok Level.trace.detail
  else
    match level? text with
    | some detail => .ok detail
    | none => .error .badLevel

/-! ## Directives -/

/-- A directive as it is given and without the blanks around it. The marks of a directive are looked for in the
trimmed text, but its parts are cut out of the given one at the same places, so blanks before a directive displace
its parts. -/
structure Source where
  given : List UInt8
  trimmed : List UInt8

namespace Source

/-- The source of a directive. -/
def ofString (s : String) : Source :=
  ⟨Text.Utf8.encode s, Text.Utf8.encode (Text.trimString s)⟩

/-- The part of a directive between two places. -/
def part (s : Source) (start stop : Nat) : String :=
  String.ofList (Text.Utf8.decodeLossy ((s.given.drop start).take (stop - start)))

/-- The part of a directive from a place on. -/
def rest (s : Source) (start : Nat) : String :=
  s.part start s.given.length

/-- The first mark of some kinds from a place on, and where it is. -/
def mark? (s : Source) (kinds : List UInt8) (start : Nat) : Option (UInt8 × Nat) :=
  ((s.trimmed.drop start).findIdx? kinds.contains).bind fun i =>
    (s.trimmed[start + i]?).map (·, start + i)

end Source

/-- An opening bracket. -/
def openBracket : UInt8 := 0x5B

/-- A closing bracket. -/
def closeBracket : UInt8 := 0x5D

/-- An opening brace. -/
def openBrace : UInt8 := 0x7B

/-- A closing brace. -/
def closeBrace : UInt8 := 0x7D

/-- An equals sign. -/
def equalsSign : UInt8 := 0x3D

/-- Whether a character can begin the path in a directive. -/
def beginsPath (c : Char) : Bool :=
  c == '-' || c == ':' || c == '_' || Text.Property.alphanumeric.has c

/-- A field, and its value if an equals sign follows. -/
def demandOf (text : String) : Demand :=
  let parts := (Text.fields (· == '=') text.toList).map String.ofList
  ⟨parts.headD "", parts[1]?⟩

/-- The detail of a directive whose path and span end at a place. -/
def ending (s : Source) (start : Nat) : Except Fault Nat :=
  match s.trimmed[start]? with
  | none => .ok Level.trace.detail
  | some b => if b == equalsSign then levelAfter (s.rest (start + 1)) else .error .badDirective

/-- A directive with a span, whose bracket is opened before a place. -/
def spanFrom (s : Source) (target : Option String) (start : Nat) : Except Fault Directive :=
  match s.mark? [closeBracket, openBrace] start with
  | none => .error .badDirective
  | some (mark, i) =>
    let span := s.part start i
    if mark == closeBracket then
      (ending s (i + 1)).map fun detail => ⟨target, some span, none, detail⟩
    else
      match s.mark? [closeBrace] (i + 1) with
      | none => .error .badDirective
      | some (_, j) =>
        let field := s.part (i + 1) j
        if field.isEmpty || s.trimmed[j + 1]? != some closeBracket then .error .badDirective
        else
          (ending s (j + 2)).map fun detail =>
            ⟨target, if span.isEmpty then none else some span, some (demandOf field), detail⟩

/-- A directive that begins with a path or is only a level. -/
def pathFrom (s : Source) : Except Fault Directive :=
  match s.mark? [equalsSign, openBracket] 0 with
  | none =>
    let whole := s.rest 0
    match level? whole with
    | some detail => .ok ⟨none, none, none, detail⟩
    | none => .ok ⟨some whole, none, none, Level.trace.detail⟩
  | some (mark, i) =>
    let target := s.part 0 i
    if mark == equalsSign then
      (levelAfter (s.rest (i + 1))).map fun detail => ⟨some target, none, none, detail⟩
    else spanFrom s (some target) (i + 1)

/-- Reads a directive. -/
def readDirective (text : String) : Except Fault Directive :=
  match Text.trim text.toList with
  | [] => .error .badDirective
  | '[' :: _ => spanFrom (.ofString text) none 1
  | c :: _ => if beginsPath c then pathFrom (.ofString text) else .error .badDirective

/-- Reads a filter. Nothing between commas is no directive, and no directives at all stand for errors only. -/
def read (text : String) : Except Fault Filter := do
  let pieces := (Text.fields (· == ',') text.toList).filter fun piece => !piece.isEmpty
  let directives ← pieces.mapM fun piece => readDirective (String.ofList piece)
  return if directives.isEmpty then [⟨none, none, none, Level.error.detail⟩] else directives

/-! ## What passes -/

/-- The field that every line has. -/
def textField : String := "message"

/-- Whether a directive is about the lines of a path. -/
def isAbout (d : Directive) (path : String) : Bool :=
  d.span.isNone && (d.target.all fun target => target.isPrefixOf path) &&
    d.demand.all fun demand => demand.value.isNone && demand.field == textField

/-- How specific a directive is: by the length of its path first, then by whether it is about a field. -/
def specificity (d : Directive) : Nat :=
  2 * (d.target.map fun target => target.length + 1).getD 0 + d.demand.isSome.toNat

/-- The more specific one of two directives, the later one if they are equally so. -/
def moreSpecific (earlier : Option Directive) (later : Directive) : Option Directive :=
  match earlier with
  | none => some later
  | some d => if specificity d ≤ specificity later then some later else some d

/-- The directive that decides about the lines of a path. -/
def deciding? (f : Filter) (path : String) : Option Directive :=
  (f.filter fun d => isAbout d path).foldl moreSpecific none

/-- Whether a line passes. -/
def keeps (f : Filter) (e : Entry) : Bool :=
  (f.deciding? e.origin.path).any fun d => e.level.detail ≤ d.detail

end Filter

end FocusLayout.Log
