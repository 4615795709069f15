import FocusLayout.Pattern.Reader

/-!
# What a pattern matches

`Node` is a pattern with its switches applied: sets of characters, places, and their combinations. `Tree.meaning?`
gives the node of a written pattern. A change of switches holds to the end of the group it stands in, also across
the bars of an alternation; a group gives back the switches it was opened with.

A pattern without the Unicode switch is refused where it could match something that is not a character.
-/

namespace FocusLayout.Pattern

open Text (CodePoints)

/-! ## Nodes -/

/-- Which edge of a word a place must be. -/
inductive WordEdge where
  | either
  | neither
  | start
  | finish
  | startHalf
  | finishHalf
  deriving DecidableEq, Repr

/-- A condition on a position. -/
inductive Place where
  | textStart
  | textEnd
  | lineStart (crlf : Bool)
  | lineEnd (crlf : Bool)
  | word (edge : WordEdge) (unicode : Bool)
  deriving DecidableEq, Repr

/-- A pattern with its switches applied. -/
inductive Node where
  | empty
  | chars (set : CodePoints)
  | place (p : Place)
  | repetition (least : Nat) (most : Option Nat) (body : Node)
  | capture (body : Node)
  | alternation (branches : List Node)
  | concat (parts : List Node)
  deriving Repr

namespace Node

mutual

/-- Whether a node can match nothing but the empty text. -/
def isZeroWidth : Node → Bool
  | empty | place _ => true
  | chars _ => false
  | repetition _ _ body => body.isZeroWidth
  | capture body => body.isZeroWidth
  | alternation branches => allZeroWidth branches
  | concat parts => allZeroWidth parts

/-- Whether each of several nodes can match nothing but the empty text. -/
def allZeroWidth : List Node → Bool
  | [] => true
  | n :: ns => n.isZeroWidth && allZeroWidth ns

end

/-- A repetition in its simplest form: what has no width is not repeated, and repeating nothing or once is left out. -/
def repeated (least : Nat) (most : Option Nat) (body : Node) : Node :=
  let (least, most) := if body.isZeroWidth then (min least 1, some ((most.map (min · 1)).getD 1)) else (least, most)
  if least == 0 && most == some 0 then empty
  else if least == 1 && most == some 1 then body
  else repetition least most body

end Node

/-! ## Switches -/

/-- The switches in effect that bear on the meaning. -/
structure Switches where
  caseInsensitive : Bool
  multiLine : Bool
  dotMatchesNewline : Bool
  unicode : Bool
  crlf : Bool
  deriving DecidableEq, Repr

namespace Switches

/-- The switches a pattern begins with. -/
def initial : Switches := ⟨false, false, false, true, false⟩

/-- The switches after a change. -/
def apply (s : Switches) (change : FlagChange) : Switches where
  caseInsensitive := (change.value? .caseInsensitive).getD s.caseInsensitive
  multiLine := (change.value? .multiLine).getD s.multiLine
  dotMatchesNewline := (change.value? .dotMatchesNewline).getD s.dotMatchesNewline
  unicode := (change.value? .unicode).getD s.unicode
  crlf := (change.value? .crlf).getD s.crlf

end Switches

/-! ## Sets -/

/-- ASCII as a set. -/
def asciiOnly : CodePoints := .range 0 0x7F

/-- The set closed under case, if case does not count; without the Unicode switch only ASCII letters have case. -/
def Switches.fold (s : Switches) (set : CodePoints) : CodePoints :=
  if !s.caseInsensitive then set
  else if s.unicode then set.foldCase
  else set.union ((set.inter asciiOnly).foldCase.inter asciiOnly)

/-- A set closed under case and then negated; without the Unicode switch it must lie in ASCII. -/
def Switches.close? (s : Switches) (negated : Bool) (set : CodePoints) : Option CodePoints :=
  let set := s.fold set
  let set := if negated then set.complement else set
  if s.unicode || set.isAscii then some set else none

/-- A character written in brackets. -/
def Switches.member? (s : Switches) (l : Literal) : Option Nat :=
  if s.unicode || l.char.toNat ≤ 0x7F then some l.char.toNat else none

/-- The class of a one-letter escape. -/
def PerlClass.set (kind : PerlClass) (unicode : Bool) : CodePoints :=
  if unicode then
    match kind with
    | digit => Text.Property.decimalDigits
    | space => Text.Property.whiteSpace
    | word => Text.Property.wordCharacters
  else
    match kind with
    | digit => .ofList [(48, 57)]
    | space => .ofList [(9, 13), (32, 32)]
    | word => .ofList [(48, 57), (65, 90), (95, 95), (97, 122)]

/-- The class of a one-letter escape or its negation. -/
def Switches.perl? (s : Switches) (kind : PerlClass) (negated : Bool) : Option CodePoints :=
  { s with caseInsensitive := false }.close? negated (kind.set s.unicode)

/-- The set that a property query asks for. -/
def Query.set? : Query → Option CodePoints
  | named name => Text.Property.named? name
  | valued name value => Text.Property.valued? name value

/-- The characters with a property, or without it. -/
def Switches.property? (s : Switches) (query : Query) (negated : Bool) : Option CodePoints :=
  if s.unicode then query.set?.bind (s.close? negated) else none

/-- What an operation makes of two sets. -/
def SetOp.apply (op : SetOp) (left right : CodePoints) : CodePoints :=
  match op with
  | intersection => left.inter right
  | difference => left.diff right
  | symmetricDifference => left.symmDiff right

mutual

/-- The set that brackets describe, before the outermost brackets close it under case. -/
def ClassTree.meaning? (s : Switches) : ClassTree → Option CodePoints
  | literal l => (s.member? l).map fun n => .range n n
  | range lo hi => do return .range (← s.member? lo) (← s.member? hi)
  | ascii ranges negated => s.close? negated (.ofList ranges)
  | property query negated => s.property? query negated
  | perl kind negated => s.perl? kind negated
  | bracketed negated inner => do s.close? negated (← inner.meaning? s)
  | union items => ClassTree.unionMeaning? s items
  | binary op left right => do return op.apply (s.fold (← left.meaning? s)) (s.fold (← right.meaning? s))

/-- The union of what several items describe. -/
def ClassTree.unionMeaning? (s : Switches) : List ClassTree → Option CodePoints
  | [] => some .empty
  | item :: items => do return (← item.meaning? s).union (← ClassTree.unionMeaning? s items)

end

/-! ## Places -/

/-- The condition that an assertion puts on a position. -/
def Assertion.place (s : Switches) : Assertion → Place
  | lineStart => if s.multiLine then .lineStart s.crlf else .textStart
  | lineEnd => if s.multiLine then .lineEnd s.crlf else .textEnd
  | textStart => .textStart
  | textEnd => .textEnd
  | wordBoundary => .word .either s.unicode
  | notWordBoundary => .word .neither s.unicode
  | wordStart => .word .start s.unicode
  | wordEnd => .word .finish s.unicode
  | wordStartHalf => .word .startHalf s.unicode
  | wordEndHalf => .word .finishHalf s.unicode

/-! ## Patterns -/

/-- The characters that a literal matches; a byte beyond ASCII is no character. -/
def Literal.set? (s : Switches) (l : Literal) : Option CodePoints :=
  let one := CodePoints.range l.char.toNat l.char.toNat
  if s.unicode then some (s.fold one)
  else if l.char.toNat ≤ 0x7F then some (s.fold one)
  else if l.asByte then none
  else some one

/-- The characters that the dot matches. -/
def dotSet (s : Switches) : CodePoints :=
  if s.dotMatchesNewline then CodePoints.empty.complement
  else if s.crlf then (CodePoints.ofList [(10, 10), (13, 13)]).complement
  else (CodePoints.range 10 10).complement

mutual

/-- The node of a written pattern, and the switches in effect after it. -/
def Tree.meaningFrom? (s : Switches) : Tree → Option (Node × Switches)
  | empty => some (.empty, s)
  | flags change => some (.empty, s.apply change)
  | literal l => (l.set? s).map fun set => (.chars set, s)
  | dot => if s.unicode then some (.chars (dotSet s), s) else none
  | assertion a => some (.place (a.place s), s)
  | property query negated => (s.property? query negated).map fun set => (.chars set, s)
  | perl kind negated => (s.perl? kind negated).map fun set => (.chars set, s)
  | bracketed negated inner => do
    let set ← s.close? negated (← inner.meaning? s)
    return (.chars set, s)
  | repetition least most body => do
    let (node, s) ← body.meaningFrom? s
    return (.repeated least most node, s)
  | capture body => do
    let (node, _) ← body.meaningFrom? s
    return (.capture node, s)
  | group change body => do
    let (node, _) ← body.meaningFrom? (s.apply change)
    return (node, s)
  | alternation branches => do
    let (nodes, s) ← Tree.meaningsFrom? s branches
    return (.alternation nodes, s)
  | concat parts => do
    let (nodes, s) ← Tree.meaningsFrom? s parts
    return (.concat nodes, s)

/-- The nodes of several patterns, each under the switches that the one before left. -/
def Tree.meaningsFrom? (s : Switches) : List Tree → Option (List Node × Switches)
  | [] => some ([], s)
  | t :: ts => do
    let (node, s) ← t.meaningFrom? s
    let (nodes, s) ← Tree.meaningsFrom? s ts
    return (node :: nodes, s)

end

/-- The node of a written pattern, unless it is refused. -/
def Tree.meaning? (t : Tree) : Option Node :=
  (t.meaningFrom? .initial).map (·.1)

end FocusLayout.Pattern
