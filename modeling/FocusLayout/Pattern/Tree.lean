/-!
# The written form of a pattern

What a pattern says before its flags are applied: `Tree` for the whole, `ClassTree` for what stands in brackets.
`Tree.depth` counts how deep brackets, groups, repetitions, sequences and alternatives nest.
-/

namespace FocusLayout.Pattern

/-- A switch that a pattern can turn on and off. -/
inductive Flag where
  | caseInsensitive
  | multiLine
  | dotMatchesNewline
  | swapGreed
  | unicode
  | crlf
  | extended
  deriving DecidableEq, Repr

/-- Switches turned on or off, in the order written. -/
abbrev FlagChange := List (Flag × Bool)

/-- A place in the text rather than a character of it. -/
inductive Assertion where
  | lineStart
  | lineEnd
  | textStart
  | textEnd
  | wordBoundary
  | notWordBoundary
  | wordStart
  | wordEnd
  | wordStartHalf
  | wordEndHalf
  deriving DecidableEq, Repr

/-- A character; `asByte` when it was written with exactly two hexadecimal digits. -/
structure Literal where
  char : Char
  asByte : Bool
  deriving DecidableEq, Repr

/-- A class with a one-letter escape. -/
inductive PerlClass where
  | digit
  | space
  | word
  deriving DecidableEq, Repr

/-- How a character property is asked for. -/
inductive Query where
  | named (name : String)
  | valued (name value : String)
  deriving DecidableEq, Repr

/-- An operation on two bracketed sets. -/
inductive SetOp where
  | intersection
  | difference
  | symmetricDifference
  deriving DecidableEq, Repr

/-- What stands in brackets. The items of a union come in order; a union of none is the empty set. -/
inductive ClassTree where
  | literal (l : Literal)
  | range (lo hi : Literal)
  | ascii (ranges : List (Nat × Nat)) (negated : Bool)
  | property (query : Query) (negated : Bool)
  | perl (kind : PerlClass) (negated : Bool)
  | bracketed (negated : Bool) (inner : ClassTree)
  | union (items : List ClassTree)
  | binary (op : SetOp) (left right : ClassTree)
  deriving Repr

/-- A pattern as written. -/
inductive Tree where
  | empty
  | flags (change : FlagChange)
  | literal (l : Literal)
  | dot
  | assertion (a : Assertion)
  | property (query : Query) (negated : Bool)
  | perl (kind : PerlClass) (negated : Bool)
  | bracketed (negated : Bool) (inner : ClassTree)
  | repetition (least : Nat) (most : Option Nat) (body : Tree)
  | capture (body : Tree)
  | group (change : FlagChange) (body : Tree)
  | alternation (branches : List Tree)
  | concat (parts : List Tree)
  deriving Repr

/-- One item as it is, none or several as a union. -/
def ClassTree.ofItems : List ClassTree → ClassTree
  | [item] => item
  | items => union items

/-- One part as it is, none as the empty pattern, several as a sequence. -/
def Tree.ofParts : List Tree → Tree
  | [] => empty
  | [part] => part
  | parts => concat parts

mutual

/-- How deep the sets nest. -/
def ClassTree.depth : ClassTree → Nat
  | literal _ | range _ _ | ascii _ _ | property _ _ | perl _ _ => 0
  | bracketed _ inner => inner.depth + 1
  | union [] => 0
  | union (item :: items) => max item.depth (ClassTree.depthList items) + 1
  | binary _ left right => max left.depth right.depth + 1

/-- The depth of the deepest of several sets. -/
def ClassTree.depthList : List ClassTree → Nat
  | [] => 0
  | item :: items => max item.depth (ClassTree.depthList items)

end

mutual

/-- How deep the parts of a pattern nest. -/
def Tree.depth : Tree → Nat
  | empty | flags _ | literal _ | dot | assertion _ | property _ _ | perl _ _ => 0
  | bracketed _ inner => inner.depth + 1
  | repetition _ _ body => body.depth + 1
  | capture body => body.depth + 1
  | group _ body => body.depth + 1
  | alternation branches => Tree.depthList branches + 1
  | concat parts => Tree.depthList parts + 1

/-- The depth of the deepest of several patterns. -/
def Tree.depthList : List Tree → Nat
  | [] => 0
  | t :: ts => max t.depth (Tree.depthList ts)

end

/-- The value a change of switches gives one of them, if any: the first mention counts. -/
def FlagChange.value? (change : FlagChange) (flag : Flag) : Option Bool :=
  (change.find? (·.1 == flag)).map (·.2)

end FocusLayout.Pattern
