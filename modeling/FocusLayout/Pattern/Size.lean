import FocusLayout.Pattern.Meaning

/-!
# The size of a pattern

A pattern is refused when the state machine for it would be too large. The machine reads bytes of UTF-8, and there
is one for each direction of reading; `Node.size` gives the size of either, and `Node.isTooLarge` compares both with
the limit.

A set of characters beyond ASCII is cut into boxes, ranges of bytes one after another (`boxes`). Forwards, boxes that
go on in the same way share states; backwards, boxes that end in the same way do.
-/

namespace FocusLayout.Pattern

open Text (CodePoints)

/-! ## Sets as bytes -/

/-- A range of values for each byte of a character. -/
abbrev Box := List (Nat × Nat)

/-- The boxes of the values from `lo` to `hi` that are written in so many trailing bytes and a first byte counted from
`mark`; `mark` is the first byte of value zero. -/
def boxesOf (mark : Nat) : Nat → Nat → Nat → List Box
  | 0, lo, hi => [[(mark + lo, mark + hi)]]
  | n + 1, lo, hi =>
    let unit := Nat.pow 64 (n + 1)
    let first := lo / unit
    let last := hi / unit
    let under (lead : Nat) (tails : List Box) : List Box := tails.map ((mark + lead, mark + lead) :: ·)
    if first == last then under first (boxesOf 0x80 n (lo % unit) (hi % unit))
    else
      let cutLow := lo % unit != 0
      let cutHigh := hi % unit != unit - 1
      let whole := if cutLow then first + 1 else first
      let wholeEnd := if cutHigh then last else last + 1
      (if cutLow then under first (boxesOf 0x80 n (lo % unit) (unit - 1)) else []) ++
        (if whole < wholeEnd then [(mark + whole, mark + wholeEnd - 1) :: List.replicate (n + 1) (0x80, 0xBF)]
          else []) ++
        (if cutHigh then under last (boxesOf 0x80 n 0 (hi % unit)) else [])

/-- The code points that take each number of bytes, with the first byte that stands for zero; surrogates are left out. -/
def byteLengths : List (Nat × Nat × Nat × Nat) :=
  [(0, 0, 0, 0x7F), (1, 0xC0, 0x80, 0x7FF), (2, 0xE0, 0x800, 0xD7FF), (2, 0xE0, 0xE000, 0xFFFF),
    (3, 0xF0, 0x10000, 0x10FFFF)]

/-- The boxes of a set, in order. -/
def boxes (set : CodePoints) : List Box :=
  set.ranges.flatMap fun (lo, hi) =>
    byteLengths.flatMap fun (trailing, mark, first, last) =>
      if max lo first ≤ min hi last then boxesOf mark trailing (max lo first) (min hi last) else []

/-- Keeps the first of each run of equal elements. -/
def dropRepeats {α : Type} [BEq α] : List α → List α
  | a :: b :: rest => if a == b then dropRepeats (b :: rest) else a :: dropRepeats (b :: rest)
  | l => l

/-- What follows each first range of some boxes in order. -/
def branches (all : List Box) : List (List Box) :=
  (dropRepeats (all.filterMap List.head?)).map fun range =>
    all.filterMap fun box => if box.head? == some range then some box.tail else none

/-- The distinct ways to go on after so many bytes, among ways to go on before them; the end of a character is not
counted. -/
def waysOn : Nat → List (List Box) → List (List Box)
  | 0, ways => ways
  | n + 1, ways => ways ++ waysOn n ((ways.flatMap branches).eraseDups.filter (· != [[]]))

/-! ## Sizes -/

/-- The size of one state. -/
def stateSize : Nat := 32

/-- The size of a labelled way from a state to another. -/
def transitionSize : Nat := 8

/-- The size of one of several unlabelled ways from a state. -/
def alternateSize : Nat := 4

/-- Whether a set has one range of one member. -/
def isSingle (set : CodePoints) : Bool :=
  match set.ranges with
  | [(lo, hi)] => lo == hi
  | _ => false

/-- The sum of some numbers. -/
def total (numbers : List Nat) : Nat :=
  numbers.foldl Nat.add 0

/-- The size of a set of characters. -/
def setSize (backward : Bool) (set : CodePoints) : Nat :=
  if set.isAscii then
    if isSingle set then stateSize else 2 * stateSize + transitionSize * set.ranges.length
  else
    let all := boxes set
    if isSingle set then stateSize * total (all.map List.length)
    else if backward then reverse all
    else forward all
where
  /-- The size when boxes that go on alike share states. -/
  forward (all : List Box) : Nat :=
    let ways := (waysOn 3 [all]).eraseDups
    stateSize + total (ways.map fun way => stateSize + transitionSize * (branches way).length)
  /-- The size when boxes that begin alike share states. -/
  reverse (all : List Box) : Nat :=
    2 * stateSize + alternateSize * all.length + stateSize * total ((all.zip ([] :: all)).map ownLength)
  /-- How many of a box's ranges the box before it does not begin with. -/
  ownLength : Box × Box → Nat
    | (range :: box, range' :: before) =>
      if range == range' then ownLength (box, before) else box.length + 1
    | (box, _) => box.length

namespace Node

mutual

/-- Whether a node can match the empty text. -/
def isNullable : Node → Bool
  | empty | place _ => true
  | chars _ => false
  | repetition least _ body => least == 0 || body.isNullable
  | capture body => body.isNullable
  | alternation branches => anyNullable branches
  | concat parts => allNullable parts

/-- Whether one of several nodes can match the empty text. -/
def anyNullable : List Node → Bool
  | [] => false
  | n :: ns => n.isNullable || anyNullable ns

/-- Whether each of several nodes can match the empty text. -/
def allNullable : List Node → Bool
  | [] => true
  | n :: ns => n.isNullable && allNullable ns

end

/-- The size of a number of copies. -/
def copiesSize (body : Nat) : Nat → Nat
  | 0 => stateSize
  | n => n * body

mutual

/-- The size of the machine for a node, read forwards or backwards. -/
def size (backward : Bool) : Node → Nat
  | empty | place _ => stateSize
  | chars set => setSize backward set
  | capture body => body.size backward + if backward then 0 else 2 * stateSize
  | repetition least most body =>
    let s := body.size backward
    let fork := stateSize + 2 * alternateSize
    match least, most with
    | 0, some 1 => s + fork + stateSize
    | 0, none => if body.isNullable then s + 2 * fork + stateSize else s + fork
    | n, none => n * s + fork
    | n, some m => if n == m then copiesSize s n else copiesSize s n + stateSize + (m - n) * (fork + s)
  | alternation branches =>
    2 * stateSize + alternateSize * branches.length + sizes backward branches
  | concat parts => sizes backward parts

/-- The sizes of several nodes together. -/
def sizes (backward : Bool) : List Node → Nat
  | [] => 0
  | n :: ns => n.size backward + sizes backward ns

end

/-- The greatest size of a machine. -/
def sizeLimit : Nat := 10 * 1024 * 1024

/-- Whether one of the two machines would be too large. -/
def isTooLarge (node : Node) : Bool :=
  sizeLimit < node.size false || sizeLimit < node.size true

end Node

end FocusLayout.Pattern
