import FocusLayout.Pattern.Meaning

/-!
# Matching

Where a node that starts at given positions of a text can end (`Node.ends`). A set of positions is a number whose
bit `i` stands for position `i`, so that all ways through a pattern are followed at once.

- every path of more than `n` repetitions in a text of `n` characters repeats once in place, so counts beyond `n + 1`
  make no difference (`Node.times`, `Node.upTo`);
- a pattern matches a text if some way through it exists from some position (`Node.matchesIn`).
-/

namespace FocusLayout.Pattern

open Text (CodePoints)

/-- A set of positions in a text. -/
abbrev Positions := Nat

namespace Positions

/-- All positions of a text with so many characters. -/
def all (length : Nat) : Positions := 1 <<< (length + 1) - 1

/-- The positions of a set, up to the length of a text, that satisfy a condition. -/
def onlyIf (s : Positions) (length : Nat) (holds : Nat → Bool) : Positions :=
  (List.range (length + 1)).foldl (fun kept i => if s.testBit i && holds i then kept ||| 1 <<< i else kept) 0

end Positions

/-- Whether a character belongs to a word. -/
def isWordChar (unicode : Bool) (c : Char) : Bool :=
  if c.toNat ≤ 0x7F then c.isAlphanum || c == '_' else unicode && Text.Property.wordCharacters.has c

/-- Whether a position has the edge, by whether a word reaches it from before and goes on after it. -/
def WordEdge.holds (edge : WordEdge) (before after : Bool) : Bool :=
  match edge with
  | either => before != after
  | neither => before == after
  | start => !before && after
  | finish => before && !after
  | startHalf => !before
  | finishHalf => !after

/-- Whether a position satisfies a condition. -/
def Place.holds (p : Place) (text : Array Char) (i : Nat) : Bool :=
  let before := if i = 0 then none else text[i - 1]?
  let after := text[i]?
  match p with
  | textStart => i == 0
  | textEnd => i == text.size
  | lineStart false => i == 0 || before == some '\n'
  | lineEnd false => i == text.size || after == some '\n'
  | lineStart true => i == 0 || before == some '\n' || (before == some '\r' && after != some '\n')
  | lineEnd true => i == text.size || after == some '\r' || (after == some '\n' && before != some '\r')
  | word edge unicode => edge.holds (before.any (isWordChar unicode)) (after.any (isWordChar unicode))

namespace Node

/-- Repeats a step so many times; once nothing changes any more, nothing ever will. -/
def times (step : Positions → Positions) : Nat → Positions → Positions
  | 0, s => s
  | n + 1, s =>
    let next := step s
    if next == s then s else times step n next

/-- Repeats a step up to so many times and collects all positions on the way. -/
def upTo (step : Positions → Positions) : Nat → Positions → Positions
  | 0, s => s
  | n + 1, s =>
    let next := s ||| step s
    if next == s then s else upTo step n next

mutual

/-- The positions where a node can end that starts at one of the given positions. -/
def ends (text : Array Char) (starts : Positions) : Node → Positions
  | empty => starts
  | chars set => (Positions.onlyIf starts text.size fun i => text[i]?.any set.has) <<< 1
  | place p => Positions.onlyIf starts text.size (p.holds text)
  | repetition least most body =>
    let bound := text.size + 1
    let first := times (fun s => ends text s body) (min least bound) starts
    upTo (fun s => ends text s body) (min ((most.map (· - least)).getD bound) bound) first
  | capture body => ends text starts body
  | alternation branches => endsOfAny text starts branches
  | concat parts => endsOfAll text starts parts

/-- The positions where one of several nodes can end. -/
def endsOfAny (text : Array Char) (starts : Positions) : List Node → Positions
  | [] => 0
  | n :: ns => ends text starts n ||| endsOfAny text starts ns

/-- The positions where several nodes one after another can end. -/
def endsOfAll (text : Array Char) (starts : Positions) : List Node → Positions
  | [] => starts
  | n :: ns => endsOfAll text (ends text starts n) ns

end

/-- Whether the pattern matches somewhere in a text. -/
def matchesIn (node : Node) (text : String) : Bool :=
  let cs := text.toList.toArray
  node.ends cs (Positions.all cs.size) != 0

end Node

end FocusLayout.Pattern
