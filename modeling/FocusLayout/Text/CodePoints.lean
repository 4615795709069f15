/-!
# Sets of code points

A set of code points as increasing ranges with gaps between them (`CodePoints`), with union, complement,
intersection, difference, and the two written forms that tables of character properties use: lengths of the
stretches outside and inside a set in turn (`ofLengths`), and a value with the length of its stretch (`runs`).
-/

namespace FocusLayout.Text

/-- A set of code points, as the first and last member of each of its ranges. -/
structure CodePoints where
  ranges : List (Nat × Nat)
  deriving DecidableEq, Repr

namespace CodePoints

/-- The greatest code point. -/
def last : Nat := 0x10FFFF

/-- The set without members. -/
def empty : CodePoints := ⟨[]⟩

/-- The set of one range. -/
def range (lo hi : Nat) : CodePoints := ⟨[(lo, hi)]⟩

/-- Joins ranges that overlap or touch; the list is sorted by first members. -/
def join : List (Nat × Nat) → List (Nat × Nat)
  | [] => []
  | (lo, hi) :: rest => go lo hi rest
where
  /-- Grows the range in hand while the next one touches it. -/
  go (lo hi : Nat) : List (Nat × Nat) → List (Nat × Nat)
    | [] => [(lo, hi)]
    | (lo', hi') :: rest => if lo' ≤ hi + 1 then go lo (max hi hi') rest else (lo, hi) :: go lo' hi' rest

/-- The set of all members of some ranges, in any order. -/
def ofList (ranges : List (Nat × Nat)) : CodePoints :=
  ⟨join (ranges.mergeSort fun a b => a.1 ≤ b.1)⟩

/-- Whether a code point belongs to the set. -/
def contains (s : CodePoints) (n : Nat) : Bool :=
  s.ranges.any fun r => r.1 ≤ n && n ≤ r.2

/-- Whether a character belongs to the set. -/
def has (s : CodePoints) (c : Char) : Bool :=
  s.contains c.toNat

/-- The members of either set. -/
def union (s t : CodePoints) : CodePoints :=
  ofList (s.ranges ++ t.ranges)

/-- The code points outside the set. -/
def complement (s : CodePoints) : CodePoints :=
  ⟨go 0 s.ranges⟩
where
  /-- The gaps from a code point on. -/
  go (next : Nat) : List (Nat × Nat) → List (Nat × Nat)
    | [] => if next ≤ last then [(next, last)] else []
    | (lo, hi) :: rest => if next < lo then (next, lo - 1) :: go (hi + 1) rest else go (hi + 1) rest

/-- The members of both sets. -/
def inter (s t : CodePoints) : CodePoints :=
  (s.complement.union t.complement).complement

/-- The members of the first set outside the second. -/
def diff (s t : CodePoints) : CodePoints :=
  s.inter t.complement

/-- The members of exactly one of the sets. -/
def symmDiff (s t : CodePoints) : CodePoints :=
  (s.diff t).union (t.diff s)

/-- Whether every member lies in ASCII. -/
def isAscii (s : CodePoints) : Bool :=
  s.ranges.all fun r => r.2 ≤ 0x7F

/-! ## Written forms -/

/-- The stretches of a text between spaces and line ends. -/
def words (text : String) : List String :=
  (text.splitToList fun c => c == ' ' || c == '\n').filter (!·.isEmpty)

/-- The decimal numbers among the words of a text. -/
def numbers (text : String) : List Nat :=
  (words text).filterMap (·.toNat?)

/-- The set whose stretches outside and inside, in turn from 0 on, have the given lengths. -/
def ofLengths (text : String) : CodePoints :=
  ⟨go 0 (numbers text)⟩
where
  /-- The ranges from a code point on. -/
  go (start : Nat) : List Nat → List (Nat × Nat)
    | outside :: inside :: rest =>
      (start + outside, start + outside + inside - 1) :: go (start + outside + inside) rest
    | _ => []

/-- A value and the stretch of code points that has it. -/
structure Run where
  value : String
  first : Nat
  last : Nat
  deriving DecidableEq, Repr

/-- The stretches from 0 on, each written as its value, a colon and its length. -/
def runs (text : String) : List Run :=
  go 0 (words text)
where
  /-- The stretches from a code point on. -/
  go (start : Nat) : List String → List Run
    | [] => []
    | entry :: rest =>
      match entry.splitOn ":" with
      | [value, length] =>
        match length.toNat? with
        | some n => ⟨value, start, start + n - 1⟩ :: go (start + n) rest
        | none => go start rest
      | _ => go start rest

/-- The code points whose value is accepted. -/
def ofRuns (table : List Run) (accepts : String → Bool) : CodePoints :=
  ⟨join ((table.filter fun r => accepts r.value).map fun r => (r.first, r.last))⟩

/-! ## Membership -/

@[simp] theorem contains_empty (n : Nat) : empty.contains n = false := rfl

theorem contains_range (lo hi n : Nat) : (range lo hi).contains n = (decide (lo ≤ n) && decide (n ≤ hi)) := by
  simp [range, contains]

end CodePoints

end FocusLayout.Text
