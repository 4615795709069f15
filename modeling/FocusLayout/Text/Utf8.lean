/-!
# Reading UTF-8

A byte at a time: `feed` takes the state of the reader (`Pending`, the sequence begun but not finished) and a byte,
and gives the characters found and the next state. A place that is not UTF-8 gives one mark (`none`) per maximal
ill-formed subpart.

- `decodeLossy` writes U+FFFD at each mark;
- `decode?` refuses the text if there is a mark.
-/

namespace FocusLayout.Text.Utf8

/-- A sequence that has begun: how many bytes are missing, the bounds of the next one, and the bits read. -/
structure Pending where
  missing : Nat
  low : UInt8
  high : UInt8
  bits : Nat
  deriving DecidableEq, Repr

/-- What the first byte of a longer sequence promises; the bounds keep out overlong forms, surrogates and what lies
above U+10FFFF. -/
def lead (b : UInt8) : Option Pending :=
  if 0xC2 ≤ b && b ≤ 0xDF then some ⟨1, 0x80, 0xBF, b.toNat - 0xC0⟩
  else if b == 0xE0 then some ⟨2, 0xA0, 0xBF, 0⟩
  else if b == 0xED then some ⟨2, 0x80, 0x9F, 0xD⟩
  else if 0xE1 ≤ b && b ≤ 0xEF then some ⟨2, 0x80, 0xBF, b.toNat - 0xE0⟩
  else if b == 0xF0 then some ⟨3, 0x90, 0xBF, 0⟩
  else if 0xF1 ≤ b && b ≤ 0xF3 then some ⟨3, 0x80, 0xBF, b.toNat - 0xF0⟩
  else if b == 0xF4 then some ⟨3, 0x80, 0x8F, 4⟩
  else none

/-- A byte where a character can begin. -/
def begin (b : UInt8) : List (Option Char) × Option Pending :=
  if b < 0x80 then ([some (Char.ofNat b.toNat)], none)
  else
    match lead b with
    | some p => ([], some p)
    | none => ([none], none)

/-- A byte after any state: it continues the sequence begun, or ends it as ill-formed and begins anew. -/
def feed (state : Option Pending) (b : UInt8) : List (Option Char) × Option Pending :=
  match state with
  | none => begin b
  | some p =>
    if p.low ≤ b && b ≤ p.high then
      let bits := p.bits * 64 + (b.toNat - 0x80)
      if p.missing ≤ 1 then ([some (Char.ofNat bits)], none)
      else ([], some ⟨p.missing - 1, 0x80, 0xBF, bits⟩)
    else
      let (found, next) := begin b
      (none :: found, next)

/-- The characters and marks of the rest of a text, from a state of the reader. -/
def marksFrom (state : Option Pending) : List UInt8 → List (Option Char)
  | [] => if state.isSome then [none] else []
  | b :: rest =>
    let (found, next) := feed state b
    found ++ marksFrom next rest

/-- The characters of a text, with a mark for each maximal ill-formed subpart. -/
def marks (bytes : List UInt8) : List (Option Char) :=
  marksFrom none bytes

/-- The text with U+FFFD at each ill-formed place. -/
def decodeLossy (bytes : List UInt8) : List Char :=
  (marks bytes).map (·.getD '\uFFFD')

/-- The text, if all of it is well-formed. -/
def decode? (bytes : List UInt8) : Option (List Char) :=
  (marks bytes).mapM id

/-- A string as bytes. -/
def encode (s : String) : List UInt8 :=
  s.toUTF8.toList

/-- The text of a C string: up to the first NUL, ill-formed places replaced. -/
def ofCString (bytes : List UInt8) : String :=
  String.ofList (decodeLossy (bytes.takeWhile (· != 0)))

end FocusLayout.Text.Utf8
