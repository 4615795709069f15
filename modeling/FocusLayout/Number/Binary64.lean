/-!
# Binary floating point numbers

`Binary64` is a number of 64 bits: `m · 2 ^ q` with 53 bits for `m`, an infinity, or no number.

- `Binary64.ofDecimal`: the number nearest to a decimal, a tie going to the even neighbour;
- `Binary64.text`: the fewest digits that read back as the number, written without an exponent.
-/

namespace FocusLayout

/-- A floating point number of 64 bits. -/
inductive Binary64 where
  | finite (negative : Bool) (m : Nat) (q : Int)
  | infinity (negative : Bool)
  | nan
  deriving DecidableEq, Repr

namespace Binary64

/-! ## From a decimal -/

/-- The least exponent of two. -/
def leastExponent : Int := -1074

/-- The greatest exponent of two. -/
def greatestExponent : Int := 971

/-- The number of bits of a significand. -/
def precision : Nat := 53

/-- The quotient of two numbers, rounded to the nearest one, a tie to the even one. -/
def divideToEven (num den : Nat) : Nat :=
  let low := num / den
  let twice := 2 * (num % den)
  if twice < den then low else if den < twice then low + 1 else low + low % 2

/-- The size of a quotient of positive numbers: the least power of two above it, give or take one. -/
def binarySize (num den : Nat) : Int :=
  (num.log2 : Int) - (den.log2 : Int)

/-- The number nearest to a quotient, on the grid of an exponent. -/
def onGrid (num den : Nat) (q : Int) : Nat :=
  if 0 ≤ q then divideToEven num (den * Nat.pow 2 q.toNat) else divideToEven (num * Nat.pow 2 (-q).toNat) den

/-- The number nearest to a quotient of natural numbers. -/
def ofQuotient (negative : Bool) (num den : Nat) : Binary64 :=
  if num = 0 then finite negative 0 leastExponent
  else
    let q := max leastExponent (binarySize num den - precision)
    let fits (q : Int) : Bool := onGrid num den q ≤ Nat.pow 2 precision
    let q := if fits q then q else if fits (q + 1) then q + 1 else q + 2
    let m := onGrid num den q
    let (m, q) := if m = Nat.pow 2 precision then (Nat.pow 2 (precision - 1), q + 1) else (m, q)
    if greatestExponent < q then infinity negative else finite negative m q

/-- How far from the point a decimal can begin and still be neither zero nor infinite. -/
def farthestDigit : Int := 400

/-- The number nearest to `digits · 10 ^ exponent`. -/
def ofDecimal (negative : Bool) (digits : Nat) (exponent : Int) : Binary64 :=
  let size := ((Nat.toDigits 10 digits).length : Int) + exponent
  if digits = 0 || size < -farthestDigit then finite negative 0 leastExponent
  else if farthestDigit < size then infinity negative
  else if 0 ≤ exponent then ofQuotient negative (digits * Nat.pow 10 exponent.toNat) 1
  else ofQuotient negative digits (Nat.pow 10 (-exponent).toNat)

/-! ## To a decimal -/

/-- The value of a finite number without its sign, as a quotient. -/
def quotient (m : Nat) (q : Int) : Nat × Nat :=
  if 0 ≤ q then (m * Nat.pow 2 q.toNat, 1) else (m, Nat.pow 2 (-q).toNat)

/-- The number of digits before the point of a positive quotient; negative for zeros after the point. -/
def decimalSize (num den : Nat) : Int :=
  if den ≤ num then (Nat.toDigits 10 (num / den)).length else go 400 num 0
where
  /-- Counts zeros after the point. -/
  go : Nat → Nat → Int → Int
    | 0, _, size => size
    | n + 1, num, size => if den ≤ num * 10 then size else go n (num * 10) (size - 1)

/-- The decimals next to a quotient on the grid of a decimal exponent, the nearer one first; of a tie the greater. -/
def neighbours (num den : Nat) (exponent : Int) : List Nat :=
  let (num, den) := if 0 ≤ exponent then (num, den * Nat.pow 10 exponent.toNat)
    else (num * Nat.pow 10 (-exponent).toNat, den)
  let low := num / den
  if den ≤ 2 * (num % den) then [low + 1, low] else [low, low + 1]

/-- The shortest decimal that reads back as a positive number: its digits and its exponent. -/
def shortest (m : Nat) (q : Int) : Nat × Int :=
  let (num, den) := quotient m q
  let size := decimalSize num den
  let attempt (count : Nat) : Option (Nat × Int) :=
    let exponent := size - count
    ((neighbours num den exponent).find? fun d => ofDecimal false d exponent == finite false m q).map (·, exponent)
  ((List.range 17).findSome? fun i => attempt (i + 1)).getD (0, 0)

/-- Digits with a point among them or zeros beside them, as the exponent asks. -/
def positional (digits : Nat) (exponent : Int) : String :=
  let all := Nat.toDigits 10 digits
  let kept := (all.reverse.dropWhile (· == '0')).reverse
  let point := (all.length : Int) + exponent
  if kept.isEmpty then "0"
  else if point ≤ 0 then "0." ++ String.ofList (List.replicate (-point).toNat '0' ++ kept)
  else if (kept.length : Int) ≤ point then
    String.ofList (kept ++ List.replicate (point.toNat - kept.length) '0')
  else String.ofList (kept.take point.toNat ++ ['.'] ++ kept.drop point.toNat)

/-- The text of a number. -/
def text : Binary64 → String
  | finite negative m q =>
    let (digits, exponent) := if m = 0 then (0, 0) else shortest m q
    (if negative then "-" else "") ++ positional digits exponent
  | infinity negative => if negative then "-inf" else "inf"
  | nan => "NaN"

end Binary64

end FocusLayout
