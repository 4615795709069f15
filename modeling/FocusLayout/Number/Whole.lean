/-!
# Whole numbers of 64 bits

`Whole.read` takes decimal digits after an optional sign, from left to right, and stops at the first character that is
no digit or takes the number out of its bounds. `Whole.Fault` is why it stopped.
-/

namespace FocusLayout.Whole

/-- Why a text is not a whole number of 64 bits. -/
inductive Fault where
  | empty
  | badDigit
  | tooLarge
  | tooSmall
  deriving DecidableEq, Repr

/-- The text shown for a fault. -/
def Fault.message : Fault → String
  | empty => "cannot parse integer from empty string"
  | badDigit => "invalid digit found in string"
  | tooLarge => "number too large to fit in target type"
  | tooSmall => "number too small to fit in target type"

/-- The number that digits make after those read before, up to a bound; beyond it is the fault `beyond`. -/
def readDigits (bound : Nat) (beyond : Fault) (n : Nat) : List Char → Except Fault Nat
  | [] => .ok n
  | c :: rest =>
    if c.isDigit then
      let next := n * 10 + (c.toNat - 48)
      if bound < next then .error beyond else readDigits bound beyond next rest
    else .error .badDigit

/-- The number that a text is, between `-2 ^ 63` and `2 ^ 63 - 1`. A sign alone is not a number. -/
def read (text : String) : Except Fault Int :=
  match text.toList with
  | [] => .error .empty
  | [c] => (readDigits 9 .tooLarge 0 [c]).map Int.ofNat
  | '-' :: digits => (readDigits (Nat.pow 2 63) .tooSmall 0 digits).map fun n => -(n : Int)
  | '+' :: digits => (readDigits (Nat.pow 2 63 - 1) .tooLarge 0 digits).map Int.ofNat
  | digits => (readDigits (Nat.pow 2 63 - 1) .tooLarge 0 digits).map Int.ofNat

/-- Digits that are read stay within the bound. -/
theorem readDigits_le {bound n m : Nat} {beyond : Fault} {cs : List Char} (h : n ≤ bound)
    (hm : readDigits bound beyond n cs = .ok m) : m ≤ bound := by
  induction cs generalizing n with
  | nil =>
    simp only [readDigits, Except.ok.injEq] at hm
    omega
  | cons c rest ih =>
    simp only [readDigits] at hm
    split at hm
    · split at hm
      · simp at hm
      · exact ih (by omega) hm
    · simp at hm

end FocusLayout.Whole
