/-!
# Blank characters

The characters of the Unicode property `White_Space`, which is what "blank" means for layout names, patterns and
log filters (`isBlank`), and trimming them off a text (`trim`).

- every character that core counts as white space is blank (`isBlank_of_isWhitespace`);
- a string is blank just if all of its characters are (`isBlankString_iff`, `isBlankString_eq_false_iff`).
-/

namespace FocusLayout.Text

/-- The Unicode property `White_Space`. -/
def isBlank (c : Char) : Bool :=
  let n := c.toNat
  (9 ≤ n && n ≤ 13) || n == 0x20 || n == 0x85 || n == 0xA0 || n == 0x1680 || (0x2000 ≤ n && n ≤ 0x200A) ||
    n == 0x2028 || n == 0x2029 || n == 0x202F || n == 0x205F || n == 0x3000

/-- What core counts as white space is blank. -/
theorem isBlank_of_isWhitespace {c : Char} (h : c.isWhitespace = true) : isBlank c = true := by
  simp only [Char.isWhitespace, Bool.or_eq_true, decide_eq_true_eq] at h
  rcases h with ((h | h) | h) | h <;> subst h <;> decide

/-- The text without the blanks at its end. -/
def dropBlankEnd (cs : List Char) : List Char :=
  (cs.reverse.dropWhile isBlank).reverse

/-- The text without the blanks at its two ends. -/
def trim (cs : List Char) : List Char :=
  dropBlankEnd (cs.dropWhile isBlank)

/-- A string without the blanks at its two ends. -/
def trimString (s : String) : String :=
  String.ofList (trim s.toList)

/-- A string of blanks only, or of nothing. -/
def isBlankString (s : String) : Bool :=
  s.toList.all isBlank

theorem isBlankString_iff {s : String} : isBlankString s = true ↔ ∀ c ∈ s.toList, isBlank c = true :=
  List.all_eq_true

theorem isBlankString_eq_false_iff {s : String} : isBlankString s = false ↔ ∃ c ∈ s.toList, isBlank c = false := by
  simp [isBlankString]

end FocusLayout.Text
