import FocusLayout.Text.Property

/-!
# Quoted text

How a text is shown between quotation marks: `Style` says which mark stands around it and which marks are escaped
inside. Escaped besides are the backslash, the line controls and whatever would not show as a character of its own.
-/

namespace FocusLayout.Text.Quoted

/-- The mark around a text and the marks that take a backslash inside it. -/
structure Style where
  mark : Char
  escapes : List Char

/-- A text between double marks. -/
def Style.string : Style := ⟨'\x22', ['\x22']⟩

/-- One character between single marks. -/
def Style.character : Style := ⟨'\x27', ['\x27']⟩

/-- A file name between double marks, where both marks are escaped. -/
def Style.fileName : Style := ⟨'\x22', ['\x22', '\x27']⟩

/-- The lower case hexadecimal digits of a number. -/
def hex (n : Nat) : List Char :=
  Nat.toDigits 16 n

/-- One character inside the marks. -/
def escape (style : Style) (c : Char) : List Char :=
  if c == '\x00' then ['\\', '0']
  else if c == '\t' then ['\\', 't']
  else if c == '\n' then ['\\', 'n']
  else if c == '\r' then ['\\', 'r']
  else if c == '\\' || style.escapes.contains c then ['\\', c]
  else if 0x20 ≤ c.toNat && c.toNat < 0x7F then [c]
  else if Property.graphemeExtend.has c || Property.unprintable.has c then
    ['\\', 'u', '\x7b'] ++ hex c.toNat ++ ['\x7d']
  else [c]

/-- A text in quotation marks. -/
def quote (style : Style) (s : String) : String :=
  String.ofList ([style.mark] ++ s.toList.flatMap (escape style) ++ [style.mark])

/-- A list of texts in quotation marks, in brackets. -/
def quoteList (style : Style) (items : List String) : String :=
  "[" ++ ", ".intercalate (items.map (quote style)) ++ "]"

end FocusLayout.Text.Quoted
