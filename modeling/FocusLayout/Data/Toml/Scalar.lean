import FocusLayout.Data.Value

/-!
# TOML: names, texts, numbers and times

The parts of a TOML document that hold no other parts. Each reader takes the characters from some place on and gives
what it has read with the characters after it (`Piece`), or nothing if there is no such thing there.
-/

namespace FocusLayout.Data.Toml

/-- What has been read, and the characters after it. -/
abbrev Piece (α : Type) := Option (α × List Char)

/-! ## Blanks and comments -/

/-- A blank inside a line. -/
def isBlank (c : Char) : Bool :=
  c == ' ' || c == '\t'

/-- A character that may stand in a comment or a text: no control but the tab. -/
def isPlain (c : Char) : Bool :=
  c == '\t' || (' ' ≤ c && c != '\x7f')

/-- The characters after the blanks. -/
def skipBlanks (cs : List Char) : List Char :=
  cs.dropWhile isBlank

/-- The characters after a line end. -/
def newline? : List Char → Option (List Char)
  | '\n' :: rest => some rest
  | '\r' :: '\n' :: rest => some rest
  | _ => none

/-- The characters after a comment, which begin with a line end unless the comment is ill-formed. -/
def skipComment : List Char → List Char
  | '#' :: rest => rest.dropWhile isPlain
  | cs => cs

/-- The characters after blanks, comments and line ends. -/
def skipFiller (cs : List Char) : List Char :=
  go false cs
where
  /-- Inside a comment everything plain is left out. -/
  go : Bool → List Char → List Char
    | _, '\n' :: rest => go false rest
    | _, '\r' :: '\n' :: rest => go false rest
    | true, c :: rest => if isPlain c then go true rest else c :: rest
    | false, c :: rest => if isBlank c then go false rest else if c == '#' then go true rest else c :: rest
    | _, [] => []

/-- The characters after the rest of a line, on which nothing more may stand. -/
def lineEnd? (cs : List Char) : Option (List Char) :=
  match skipComment (skipBlanks cs) with
  | [] => some []
  | rest => newline? rest

/-! ## Texts -/

/-- The value of a hexadecimal digit. -/
def hexValue? (c : Char) : Option Nat :=
  if c.isDigit then some (c.toNat - 48)
  else if 'a' ≤ c && c ≤ 'f' then some (c.toNat - 87)
  else if 'A' ≤ c && c ≤ 'F' then some (c.toNat - 55)
  else none

/-- A character by its code in so many hexadecimal digits. -/
def hexChar : Nat → Nat → List Char → Piece Char
  | 0, n, rest => if h : n.isValidChar then some (Char.ofNatAux n h, rest) else none
  | count + 1, n, c :: rest => (hexValue? c).bind fun v => hexChar count (n * 16 + v) rest
  | _ + 1, _, [] => none

/-- What a backslash introduces. -/
def escape : List Char → Piece Char
  | 'b' :: rest => some ('\x08', rest)
  | 't' :: rest => some ('\t', rest)
  | 'n' :: rest => some ('\n', rest)
  | 'f' :: rest => some ('\x0c', rest)
  | 'r' :: rest => some ('\r', rest)
  | '\x22' :: rest => some ('\x22', rest)
  | '\\' :: rest => some ('\\', rest)
  | 'u' :: rest => hexChar 4 0 rest
  | 'U' :: rest => hexChar 8 0 rest
  | _ => none

/-- The characters after a backslash that ends its line: all blanks and line ends are left out. -/
def joinLines? (cs : List Char) : Option (List Char) :=
  (newline? (skipBlanks cs)).map (go false)
where
  /-- Leaves out blanks and line ends; the flag says that a return has been read. -/
  go : Bool → List Char → List Char
    | false, c :: rest =>
      if isBlank c || c == '\n' then go false rest
      else if c == '\r' then go true rest
      else c :: rest
    | true, '\n' :: rest => go false rest
    | true, cs => '\r' :: cs
    | false, [] => []

/-- A text in double marks on one line, after the opening mark; what has been read comes in reverse. -/
def basicText : (fuel : Nat) → List Char → List Char → Piece String
  | 0, _, _ => none
  | fuel + 1, found, cs =>
    match cs with
    | '\x22' :: rest => some (String.ofList found.reverse, rest)
    | '\\' :: rest => (escape rest).bind fun (c, rest) => basicText fuel (c :: found) rest
    | c :: rest => if isPlain c then basicText fuel (c :: found) rest else none
    | [] => none

/-- A text in single marks on one line, after the opening mark: nothing in it is special. -/
def literalText (cs : List Char) : Piece String :=
  match cs.dropWhile fun c => c != '\'' && isPlain c with
  | '\'' :: rest => some (String.ofList (cs.takeWhile fun c => c != '\'' && isPlain c), rest)
  | _ => none

/-- A text between triple marks, after the opening ones; what has been read comes in reverse. Up to two marks may
stand before the closing ones. Only in double marks is a backslash special. -/
def longText (mark : Char) : (fuel : Nat) → List Char → List Char → Piece String
  | 0, _, _ => none
  | fuel + 1, found, cs =>
    match cs with
    | [] => none
    | c :: rest =>
      if c == mark then
        match rest with
        | c' :: c'' :: rest' =>
          if c' == mark && c'' == mark then
            let extra := (rest'.takeWhile (· == mark)).take 2
            some (String.ofList (extra ++ found).reverse, rest'.drop extra.length)
          else longText mark fuel (c :: found) rest
        | _ => none
      else if c == '\\' && mark == '\x22' then
        match joinLines? rest with
        | some rest => longText mark fuel found rest
        | none => (escape rest).bind fun (c, rest) => longText mark fuel (c :: found) rest
      else
        match newline? cs with
        | some rest => longText mark fuel ('\n' :: found) rest
        | none => if isPlain c then longText mark fuel (c :: found) rest else none

/-- A text of any of the four kinds, from its opening mark on. A line end after triple marks does not count. -/
def text : List Char → Piece String
  | '\x22' :: '\x22' :: '\x22' :: rest => long '\x22' rest
  | '\'' :: '\'' :: '\'' :: rest => long '\'' rest
  | '\x22' :: rest => basicText (rest.length + 1) [] rest
  | '\'' :: rest => literalText rest
  | _ => none
where
  /-- A text between triple marks. -/
  long (mark : Char) (cs : List Char) : Piece String :=
    longText mark (cs.length + 1) [] ((newline? cs).getD cs)

/-! ## Names -/

/-- A character of a name without marks. -/
def isBare (c : Char) : Bool :=
  c.isAlphanum || c == '_' || c == '-'

/-- One part of a name. -/
def simpleKey (cs : List Char) : Piece String :=
  match cs with
  | '\x22' :: rest => basicText (rest.length + 1) [] rest
  | '\'' :: rest => literalText rest
  | _ =>
    match cs.takeWhile isBare with
    | [] => none
    | name => some (String.ofList name, cs.dropWhile isBare)

/-- How many parts a name may have, and how deep values may nest, and one more. -/
def depthLimit : Nat := 80

/-- A name with dots, with blanks around its parts. -/
def key (cs : List Char) : Piece (List String) :=
  (go (cs.length + 1) cs).filter fun (parts, _) => parts.length < depthLimit
where
  /-- The parts from here on. -/
  go : Nat → List Char → Piece (List String)
    | 0, _ => none
    | fuel + 1, cs =>
      match simpleKey (skipBlanks cs) with
      | none => none
      | some (part, rest) =>
        match skipBlanks rest with
        | '.' :: rest => (go fuel rest).map fun (parts, rest) => (part :: parts, rest)
        | rest => some ([part], rest)

/-! ## Numbers -/

/-- The value of digits in a base. -/
def ofDigits (base : Nat) (digits : List Char) : Nat :=
  digits.foldl (fun n c => n * base + (hexValue? c).getD 0) 0

/-- The digits from here on, with single underscores before digits. -/
def moreDigits (isDigit : Char → Bool) : List Char → Piece (List Char)
  | '_' :: d :: rest => if isDigit d then (moreDigits isDigit rest).map fun (found, rest) => (d :: found, rest) else none
  | ['_'] => none
  | c :: rest =>
    if isDigit c then (moreDigits isDigit rest).map fun (found, rest) => (c :: found, rest) else some ([], c :: rest)
  | [] => some ([], [])

/-- Digits with single underscores between them. -/
def digits (isDigit : Char → Bool) (cs : List Char) : Piece (List Char) :=
  if cs.head?.any isDigit then moreDigits isDigit cs else none

/-- A sign, and whether it is a minus. -/
def sign : List Char → Bool × List Char
  | '+' :: rest => (false, rest)
  | '-' :: rest => (true, rest)
  | cs => (false, cs)

/-- A whole number of 64 bits. -/
def signed? (n : Int) : Option Value :=
  if -(Nat.pow 2 63 : Int) ≤ n && n < (Nat.pow 2 63 : Int) then some (.signed n) else none

/-- The whole part of a number: zero alone, or digits that do not begin with zero. -/
def wholePart : List Char → Piece (List Char)
  | '0' :: rest => some (['0'], rest)
  | cs => digits Char.isDigit cs

/-- The exponent of a number, after its letter. -/
def exponent (cs : List Char) : Piece Int :=
  let (negative, rest) := sign cs
  (digits Char.isDigit rest).map fun (found, rest) =>
    let n : Int := ofDigits 10 found
    (if negative then -n else n, rest)

/-- A number with a fraction or an exponent. What is too great for 64 bits is refused, unless it is negative. -/
def float? (negative : Bool) (whole fraction : List Char) (exponent : Int) : Option Value :=
  match Binary64.ofDecimal negative (ofDigits 10 (whole ++ fraction)) (exponent - fraction.length) with
  | .infinity false => none
  | x => some (.float x)

/-- A decimal number, after its sign. -/
def decimal (negative : Bool) (cs : List Char) : Option (Value × List Char) := do
  let (whole, rest) ← wholePart cs
  match rest with
  | '.' :: rest =>
    let (fraction, rest) ← digits Char.isDigit rest
    let (e, rest) ← if isExponent rest then exponent (rest.drop 1) else some (0, rest)
    return (← float? negative whole fraction e, rest)
  | rest =>
    if isExponent rest then
      let (e, rest) ← exponent (rest.drop 1)
      return (← float? negative whole [] e, rest)
    else
      let n : Int := ofDigits 10 whole
      return (← signed? (if negative then -n else n), rest)
where
  /-- Whether an exponent begins here. -/
  isExponent (cs : List Char) : Bool :=
    cs.head? == some 'e' || cs.head? == some 'E'

/-- A whole number in another base, after the letter of the base. -/
def based (base : Nat) (isDigit : Char → Bool) (cs : List Char) : Option (Value × List Char) := do
  let (found, rest) ← digits isDigit cs
  return (← signed? (ofDigits base found), rest)

/-- A number of any kind. -/
def number (cs : List Char) : Piece Value :=
  match cs with
  | '0' :: 'x' :: rest => based 16 (fun c => (hexValue? c).isSome) rest
  | '0' :: 'o' :: rest => based 8 (fun c => '0' ≤ c && c ≤ '7') rest
  | '0' :: 'b' :: rest => based 2 (fun c => c == '0' || c == '1') rest
  | _ =>
    let (negative, rest) := sign cs
    match rest with
    | 'i' :: 'n' :: 'f' :: rest => some (.float (.infinity negative), rest)
    | 'n' :: 'a' :: 'n' :: rest => some (.float .nan, rest)
    | rest => decimal negative rest

/-! ## Times -/

/-- A number of exactly so many digits within bounds. -/
def fixed (count low high : Nat) (cs : List Char) : Piece Nat :=
  let found := cs.take count
  let n := ofDigits 10 found
  if found.length == count && found.all Char.isDigit && low ≤ n && n ≤ high then some (n, cs.drop count) else none

/-- The characters after an expected one. -/
def expect (c : Char) : List Char → Option (List Char)
  | d :: rest => if c == d then some rest else none
  | [] => none

/-- The number of days of a month. -/
def daysOf (year month : Nat) : Nat :=
  match month with
  | 2 => if year % 4 == 0 && (year % 100 != 0 || year % 400 == 0) then 29 else 28
  | 4 | 6 | 9 | 11 => 30
  | _ => 31

/-- The characters after a date. -/
def date? (cs : List Char) : Option (List Char) := do
  let (year, rest) ← fixed 4 0 9999 cs
  let (month, rest) ← fixed 2 1 12 (← expect '-' rest)
  let (_, rest) ← fixed 2 1 (daysOf year month) (← expect '-' rest)
  return rest

/-- The characters after a time of day; the last minute of a day may have one second more. -/
def timeOfDay? (cs : List Char) : Option (List Char) := do
  let (_, rest) ← fixed 2 0 23 cs
  let (_, rest) ← fixed 2 0 59 (← expect ':' rest)
  let (_, rest) ← fixed 2 0 60 (← expect ':' rest)
  match rest with
  | '.' :: rest => if rest.head?.any Char.isDigit then return rest.dropWhile Char.isDigit else none
  | rest => return rest

/-- The characters after the offset of a time, if there is one. -/
def offset? (cs : List Char) : Option (List Char) :=
  match cs with
  | 'Z' :: rest | 'z' :: rest => some rest
  | '+' :: rest | '-' :: rest => do
    let (_, rest) ← fixed 2 0 23 rest
    let (_, rest) ← fixed 2 0 59 (← expect ':' rest)
    return rest
  | cs => some cs

/-- Whether a time of day begins here. -/
def isTimeStart (cs : List Char) : Bool :=
  (fixed 2 0 23 cs).any fun (_, rest) => rest.head? == some ':'

/-- The characters after a date, a time of day or both. -/
def dateTime? (cs : List Char) : Option (List Char) :=
  if isTimeStart cs then timeOfDay? cs
  else do
    let rest ← date? cs
    match rest with
    | c :: time =>
      if (c == 'T' || c == 't' || c == ' ') && isTimeStart time then offset? (← timeOfDay? time) else return rest
    | [] => return []

/-- Whether a date or a time of day begins here. -/
def isDateTimeStart (cs : List Char) : Bool :=
  isTimeStart cs || (fixed 4 0 9999 cs).any fun (_, rest) => rest.head? == some '-'

/-- The key that a date or a time is kept under. -/
def dateTimeKey : String := "$__toml_private_datetime"

/-- A date or a time, which is kept as a dictionary of one text. -/
def dateTime (cs : List Char) : Piece Value :=
  (dateTime? cs).map fun rest =>
    (.dict [(dateTimeKey, .string (String.ofList (cs.take (cs.length - rest.length))))], rest)

end FocusLayout.Data.Toml
