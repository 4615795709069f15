import FocusLayout.Pattern.Tree
import FocusLayout.Text.Blank
import FocusLayout.Text.Property

/-!
# Reading a pattern

`Tree.read?` reads a pattern's written form or refuses it. The reader keeps the parts of the sequence in hand and a
stack of what surrounds it (`Frame`), and takes in at least one character at each step, so the length of the pattern
bounds the steps. Bracketed sets are read in the same way, with a stack of their own (`ClassFrame`).

With the extended switch on, blanks and comments between the parts do not count.
-/

namespace FocusLayout.Pattern

open Text (isBlank)

/-- A piece that has been read, and what follows it. -/
abbrev Piece (α : Type) := Option (α × List Char)

/-! ## Blanks and comments -/

/-- Leaves out blanks and comments, if they do not count. -/
def skip (extended : Bool) (cs : List Char) : List Char :=
  if extended then go false cs else cs
where
  /-- Inside a comment everything up to the end of the line is left out. -/
  go : Bool → List Char → List Char
    | _, [] => []
    | true, c :: rest => go (c != '\n') rest
    | false, c :: rest => if isBlank c then go false rest else if c == '#' then go true rest else c :: rest

/-- The characters accepted from here on, with blanks and comments after each left out. -/
def spanSpaced (extended : Bool) (accepts : Char → Bool) (cs : List Char) : List Char × List Char :=
  go cs.length cs
where
  /-- Takes up to so many characters. -/
  go : Nat → List Char → List Char × List Char
    | 0, cs => ([], cs)
    | _ + 1, [] => ([], [])
    | n + 1, c :: rest =>
      if accepts c then
        let (taken, rest) := go n (skip extended rest)
        (c :: taken, rest)
      else ([], c :: rest)

/-- The character after the one in hand that counts, for a look ahead of one. -/
def peek (extended : Bool) (cs : List Char) : Option Char :=
  match cs with
  | [] => none
  | _ :: rest =>
    if extended then
      match rest.dropWhile isBlank with
      | '#' :: comment => (comment.dropWhile isBlank).head?.or rest.head?
      | next => next.head?.or rest.head?
    else rest.head?

/-! ## Numbers -/

/-- The value of digits in a base. -/
def ofDigits (base : Nat) (digits : List Char) : Nat :=
  digits.foldl (fun n c => n * base + (if c.isDigit then c.toNat - 48 else c.toLower.toNat - 87)) 0

/-- A hexadecimal digit. -/
def isHexDigit (c : Char) : Bool :=
  c.isDigit || ('a' ≤ c && c ≤ 'f') || ('A' ≤ c && c ≤ 'F')

/-- The character with a code, which surrogates and numbers beyond the last code point do not have. -/
def charOfCode? (n : Nat) : Option Char :=
  if h : n.isValidChar then some (Char.ofNatAux n h) else none

/-- A decimal number of 32 bits with blanks around it; `none` in the first place if there is no such number. -/
def readCount (extended : Bool) (cs : List Char) : Option Nat × List Char :=
  let (digits, rest) := spanSpaced extended (fun c => c.isDigit) (cs.dropWhile isBlank)
  let rest := (spanSpaced extended isBlank rest).2
  let n := ofDigits 10 digits
  (if digits.isEmpty || Nat.pow 2 32 ≤ n then none else some n, rest)

/-- The bounds of a counted repetition, after its opening brace. -/
def readBounds (extended : Bool) (cs : List Char) : Piece (Nat × Option Nat) :=
  let (least, rest) := readCount extended (skip extended cs)
  match rest with
  | ',' :: rest =>
    match skip extended rest with
    | [] => none
    | '\x7d' :: rest => least.map fun n => ((n, none), rest)
    | rest =>
      match least, readCount extended rest with
      | some n, (some m, '\x7d' :: rest) => if n ≤ m then some ((n, some m), rest) else none
      | _, _ => none
  | '\x7d' :: rest => least.map fun n => ((n, some n), rest)
  | _ => none

/-- Takes the mark for a lazy repetition, which does not change what can match. -/
def dropLazy : List Char → List Char
  | '?' :: rest => rest
  | cs => cs

/-! ## Escapes -/

/-- A character by its hexadecimal code, after the letter that announces it. -/
def readHex (extended : Bool) (width : Nat) (cs : List Char) : Piece Literal :=
  match skip extended cs with
  | '\x7b' :: rest =>
    match spanSpaced extended isHexDigit (skip extended rest) with
    | ([], _) => none
    | (digits, '\x7d' :: rest) =>
      (charOfCode? (ofDigits 16 digits)).map fun c => (⟨c, false⟩, skip extended rest)
    | _ => none
  | rest => digits width [] rest
where
  /-- Exactly so many digits. -/
  digits : Nat → List Char → List Char → Piece Literal
    | 0, found, rest => (charOfCode? (ofDigits 16 found.reverse)).map fun c => (⟨c, width == 2⟩, rest)
    | n + 1, found, c :: rest => if isHexDigit c then digits n (c :: found) (skip extended rest) else none
    | _ + 1, _, [] => none

/-- Cuts a text at the first occurrence of a mark. -/
def cutAt (mark : List Char) : List Char → Option (List Char × List Char)
  | [] => none
  | c :: rest =>
    if mark.isPrefixOf (c :: rest) then some ([], (c :: rest).drop mark.length)
    else (cutAt mark rest).map fun (before, after) => (c :: before, after)

/-- What the text between braces asks for. The sign between name and value, also an unequal one, says only that a
value follows: the letter before the braces alone negates. -/
def Query.ofText (text : List Char) : Query :=
  match (cutAt ['!', '='] text).or ((cutAt [':'] text).or (cutAt ['='] text)) with
  | some (name, value) => valued (String.ofList name) (String.ofList value)
  | none => named (String.ofList text)

/-- A property by name, after the letter that announces it. -/
def readProperty (extended : Bool) (cs : List Char) : Piece Query :=
  match skip extended cs with
  | [] => none
  | '\x7b' :: rest =>
    match spanSpaced extended (· != '\x7d') (skip extended rest) with
    | (text, _ :: rest) => some (.ofText text, rest)
    | _ => none
  | '\\' :: _ => none
  | c :: rest => some (.named (String.singleton c), skip extended rest)

/-- The special word boundary named in braces after a word boundary, or the plain one. -/
def readWordBoundary (extended : Bool) (cs : List Char) : Option (Assertion × List Char) :=
  match cs with
  | '\x7b' :: rest =>
    match skip extended rest with
    | [] => none
    | c :: rest =>
      if c.isAlpha || c == '-' then
        match spanSpaced extended (fun c => c.isAlpha || c == '-') (c :: rest) with
        | (name, '\x7d' :: rest) =>
          match String.ofList name with
          | "start" => some (.wordStart, rest)
          | "end" => some (.wordEnd, rest)
          | "start-half" => some (.wordStartHalf, rest)
          | "end-half" => some (.wordEndHalf, rest)
          | _ => none
        | _ => none
      else some (.wordBoundary, cs)
  | _ => some (.wordBoundary, cs)

/-- The ASCII characters that stand for themselves after a backslash: all but letters, digits and angle brackets. -/
def isEscapable (c : Char) : Bool :=
  c.toNat < 0x80 && !c.isAlphanum && c != '<' && c != '>'

/-- What a backslash introduces. -/
def readEscape (extended : Bool) (cs : List Char) : Piece Tree :=
  let plain (c : Char) (rest : List Char) : Piece Tree := some (.literal ⟨c, false⟩, rest)
  let place (a : Assertion) (rest : List Char) : Piece Tree := some (.assertion a, rest)
  match cs with
  | [] => none
  | 'x' :: rest => (readHex extended 2 rest).map fun (l, rest) => (.literal l, rest)
  | 'u' :: rest => (readHex extended 4 rest).map fun (l, rest) => (.literal l, rest)
  | 'U' :: rest => (readHex extended 8 rest).map fun (l, rest) => (.literal l, rest)
  | 'p' :: rest => (readProperty extended rest).map fun (q, rest) => (.property q false, rest)
  | 'P' :: rest => (readProperty extended rest).map fun (q, rest) => (.property q true, rest)
  | 'd' :: rest => some (.perl .digit false, rest)
  | 'D' :: rest => some (.perl .digit true, rest)
  | 's' :: rest => some (.perl .space false, rest)
  | 'S' :: rest => some (.perl .space true, rest)
  | 'w' :: rest => some (.perl .word false, rest)
  | 'W' :: rest => some (.perl .word true, rest)
  | 'a' :: rest => plain '\x07' rest
  | 'f' :: rest => plain '\x0c' rest
  | 't' :: rest => plain '\t' rest
  | 'n' :: rest => plain '\n' rest
  | 'r' :: rest => plain '\r' rest
  | 'v' :: rest => plain '\x0b' rest
  | 'A' :: rest => place .textStart rest
  | 'z' :: rest => place .textEnd rest
  | 'b' :: rest => (readWordBoundary extended rest).map fun (a, rest) => (.assertion a, rest)
  | 'B' :: rest => place .notWordBoundary rest
  | '<' :: rest => place .wordStart rest
  | '>' :: rest => place .wordEnd rest
  | c :: rest => if isEscapable c then plain c rest else none

/-! ## Bracketed sets -/

/-- The ASCII classes by name. -/
def asciiClass? : String → Option (List (Nat × Nat))
  | "alnum" => some [(48, 57), (65, 90), (97, 122)]
  | "alpha" => some [(65, 90), (97, 122)]
  | "ascii" => some [(0, 127)]
  | "blank" => some [(9, 9), (32, 32)]
  | "cntrl" => some [(0, 31), (127, 127)]
  | "digit" => some [(48, 57)]
  | "graph" => some [(33, 126)]
  | "lower" => some [(97, 122)]
  | "print" => some [(32, 126)]
  | "punct" => some [(33, 47), (58, 64), (91, 96), (123, 126)]
  | "space" => some [(9, 13), (32, 32)]
  | "upper" => some [(65, 90)]
  | "word" => some [(48, 57), (65, 90), (95, 95), (97, 122)]
  | "xdigit" => some [(48, 57), (65, 70), (97, 102)]
  | _ => none

/-- An ASCII class, after its opening bracket; anything else is left to be read as a nested set. -/
def readAsciiClass (cs : List Char) : Piece ClassTree :=
  match cs with
  | ':' :: rest =>
    let (negated, rest) := match rest with
      | '^' :: rest => (true, rest)
      | rest => (false, rest)
    match rest.dropWhile (· != ':') with
    | ':' :: ']' :: after =>
      (asciiClass? (String.ofList (rest.takeWhile (· != ':')))).map fun ranges => (.ascii ranges negated, after)
    | _ => none
  | _ => none

/-- What surrounds the set in hand. -/
inductive ClassFrame where
  /-- A set that was opened after `outer` items of the set around it. -/
  | opened (outer : List ClassTree) (negated : Bool)
  /-- An operation that waits for its right side. -/
  | pending (op : SetOp) (left : ClassTree)

/-- A set in the course of reading; the items come in reverse. -/
structure ClassState where
  rest : List Char
  items : List ClassTree
  frames : List ClassFrame

/-- The set in hand as the right side of the operation that waits for it, if one does. -/
def ClassState.close (frames : List ClassFrame) (right : ClassTree) : ClassTree × List ClassFrame :=
  match frames with
  | .pending op left :: frames => (.binary op left right, frames)
  | frames => (right, frames)

/-- Opens a set: a leading caret negates it, leading hyphens and then a leading bracket stand for themselves. -/
def ClassState.open? (extended : Bool) (s : ClassState) : Option ClassState :=
  match skip extended (s.rest.drop 1) with
  | [] => none
  | '^' :: rest => items true (skip extended rest)
  | rest => items false rest
where
  /-- The items that may stand only at the beginning. -/
  items (negated : Bool) (cs : List Char) : Option ClassState :=
    let (hyphens, rest) := spanSpaced extended (· == '-') cs
    let found : List ClassTree := hyphens.map fun c => .literal ⟨c, false⟩
    let frames := .opened s.items negated :: s.frames
    match found, rest with
    | _, [] => none
    | [], ']' :: rest =>
      match skip extended rest with
      | [] => none
      | rest => some ⟨rest, [.literal ⟨']', false⟩], frames⟩
    | found, rest => some ⟨rest, found, frames⟩

/-- One item of a set or one end of a range. -/
def readClassItem (extended : Bool) (cs : List Char) : Piece Tree :=
  match cs with
  | [] => none
  | '\\' :: rest => readEscape extended rest
  | c :: rest => some (.literal ⟨c, false⟩, rest)

/-- A place in the text is no member of a set. -/
def ClassTree.ofTree? : Tree → Option ClassTree
  | .literal l => some (literal l)
  | .property query negated => some (property query negated)
  | .perl kind negated => some (perl kind negated)
  | _ => none

/-- An item or a range; its two ends are characters in order. -/
def readClassRange (extended : Bool) (cs : List Char) : Piece ClassTree :=
  match readClassItem extended cs with
  | none => none
  | some (first, rest) =>
    let rest := skip extended rest
    let alone : Piece ClassTree := (ClassTree.ofTree? first).map (·, rest)
    match rest with
    | [] => none
    | '-' :: after =>
      let ahead := peek extended rest
      if ahead == some ']' || ahead == some '-' then alone
      else
        match first, readClassItem extended (skip extended after) with
        | .literal lo, some (.literal hi, rest) =>
          if lo.char ≤ hi.char then some (.range lo hi, rest) else none
        | _, _ => none
    | _ => alone

/-- One step of reading a set: the next state, or the finished outermost set and what follows it. -/
def ClassState.step (extended : Bool) (s : ClassState) : Option (ClassState ⊕ Tree × List Char) :=
  let operation (op : SetOp) (rest : List Char) : Option (ClassState ⊕ Tree × List Char) :=
    let (left, frames) := close s.frames (.ofItems s.items.reverse)
    some (.inl ⟨rest, [], .pending op left :: frames⟩)
  match skip extended s.rest with
  | [] => none
  | '[' :: rest =>
    match if s.frames.isEmpty then none else readAsciiClass rest with
    | some (item, rest) => some (.inl { s with rest := rest, items := item :: s.items })
    | none => (open? extended { s with rest := '[' :: rest }).map .inl
  | ']' :: rest =>
    match close s.frames (.ofItems s.items.reverse) with
    | (inner, .opened outer negated :: frames) =>
      if frames.isEmpty then some (.inr (.bracketed negated inner, rest))
      else some (.inl ⟨rest, .bracketed negated inner :: outer, frames⟩)
    | _ => none
  | '&' :: '&' :: rest => operation .intersection rest
  | '-' :: '-' :: rest => operation .difference rest
  | '~' :: '~' :: rest => operation .symmetricDifference rest
  | rest =>
    (readClassRange extended rest).map fun (item, rest) =>
      .inl { s with rest := rest, items := item :: s.items }

/-- A bracketed set from its opening bracket on. -/
def readClass (extended : Bool) (cs : List Char) : Piece Tree :=
  go (cs.length + 1) ⟨cs, [], []⟩
where
  /-- Up to so many steps. -/
  go : Nat → ClassState → Piece Tree
    | 0, _ => none
    | n + 1, s =>
      match s.step extended with
      | none => none
      | some (.inl next) => go n next
      | some (.inr done) => some done

/-! ## Groups -/

/-- The switch with a letter. -/
def Flag.ofLetter? : Char → Option Flag
  | 'i' => some caseInsensitive
  | 'm' => some multiLine
  | 's' => some dotMatchesNewline
  | 'U' => some swapGreed
  | 'u' => some unicode
  | 'R' => some crlf
  | 'x' => some extended
  | _ => none

/-- The switches up to a colon or a closing bracket, each at most once, with at most one hyphen, which is followed by
a switch. The closing character is left in place. -/
def readFlags (cs : List Char) : Piece FlagChange :=
  go [] true false cs
where
  /-- `on` is the value the next switches get, `dangling` whether a hyphen has just been read. -/
  go (found : FlagChange) (on dangling : Bool) : List Char → Piece FlagChange
    | [] => none
    | c :: rest =>
      if c == ':' || c == ')' then
        if dangling then none else some (found.reverse, c :: rest)
      else if c == '-' then
        if on then go found false true rest else none
      else
        match Flag.ofLetter? c with
        | some flag => if (FlagChange.value? found flag).isSome then none else go ((flag, on) :: found) on false rest
        | none => none

/-- A group's name up to its closing angle: a letter or underscore, then also digits, dots and square brackets. -/
def readName (cs : List Char) : Piece String :=
  let name := cs.takeWhile (· != '>')
  let fits : Bool := match name with
    | [] => false
    | c :: others =>
      (c == '_' || Text.Property.alphabetic.has c) &&
        others.all fun c => c == '_' || c == '.' || c == '[' || c == ']' || Text.Property.alphanumeric.has c
  match cs.dropWhile (· != '>') with
  | _ :: rest => if fits then some (String.ofList name, rest) else none
  | [] => none

/-- What surrounds the sequence in hand. -/
inductive Frame where
  /-- A group opened after `outer` parts; `change` is `none` for a group that captures. -/
  | group (outer : List Tree) (change : Option FlagChange) (extended : Bool)
  /-- The finished branches of an alternation, in reverse. -/
  | alternation (branches : List Tree)

/-- A pattern in the course of reading; parts come in reverse. -/
structure ReadState where
  rest : List Char
  extended : Bool
  parts : List Tree
  frames : List Frame
  names : List String

namespace ReadState

/-- The sequence in hand. -/
def sequence (s : ReadState) : Tree :=
  .ofParts s.parts.reverse

/-- What an opening bracket begins: a group, or a change of switches for the rest of the group around it. -/
def openGroup (s : ReadState) (rest : List Char) : Option ReadState :=
  let enter (change : Option FlagChange) (extended : Bool) (names : List String) (rest : List Char) : ReadState :=
    ⟨rest, extended, [], .group s.parts change s.extended :: s.frames, names⟩
  let named (rest : List Char) : Option ReadState := do
    let (name, rest) ← readName rest
    if s.names.contains name then none else some (enter none s.extended (name :: s.names) rest)
  match skip s.extended rest with
  | '?' :: '=' :: _ | '?' :: '!' :: _ | '?' :: '<' :: '=' :: _ | '?' :: '<' :: '!' :: _ => none
  | '?' :: 'P' :: '<' :: rest | '?' :: '<' :: rest => named rest
  | '?' :: rest =>
    match readFlags rest with
    | some (change, ')' :: rest) =>
      if change.isEmpty then none
      else some { s with
        rest := rest
        extended := (FlagChange.value? change .extended).getD s.extended
        parts := .flags change :: s.parts }
    | some (change, _ :: rest) =>
      some (enter (some change) ((FlagChange.value? change .extended).getD s.extended) s.names rest)
    | _ => none
  | rest => some (enter none s.extended s.names rest)

/-- The frames after a bar: the sequence in hand becomes a finished branch. -/
def withBranch (s : ReadState) : List Frame :=
  match s.frames with
  | .alternation branches :: frames => .alternation (s.sequence :: branches) :: frames
  | frames => .alternation [s.sequence] :: frames

/-- The sequence in hand with the branches before it, and the frames around them. -/
def finish (s : ReadState) : Tree × List Frame :=
  match s.frames with
  | .alternation branches :: frames => (.alternation (s.sequence :: branches).reverse, frames)
  | frames => (s.sequence, frames)

/-- The end of a group. -/
def closeGroup (s : ReadState) (rest : List Char) : Option ReadState :=
  match s.finish with
  | (body, .group outer change extended :: frames) =>
    let whole := match change with
      | some change => Tree.group change body
      | none => .capture body
    some { s with rest := rest, extended := extended, parts := whole :: outer, frames := frames }
  | _ => none

/-- Repeats the last part, which must be something that can match. -/
def repeatLast (s : ReadState) (least : Nat) (most : Option Nat) (rest : List Char) : Option ReadState :=
  match s.parts with
  | [] | .empty :: _ | .flags _ :: _ => none
  | part :: parts => some { s with rest := rest, parts := .repetition least most part :: parts }

/-- Adds a part. -/
def push (s : ReadState) (piece : Piece Tree) : Option ReadState :=
  piece.map fun (part, rest) => { s with rest := rest, parts := part :: s.parts }

/-- One step of reading: the next state, or `none` inside when the pattern is at its end. -/
def step (s : ReadState) : Option (Option ReadState) :=
  match skip s.extended s.rest with
  | [] => some none
  | '(' :: rest => (s.openGroup rest).map some
  | ')' :: rest => (s.closeGroup rest).map some
  | '|' :: rest => some (some { s with rest := rest, parts := [], frames := s.withBranch })
  | '[' :: rest => (s.push (readClass s.extended ('[' :: rest))).map some
  | '?' :: rest => (s.repeatLast 0 (some 1) (dropLazy rest)).map some
  | '*' :: rest => (s.repeatLast 0 none (dropLazy rest)).map some
  | '+' :: rest => (s.repeatLast 1 none (dropLazy rest)).map some
  | '\x7b' :: rest => do
    let ((least, most), rest) ← readBounds s.extended rest
    return some (← s.repeatLast least most (dropLazy (skip s.extended rest)))
  | '\\' :: rest => (s.push (readEscape s.extended rest)).map some
  | '.' :: rest => (s.push (some (.dot, rest))).map some
  | '^' :: rest => (s.push (some (.assertion .lineStart, rest))).map some
  | '$' :: rest => (s.push (some (.assertion .lineEnd, rest))).map some
  | c :: rest => (s.push (some (.literal ⟨c, false⟩, rest))).map some

/-- Up to so many steps, to the end of the pattern with every group closed. -/
def readAll : Nat → ReadState → Option Tree
  | 0, _ => none
  | n + 1, s =>
    match s.step with
    | none => none
    | some (some next) => readAll n next
    | some none =>
      match s.finish with
      | (whole, []) => some whole
      | _ => none

end ReadState

/-- How deep a pattern may nest. -/
def depthLimit : Nat := 250

/-- Reads a pattern's written form. -/
def Tree.read? (text : String) : Option Tree :=
  let cs := text.toList
  (ReadState.readAll (cs.length + 1) ⟨cs, false, [], [], []⟩).filter (·.depth ≤ depthLimit)

end FocusLayout.Pattern
