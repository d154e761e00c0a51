import TableSchema.Pattern.Scanner
import TableSchema.Text.Hex

/-!
# Escapes in patterns

A backslash takes the meaning from a sign and gives one to a letter: a character that is hard to
write, a class, or a question about a place.

## Main definitions

* `isEscapable`, `specialLetter?`, `shorthand?`, `assertion?` — the tables of escapes.
* `readHex`, `readProperty`, `readEdge` — read the escapes that go on behind their letter.
* `readEscape` — reads an escape.
-/

namespace TableSchema.Pattern

open Text

/-! ### What stands behind a backslash -/

/-- Whether a character stands for itself behind a backslash: a sign of ASCII other than the marks
for the edges of words. -/
def isEscapable (c : Char) : Bool :=
  c.toNat < 128 && !c.isAlphanum && c ≠ '<' && c ≠ '>'

/-- The character that a letter behind a backslash stands for. -/
def specialLetter? (c : Char) : Option Char :=
  [('a', '\x07'), ('f', '\x0c'), ('t', '\t'), ('n', '\n'), ('r', '\r'), ('v', '\x0b')].lookup c

/-- The class that a letter behind a backslash stands for. -/
def shorthand? (c : Char) : Option (Bool × Shorthand) :=
  [('d', (false, Shorthand.digit)), ('s', (false, .space)), ('w', (false, .word)),
    ('D', (true, .digit)), ('S', (true, .space)), ('W', (true, .word))].lookup c

/-- What a letter behind a backslash asks of a place. -/
def assertion? (c : Char) : Option Assertion :=
  [('A', .textStart), ('z', .textStop), ('b', .wordEdge), ('B', .noWordEdge), ('<', .wordStart),
    ('>', .wordStop)].lookup c

/-- What a name in braces behind the mark for an edge of a word asks of a place. -/
def edge? (name : List Char) : Option Assertion :=
  [("start", .wordStart), ("end", .wordStop), ("start-half", .wordStartHalf),
    ("end-half", .wordStopHalf)].lookup (String.ofList name)

/-- The number of digits of a numeric escape without braces. -/
def hexDigits? (c : Char) : Option Nat :=
  [('x', 2), ('u', 4), ('U', 8)].lookup c

/-- The number that hexadecimal digits make. -/
def ofHex (digits : List Char) : Nat :=
  digits.foldl (fun n c => n * 16 + (hexValue? c).getD 0) 0

/-! ### Numbers and properties -/

/-- Reads so many hexadecimal digits. -/
def readHexDigits : Nat → Scanner (List Char)
  | 0 => return []
  | n + 1 => do
    match ← peek? with
    | none => refuseHere .escapeCut
    | some c =>
      if (hexValue? c).isNone then refuseNext .hexNoDigit
      advance
      return c :: (← readHexDigits n)

/-- Reads the characters up to a closing brace, the opening one being next; each has to pass the
test.  The first argument bounds their number. -/
def readBraced (test : Char → Scanner Unit) : Nat → Scanner (List Char)
  | 0 => return []
  | n + 1 => do
    advance
    match ← peek? with
    | none => return []
    | some c =>
      if c = '\x7d' then return []
      else
        test c
        return c :: (← readBraced test n)

/-- Reads the rest of a numeric escape that starts at `first`, the letter being next. -/
def readHex (first count : Nat) : Scanner Tree := do
  let letter ← peek?
  advance
  if ← atEnd then refuseHere .escapeCut
  let brace ← place
  if ← isNext '\x7b' then
    let digits ← readBraced
      (fun c => if (hexValue? c).isNone then refuseNext .hexNoDigit else pure ())
      (← get).unread.length
    if ← atEnd then refuseFrom .escapeCut brace
    let last ← place
    advance
    if digits = [] then refuseFrom .hexEmpty brace
    if (ofHex digits).isValidChar then
      return .letter ⟨first, ← place⟩ { char := Char.ofNat (ofHex digits) }
    else refuse .hexNoCharacter (brace + 1) last
  else
    let digits ← readHexDigits count
    if (ofHex digits).isValidChar then
      return .letter ⟨first, ← place⟩ ⟨Char.ofNat (ofHex digits), letter = some 'x'⟩
    else refuseFrom .hexNoCharacter brace

/-- Reads the rest of a property that starts at `first`, the letter being next. -/
def readProperty (first : Nat) (negated : Bool) : Scanner Tree := do
  advance
  match ← peek? with
  | none => refuseHere .escapeCut
  | some '\x7b' =>
    let name ← readBraced (fun _ => pure ()) (← get).unread.length
    if ← atEnd then refuseHere .escapeCut
    bump
    return .property ⟨first, ← place⟩ negated (String.ofList name)
  | some '\\' => refuseNext .propertyBad
  | some c =>
    advance
    return .property ⟨first, ← place⟩ negated c.toString

/-! ### Edges of words -/

/-- Whether a character may stand in the name of an edge of a word. -/
def isEdgeChar (c : Char) : Bool := c.isAlpha || c = '-'

/-- Reads the characters of the name of an edge of a word.  The first argument bounds their
number. -/
def readEdgeName : Nat → Scanner (List Char)
  | 0 => return []
  | n + 1 => do
    match ← peek? with
    | some c =>
      if isEdgeChar c then
        advance
        return c :: (← readEdgeName n)
      else return []
    | none => return []

/-- Reads the braces behind the mark for an edge of a word, which starts at `first`.  If what they
hold is no name, they belong to a repetition and are not read. -/
def readEdge (first : Nat) : Scanner (Option Assertion) := do
  let before ← get
  let brace ← place
  advance
  if ← atEnd then refuseFrom .edgeCut first
  let start ← place
  if (← peek?).any isEdgeChar then
    let name ← readEdgeName (← get).unread.length
    if !(← isNext '\x7d') then refuseFrom .edgeUnclosed brace
    let last ← place
    bump
    match edge? name with
    | some a => return some a
    | none => refuse .edgeUnknown start last
  else
    set before
    return none

/-! ### Escapes -/

/-- Reads an escape. -/
def readEscape : Scanner Tree := do
  let first ← place
  bump
  match ← peek? with
  | none => refuseFrom .escapeCut first
  | some c =>
    let span : Span := ⟨first, first + 2⟩
    if c.isDigit then refuse .backReference span.first span.last
    if let some count := hexDigits? c then return ← readHex first count
    if c = 'p' || c = 'P' then return ← readProperty first (c = 'P')
    bump
    if let some (negated, name) := shorthand? c then return .shorthand span negated name
    if isEscapable c then return .letter span { char := c }
    if let some special := specialLetter? c then return .letter span { char := special }
    match assertion? c with
    | none => refuse .escapeUnknown span.first span.last
    | some .wordEdge =>
      if ← isNext '\x7b' then
        match ← readEdge first with
        | some edge => return .assertion ⟨first, ← place⟩ edge
        | none => return .assertion span .wordEdge
      else return .assertion span .wordEdge
    | some a => return .assertion span a

end TableSchema.Pattern
