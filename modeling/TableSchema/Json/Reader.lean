import TableSchema.Json.Value

/-!
# Reading JSON

Reads the print of a value, and every other way of writing it that the data format allows.  A string
is read in two steps: first into **pieces**, which are characters and the UTF-16 units that escapes
give by number, then into a text, for which the halves of surrogate pairs have to meet.

## Main definitions

* `readPieces`, `textOf?` — the two steps of reading a string.
* `readValue` — reads a value from the start of a text.
* `read?` — the value that a text is the writing of.
-/

namespace TableSchema.Json

open Text

/-! ### Strings -/

/-- A piece of a string: a character, or a UTF-16 unit given by its number. -/
inductive Piece where
  /-- A character that stands for itself, or that a short escape stands for. -/
  | char (c : Char)
  /-- A UTF-16 unit. -/
  | unit (n : Nat)
  deriving DecidableEq, Repr

/-- The number that four hexadecimal digits make. -/
def unitOf? (a b c d : Char) : Option Nat :=
  match hexValue? a, hexValue? b, hexValue? c, hexValue? d with
  | some a, some b, some c, some d => some (((a * 16 + b) * 16 + c) * 16 + d)
  | _, _, _, _ => none

/-- The character that a short escape stands for. -/
def unescape? (c : Char) : Option Char :=
  if c = '"' then some '"'
  else if c = '\\' then some '\\'
  else if c = '/' then some '/'
  else if c = 'b' then some '\x08'
  else if c = 'f' then some '\x0c'
  else if c = 'n' then some '\n'
  else if c = 'r' then some '\r'
  else if c = 't' then some '\t'
  else none

/-- Puts a piece in front of what was read behind it. -/
def consPiece (p : Piece) : Option (List Piece × List Char) → Option (List Piece × List Char) :=
  Option.map fun (ps, rest) => (p :: ps, rest)

/-- Reads the pieces of a string up to its closing quotation mark. -/
def readPieces : List Char → Option (List Piece × List Char)
  | [] => none
  | '"' :: t => some ([], t)
  | '\\' :: 'u' :: a :: b :: c :: d :: t =>
    match unitOf? a b c d with
    | some n => consPiece (.unit n) (readPieces t)
    | none => none
  | '\\' :: e :: t =>
    match unescape? e with
    | some c => consPiece (.char c) (readPieces t)
    | none => none
  | c :: t => if c = '\\' ∨ c.toNat < 0x20 then none else consPiece (.char c) (readPieces t)

/-- Whether a UTF-16 unit is the first half of a surrogate pair. -/
def isHigh (n : Nat) : Bool := 0xD800 ≤ n && n ≤ 0xDBFF

/-- Whether a UTF-16 unit is the second half of a surrogate pair. -/
def isLow (n : Nat) : Bool := 0xDC00 ≤ n && n ≤ 0xDFFF

/-- The character of a surrogate pair. -/
def ofPair (high low : Nat) : Char :=
  Char.ofNat (0x10000 + (high - 0xD800) * 0x400 + (low - 0xDC00))

/-- The text that the pieces make, unless half of a surrogate pair stands alone. -/
def textOf? : List Piece → Option (List Char)
  | [] => some []
  | .char c :: ps => (textOf? ps).map (c :: ·)
  | .unit n :: ps =>
    if isHigh n then
      match ps with
      | .unit m :: ps => if isLow m then (textOf? ps).map (ofPair n m :: ·) else none
      | _ => none
    else if isLow n then none
    else (textOf? ps).map (Char.ofNat n :: ·)

/-- Reads a string behind its opening quotation mark. -/
def readString (t : List Char) : Option (Option String × List Char) :=
  (readPieces t).map fun (ps, rest) => ((textOf? ps).map String.ofList, rest)

/-! ### Numbers -/

/-- Whether a character is a decimal digit. -/
def isDigit (c : Char) : Bool := '0' ≤ c && c ≤ '9'

/-- Reads one or more decimal digits. -/
def skipDigits? : List Char → Option (List Char)
  | c :: t => if isDigit c then some (t.dropWhile isDigit) else none
  | [] => none

/-- Reads the whole part of a number, which has no leading zeros. -/
def skipWhole? : List Char → Option (List Char)
  | '0' :: t => some t
  | t => skipDigits? t

/-- Reads the places behind the point, if there is a point. -/
def skipFraction? : List Char → Option (List Char)
  | '.' :: t => skipDigits? t
  | t => some t

/-- Reads the sign of an exponent, if it has one. -/
def skipSign : List Char → List Char
  | '+' :: t => t
  | '-' :: t => t
  | t => t

/-- Reads an exponent, if there is one. -/
def skipExponent? : List Char → Option (List Char)
  | 'e' :: t => skipDigits? (skipSign t)
  | 'E' :: t => skipDigits? (skipSign t)
  | t => some t

/-- Reads a number. -/
def skipNumber? (t : List Char) : Option (List Char) :=
  let t := match t with
    | '-' :: r => r
    | _ => t
  ((skipWhole? t).bind skipFraction?).bind skipExponent?

/-! ### Values -/

/-- Leaves out the blanks of the data format. -/
def skipSpace (t : List Char) : List Char :=
  t.dropWhile fun c => c = ' ' || c = '\n' || c = '\t' || c = '\r'

mutual

/-- Reads a value from the start of a text.  The first argument bounds the number of steps. -/
def readValue : Nat → List Char → Option (Value × List Char)
  | 0, _ => none
  | n + 1, t =>
    match skipSpace t with
    | 'n' :: 'u' :: 'l' :: 'l' :: r => some (.null, r)
    | 't' :: 'r' :: 'u' :: 'e' :: r => some (.bool true, r)
    | 'f' :: 'a' :: 'l' :: 's' :: 'e' :: r => some (.bool false, r)
    | '"' :: r => (readString r).map fun (s, r) => (.string s, r)
    | '[' :: r =>
      match skipSpace r with
      | ']' :: r => some (.array [], r)
      | r => (readItems n r).map fun (vs, r) => (.array vs, r)
    | '\x7b' :: r =>
      match skipSpace r with
      | '\x7d' :: r => some (.object [], r)
      | r => (readMembers n r).map fun (ms, r) => (.object ms, r)
    | r => (skipNumber? r).map fun r => (.number, r)

/-- Reads the items of an array that has some, up to its closing bracket. -/
def readItems : Nat → List Char → Option (List Value × List Char)
  | 0, _ => none
  | n + 1, t =>
    match readValue n t with
    | none => none
    | some (v, r) =>
      match skipSpace r with
      | ',' :: r => (readItems n r).map fun (vs, r) => (v :: vs, r)
      | ']' :: r => some ([v], r)
      | _ => none

/-- Reads the members of an object that has some, up to its closing brace. -/
def readMembers : Nat → List Char → Option (List (Option String × Value) × List Char)
  | 0, _ => none
  | n + 1, t =>
    match skipSpace t with
    | '"' :: r =>
      match readString r with
      | none => none
      | some (k, r) =>
        match skipSpace r with
        | ':' :: r =>
          match readValue n r with
          | none => none
          | some (v, r) =>
            match skipSpace r with
            | ',' :: r => (readMembers n r).map fun (ms, r) => ((k, v) :: ms, r)
            | '\x7d' :: r => some ([(k, v)], r)
            | _ => none
        | _ => none
    | _ => none

end

/-- The value that a text is the writing of.  Every step but the last of a level reads a character,
so twice the length of the text bounds their number. -/
def read? (t : List Char) : Option Value :=
  match readValue (2 * t.length + 2) t with
  | some (v, r) => if skipSpace r = [] then some v else none
  | none => none

end TableSchema.Json
