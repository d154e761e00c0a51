import TableSchema.Text.Hex

/-!
# Strings in TOML

There are four forms of strings.  A **basic** string stands between quotation marks and knows
escapes; a **literal** string stands between apostrophes and knows none; each may also stand between
three of its marks, and then spans lines.  A line break right behind the three opening marks is not
part of the string, and before the three closing marks up to two more of the marks may stand.

## Main definitions

* `isPlain` — the characters that may stand in a string as they are.
* `readBasic`, `readLiteral`, `readLongBasic`, `readLongLiteral` — read a string of each form from
  behind its opening marks.
* `readString?` — reads a string of any form.
-/

namespace TableSchema.Toml

open Text

/-! ### Characters -/

/-- Whether a character may stand in a line as it is: a tabulator, or no control character. -/
def isPlain (c : Char) : Bool :=
  c = '\t' || (0x20 ≤ c.toNat && c.toNat ≠ 0x7F)

/-- Whether a character is a blank or a tabulator. -/
def isGap (c : Char) : Bool := c = ' ' || c = '\t'

/-- The number that hexadecimal digits make. -/
def hexNumber? (digits : List Char) : Option Nat :=
  digits.foldl
    (fun n c => n.bind fun n => (hexValue? c).map fun d => n * 16 + d)
    (some 0)

/-- The character of this number, if there is one. -/
def charOf? (n : Nat) : Option Char :=
  if n.isValidChar then some (Char.ofNat n) else none

/-- The character that a short escape stands for. -/
def unescape? (c : Char) : Option Char :=
  if c = 'b' then some '\x08'
  else if c = 't' then some '\t'
  else if c = 'n' then some '\n'
  else if c = 'f' then some '\x0c'
  else if c = 'r' then some '\r'
  else if c = 'e' then some '\x1b'
  else if c = '"' then some '"'
  else if c = '\\' then some '\\'
  else none

/-- How many hexadecimal digits follow a numeric escape. -/
def digitsAfter? (c : Char) : Option Nat :=
  if c = 'x' then some 2 else if c = 'u' then some 4 else if c = 'U' then some 8 else none

/-! ### Reading -/

/-- The state of reading a basic string. -/
inductive BasicState where
  /-- Between two characters. -/
  | ready
  /-- Behind a backslash. -/
  | escaped
  /-- In a numeric escape, of which the given digits are read and `left + 1` are still to come. -/
  | digits (read : List Char) (left : Nat)
  deriving DecidableEq, Repr

/-- Puts a character in front of the string that was read behind it. -/
def consChar (c : Char) : Option (List Char × List Char) → Option (List Char × List Char) :=
  Option.map fun (s, rest) => (c :: s, rest)

/-- Puts the character of a numeric escape in front of the string that was read behind it. -/
def consDigits (digits : List Char) (read : Option (List Char × List Char)) :
    Option (List Char × List Char) :=
  match (hexNumber? digits).bind charOf? with
  | some c => consChar c read
  | none => none

/-- Reads a basic string from behind its opening mark. -/
def readBasic : BasicState → List Char → Option (List Char × List Char)
  | _, [] => none
  | .ready, c :: t =>
    if c = '"' then some ([], t)
    else if c = '\\' then readBasic .escaped t
    else if isPlain c then consChar c (readBasic .ready t)
    else none
  | .escaped, c :: t =>
    match unescape? c with
    | some e => consChar e (readBasic .ready t)
    | none =>
      match digitsAfter? c with
      | some (n + 1) => readBasic (.digits [] n) t
      | _ => none
  | .digits read 0, c :: t => consDigits (read ++ [c]) (readBasic .ready t)
  | .digits read (n + 1), c :: t => readBasic (.digits (read ++ [c]) n) t

/-- Reads a literal string from behind its opening mark. -/
def readLiteral : List Char → Option (List Char × List Char)
  | [] => none
  | c :: t =>
    if c = '\x27' then some ([], t)
    else if isPlain c then consChar c (readLiteral t)
    else none

/-- The text without a line break at its start. -/
def dropLineBreak : List Char → List Char
  | '\n' :: t => t
  | '\r' :: '\n' :: t => t
  | t => t

/-- If three marks stand at the start: the marks behind them that still belong to the string, of
which there may be two, and what follows the closing marks. -/
def closing? (mark : Char) : List Char → Option (List Char × List Char)
  | a :: b :: c :: t =>
    if a = mark ∧ b = mark ∧ c = mark then
      match t with
      | d :: e :: r =>
        if d = mark then if e = mark then some ([d, e], r) else some ([d], e :: r) else some ([], t)
      | [d] => if d = mark then some ([d], []) else some ([], t)
      | [] => some ([], [])
    else none
  | _ => none

/-- Whether a character is part of a line break, given what follows it: a line feed, or a carriage
return before one. -/
def isBreak (c : Char) (rest : List Char) : Bool :=
  c = '\n' || (c = '\r' && rest.head? = some '\n')

/-- Reads a literal string of several lines from behind its opening marks. -/
def readLongLiteral : List Char → Option (List Char × List Char)
  | [] => none
  | c :: t =>
    match closing? '\x27' (c :: t) with
    | some found => some found
    | none => if isPlain c || isBreak c t then consChar c (readLongLiteral t) else none

/-- Whether nothing but blanks stands before the next line break. -/
def atLineEnd (t : List Char) : Bool :=
  match t.dropWhile isGap with
  | '\n' :: _ => true
  | '\r' :: '\n' :: _ => true
  | _ => false

/-- Reads a basic string of several lines from behind its opening marks.  Behind a backslash at the
end of a line the reader is `joining`: it passes over blanks and line breaks. -/
def readLongBasic : (joining : Bool) → BasicState → List Char → Option (List Char × List Char)
  | _, _, [] => none
  | joining, .ready, c :: t =>
    if joining && (isGap c || isBreak c t) then readLongBasic true .ready t
    else
      match closing? '"' (c :: t) with
      | some found => some found
      | none =>
        if c = '\\' then
          if atLineEnd t then readLongBasic true .ready t else readLongBasic false .escaped t
        else if isPlain c || isBreak c t then consChar c (readLongBasic false .ready t)
        else none
  | _, .escaped, c :: t =>
    match unescape? c with
    | some e => consChar e (readLongBasic false .ready t)
    | none =>
      match digitsAfter? c with
      | some (n + 1) => readLongBasic false (.digits [] n) t
      | _ => none
  | _, .digits read 0, c :: t => consDigits (read ++ [c]) (readLongBasic false .ready t)
  | _, .digits read (n + 1), c :: t => readLongBasic false (.digits (read ++ [c]) n) t

/-- Reads a string of any form, unless the text starts with none of their marks. -/
def readString? : List Char → Option (List Char × List Char)
  | '"' :: '"' :: '"' :: t => readLongBasic false .ready (dropLineBreak t)
  | '\x27' :: '\x27' :: '\x27' :: t => readLongLiteral (dropLineBreak t)
  | '"' :: t => readBasic .ready t
  | '\x27' :: t => readLiteral t
  | _ => none

end TableSchema.Toml
