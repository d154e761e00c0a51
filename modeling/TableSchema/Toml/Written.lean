import TableSchema.Toml.Strings

/-!
# Writing strings in TOML

A string is written in the plainest form that can hold it: a basic string without escapes if
possible, then a literal string, then these two over several lines, and a basic string with escapes
only where nothing else will do.

## Main definitions

* `Form`, `formFor` — the forms of a string, and the one that is chosen.
* `writeEscaped` — the inside of a basic string.
* `writeString` — the written form of a string.
-/

namespace TableSchema.Toml

open Text

/-! ### Forms -/

/-- The forms of a string. -/
inductive Form where
  /-- Between quotation marks. -/
  | basic
  /-- Between apostrophes. -/
  | literal
  /-- Between three quotation marks. -/
  | longBasic
  /-- Between three apostrophes. -/
  | longLiteral
  deriving DecidableEq, Repr

/-- The length of the longest run of this character, where a run of `current` ends just before the
text and runs of `longest` have been seen. -/
def longestRun (c : Char) : (current longest : Nat) → List Char → Nat
  | _, longest, [] => longest
  | current, longest, d :: t =>
    if d = c then longestRun c (current + 1) (max longest (current + 1)) t
    else longestRun c 0 longest t

/-- Whether a character can only be written by an escape: a control character other than the
tabulator and the line feed. -/
def needsEscape (c : Char) : Bool :=
  c ≠ '\t' && c ≠ '\n' && (c.toNat < 0x20 || c.toNat = 0x7F)

/-- The form in which a string is written. -/
def formFor (t : List Char) : Form :=
  let escapes := t.any needsEscape
  let backslash := t.contains '\\'
  let lines := t.contains '\n'
  let quotes := longestRun '"' 0 0 t
  let apostrophes := longestRun '\x27' 0 0 t
  if !escapes && !backslash && quotes = 0 && !lines then .basic
  else if !escapes && apostrophes = 0 && !lines then .literal
  else if !escapes && !backslash && quotes ≤ 2 then .longBasic
  else if !escapes && apostrophes ≤ 2 then .longLiteral
  else if lines then .longBasic
  else .basic

/-! ### Escapes -/

/-- How a character other than a quotation mark is written in a basic string.  In a string of
several lines a line feed stands for itself. -/
def escape (long : Bool) (c : Char) : List Char :=
  if c = '\x08' then ['\\', 'b']
  else if c = '\t' then ['\\', 't']
  else if c = '\n' then if long then ['\n'] else ['\\', 'n']
  else if c = '\x0c' then ['\\', 'f']
  else if c = '\r' then ['\\', 'r']
  else if c = '\\' then ['\\', '\\']
  else if c.toNat < 0x20 || c.toNat = 0x7F then
    ['\\', 'u', '0', '0', upperHexDigit (c.toNat / 16), upperHexDigit (c.toNat % 16)]
  else [c]

/-- The inside of a basic string, before which `run` quotation marks stand.  In a string of several
lines every third mark of a run is escaped, else every mark. -/
def writeEscaped (long : Bool) : (run : Nat) → List Char → List Char
  | _, [] => []
  | run, c :: t =>
    if c = '"' then
      if (if long then 2 else 0) ≤ run then '\\' :: '"' :: writeEscaped long 0 t
      else '"' :: writeEscaped long (run + 1) t
    else escape long c ++ writeEscaped long 0 t

/-! ### Strings -/

/-- The line break behind the opening marks of a string that spans lines. -/
def leadingBreak (t : List Char) : List Char :=
  if t.contains '\n' then ['\n'] else []

/-- The written form of a string. -/
def writeString (t : List Char) : List Char :=
  match formFor t with
  | .basic => '"' :: writeEscaped false 0 t ++ ['"']
  | .literal => '\x27' :: t ++ ['\x27']
  | .longBasic =>
    ['"', '"', '"'] ++ leadingBreak t ++ writeEscaped true 0 t ++ ['"', '"', '"']
  | .longLiteral =>
    ['\x27', '\x27', '\x27'] ++ leadingBreak t ++ t ++ ['\x27', '\x27', '\x27']

end TableSchema.Toml
