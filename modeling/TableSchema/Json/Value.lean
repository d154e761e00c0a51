import TableSchema.Text.Hex

/-!
# JSON values and their print

Values of the JSON data format, as far as this library tells them apart: the value of a number
plays no part, so all numbers are one.  The print has one item to a line and indents by two blanks
for every level.

## Main definitions

* `Value` — JSON values.
* `quote` — a text between quotation marks, with escapes where they are required.
* `Value.print` — the print of a value.
-/

namespace TableSchema.Json

open Text

/-- A JSON value.  A string that holds an unpaired half of a surrogate pair is no text; `none`
stands for all such strings. -/
inductive Value where
  /-- The literal `null`. -/
  | null
  /-- A truth value. -/
  | bool (value : Bool)
  /-- A number. -/
  | number
  /-- A string. -/
  | string (text : Option String)
  /-- An array. -/
  | array (items : List Value)
  /-- An object: its members in order, repeated names included. -/
  | object (members : List (Option String × Value))
  deriving Repr, Inhabited

/-! ### Strings -/

/-- How a character is written between quotation marks.  Only the quotation mark, the backslash and
control characters are escaped. -/
def escape (c : Char) : List Char :=
  if c = '"' then ['\\', '"']
  else if c = '\\' then ['\\', '\\']
  else if c = '\n' then ['\\', 'n']
  else if c = '\r' then ['\\', 'r']
  else if c = '\t' then ['\\', 't']
  else if c = '\x08' then ['\\', 'b']
  else if c = '\x0c' then ['\\', 'f']
  else if c.toNat < 0x20 then
    ['\\', 'u', '0', '0', lowerHexDigit (c.toNat / 16), lowerHexDigit (c.toNat % 16)]
  else [c]

/-- The text between quotation marks. -/
def quote (t : List Char) : List Char :=
  '"' :: t.flatMap escape ++ ['"']

/-- The print of a string; one that is no text is printed as a lone half of a pair. -/
def quoteText : Option String → List Char
  | some t => quote t.toList
  | none => "\"\\ud800\"".toList

/-! ### Values -/

/-- A line break and the blanks of this level. -/
def newline (level : Nat) : List Char :=
  '\n' :: List.replicate (2 * level) ' '

mutual

/-- The print of a value that stands on this level. -/
def Value.printAt (level : Nat) : Value → List Char
  | .null => "null".toList
  | .bool true => "true".toList
  | .bool false => "false".toList
  | .number => "0".toList
  | .string t => quoteText t
  | .array [] => "[]".toList
  | .array (v :: vs) =>
    '[' :: newline (level + 1) ++ v.printAt (level + 1) ++ printItems (level + 1) vs ++
      newline level ++ [']']
  | .object [] => ['\x7b', '\x7d']
  | .object ((k, v) :: ms) =>
    '\x7b' :: newline (level + 1) ++ quoteText k ++ [':', ' '] ++ v.printAt (level + 1) ++
      printMembers (level + 1) ms ++ newline level ++ ['\x7d']

/-- The print of the items behind the first, each with the comma before it. -/
def printItems (level : Nat) : List Value → List Char
  | [] => []
  | v :: vs => ',' :: newline level ++ v.printAt level ++ printItems level vs

/-- The print of the members behind the first, each with the comma before it. -/
def printMembers (level : Nat) : List (Option String × Value) → List Char
  | [] => []
  | (k, v) :: ms =>
    ',' :: newline level ++ quoteText k ++ [':', ' '] ++ v.printAt level ++ printMembers level ms

end

/-- The print of a value. -/
def Value.print (v : Value) : String :=
  String.ofList (v.printAt 0)

end TableSchema.Json
