import TableSchema.Pattern.Complaint
import TableSchema.Text.Blank

/-!
# Scanning patterns

The text of a pattern is read from left to right, one character at a time, and reading stops at the
first thing that is wrong.  Blanks and comments are left out where a pattern switches this on.

## Main definitions

* `Scan`, `Scanner` — how far a text is read, and steps of reading.
* `refuse` — the complaint about a stretch.
* `bump`, `advance`, `accept` — reading single characters and given ones.
-/

namespace TableSchema.Pattern

open Text

/-! ### State -/

/-- How far the text of a pattern is read. -/
structure Scan where
  /-- The length of the text. -/
  size : Nat
  /-- What is still to be read. -/
  unread : List Char
  /-- Whether blanks and comments are left out. -/
  spaced : Bool := false
  /-- The names of groups, and where they stand. -/
  names : List (String × Span) := []

/-- A step of reading. -/
abbrev Scanner := StateT Scan (Except Complaint)

/-- How many characters are read. -/
def Scan.place (s : Scan) : Nat := s.size - s.unread.length

/-- How many characters are read. -/
def place : Scanner Nat := return (← get).place

/-- Complains about a stretch. -/
def refuse {α : Type} (cause : Cause) (first last : Nat) : Scanner α :=
  throw { cause, span := ⟨first, last⟩ }

/-- Complains about the next character. -/
def refuseNext {α : Type} (cause : Cause) : Scanner α := do
  refuse cause (← place) ((← place) + 1)

/-- Complains about the place that is reached. -/
def refuseHere {α : Type} (cause : Cause) : Scanner α := do
  refuse cause (← place) (← place)

/-- Complains about everything from a place to the one that is reached. -/
def refuseFrom {α : Type} (cause : Cause) (first : Nat) : Scanner α := do
  refuse cause first (← place)

/-- The next character. -/
def peek? : Scanner (Option Char) := return (← get).unread.head?

/-- Whether this character is next. -/
def isNext (c : Char) : Scanner Bool := return (← peek?) = some c

/-- Whether nothing is left to read. -/
def atEnd : Scanner Bool := return (← get).unread.isEmpty

/-! ### Steps -/

/-- Reads a character. -/
def bump : Scanner Unit := modify fun s => { s with unread := s.unread.drop 1 }

/-- Leaves out blanks and comments, where the first argument tells whether the text starts within a
comment. -/
def afterBlanks : Bool → List Char → List Char
  | _, [] => []
  | true, c :: t => afterBlanks (c ≠ '\n') t
  | false, c :: t =>
    if isBlank c then afterBlanks false t
    else if c = '#' then afterBlanks true t
    else c :: t

/-- Leaves out blanks and comments, if this is switched on. -/
def skipBlanks : Scanner Unit :=
  modify fun s => if s.spaced then { s with unread := afterBlanks false s.unread } else s

/-- Reads a character, and the blanks and comments behind it. -/
def advance : Scanner Unit := do
  bump
  skipBlanks

/-- Reads these characters, if they are next. -/
def accept (literal : String) : Scanner Bool := do
  match afterLiteral? literal.toList (← get).unread with
  | some rest =>
    modify fun s => { s with unread := rest }
    return true
  | none => return false

end TableSchema.Pattern
