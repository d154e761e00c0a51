import TableSchema.Fault
import TableSchema.Text.Blank
import TableSchema.Text.Nesting

/-!
# Cursors

A cursor is a window on a text: what has been read, what is still **unread**, and what was cut off
at the end.  All moves are made of two, `advance` over the first unread characters and `keep` of the
first unread characters, so the three parts always make up the text, and the window only ever
narrows.

## Main definitions

* `Cursor` — a text in three parts.
* `Cursor.advance`, `Cursor.keep` — the two elementary moves.
* `Cursor.Move`, `Cursor.Answer` — the moves of the public interface, and what they answer.
* `Cursor.run` — makes a move.

## Main results

* `Cursor.text_advance`, `Cursor.text_keep` — the elementary moves keep the text.
-/

namespace TableSchema.Text

/-- A window on a text. -/
structure Cursor where
  /-- What has been read. -/
  before : List Char
  /-- What is still to be read. -/
  unread : List Char
  /-- What has been cut off at the end. -/
  after : List Char
  deriving DecidableEq, Repr

namespace Cursor

/-- The cursor before the whole text. -/
def ofText (t : List Char) : Cursor := ⟨[], t, []⟩

/-- The text that the window is on. -/
def text (c : Cursor) : List Char := c.before ++ c.unread ++ c.after

/-- Whether nothing is left to read. -/
def isEmpty (c : Cursor) : Bool := c.unread.isEmpty

/-! ### Elementary moves -/

/-- Reads the first `n` unread characters, or all of them if there are fewer. -/
def advance (n : Nat) (c : Cursor) : Cursor :=
  { c with before := c.before ++ c.unread.take n, unread := c.unread.drop n }

/-- Cuts the unread text off behind its first `n` characters. -/
def keep (n : Nat) (c : Cursor) : Cursor :=
  { c with unread := c.unread.take n, after := c.unread.drop n ++ c.after }

@[simp] theorem unread_ofText (t : List Char) : (ofText t).unread = t := rfl

@[simp] theorem unread_advance (n : Nat) (c : Cursor) :
    (c.advance n).unread = c.unread.drop n := rfl

@[simp] theorem unread_keep (n : Nat) (c : Cursor) : (c.keep n).unread = c.unread.take n := rfl

/-- Reading on keeps the text. -/
@[simp] theorem text_advance (n : Nat) (c : Cursor) : (c.advance n).text = c.text := by
  simp only [text, advance, List.append_assoc]
  rw [← List.append_assoc (c.unread.take n), List.take_append_drop]

/-- Cutting the window keeps the text. -/
@[simp] theorem text_keep (n : Nat) (c : Cursor) : (c.keep n).text = c.text := by
  simp only [text, keep, List.append_assoc]
  rw [← List.append_assoc (c.unread.take n), List.take_append_drop]

/-! ### Moves -/

/-- Leaves out the blanks at both ends of the unread text. -/
def trim (c : Cursor) : Cursor :=
  let d := c.advance (c.unread.takeWhile isBlank).length
  d.keep (trimEnd d.unread).length

/-- Reads the word at the start and the blanks behind it. -/
def skipWord (c : Cursor) : Cursor :=
  c.advance (c.unread.length - (afterWord c.unread).length)

/-- The moves and questions of the public interface. -/
inductive Move where
  /-- Does the unread text start with this literal? -/
  | startsWith (literal : List Char)
  /-- Read this literal. -/
  | skip (literal : List Char)
  /-- Read this many characters, or all that are left. -/
  | skipChars (count : Nat)
  /-- Read a word and the blanks behind it. -/
  | readWord
  /-- Leave out the outer blanks. -/
  | trim
  /-- At which byte is the closing bracket of the first top-level pair? -/
  | findClose (brackets : Brackets)
  /-- Narrow the window to the inside of the first top-level pair. -/
  | enter (brackets : Brackets)
  /-- At which byte does this character stand first outside the brackets? -/
  | findOutside (target : Char) (brackets : Brackets)
  /-- Read everything, in pieces between the occurrences of a character outside the brackets. -/
  | split (target : Char) (brackets : Brackets)
  /-- What does the unread text look like, cut to this many characters? -/
  | abbreviate (limit : Nat)
  deriving DecidableEq, Repr

/-- What a move answers. -/
inductive Answer where
  /-- The move was made. -/
  | done
  /-- Yes or no. -/
  | truth (value : Bool)
  /-- A piece of text. -/
  | piece (text : List Char)
  /-- Several pieces of text. -/
  | pieces (texts : List (List Char))
  /-- The number of unread bytes before a place, if there is such a place. -/
  | place (offset : Option Nat)
  /-- The move was refused. -/
  | refused (cause : Malformation)
  deriving DecidableEq, Repr

/-- The number of unread bytes before the `i`-th unread character. -/
def offset (c : Cursor) (i : Nat) : Nat := utf8Length (c.unread.take i)

/-- Narrows the window to the inside of the first top-level pair of brackets, without its outer
blanks.  The closing bracket is looked for first, and the text is cut off there before the opening
one is looked for in what is left. -/
def enter (b : Brackets) (c : Cursor) : Answer × Cursor :=
  match b.close? c.unread with
  | none => (.refused (.unbalanced b.opening b.closing (excerpt c.unread)), c)
  | some i =>
    let d := c.keep i
    match b.afterOpening? d.unread with
    | none => (.refused (.unopened b.opening b.closing), d)
    | some j => (.done, (d.advance j).trim)

/-- Makes a move.  A question leaves the cursor as it is. -/
def run (c : Cursor) : Move → Answer × Cursor
  | .startsWith lit => (.truth (afterLiteral? lit c.unread).isSome, c)
  | .skip lit =>
    match afterLiteral? lit c.unread with
    | some _ => (.done, c.advance lit.length)
    | none => (.refused (.expected (String.ofList lit) (excerpt c.unread)), c)
  | .skipChars n => (.done, c.advance n)
  | .readWord => (.piece (word c.unread), c.skipWord)
  | .trim => (.done, c.trim)
  | .findClose b => (.place ((b.close? c.unread).map c.offset), c)
  | .enter b => c.enter b
  | .findOutside target b => (.place ((b.find? target c.unread).map c.offset), c)
  | .split target b =>
    (.pieces ((b.split target c.unread).map Text.trim), c.advance c.unread.length)
  | .abbreviate limit => (.piece (Text.abbreviate limit c.unread), c)

end Cursor

end TableSchema.Text
