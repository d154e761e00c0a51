import TableSchema.Pattern.Tree
import TableSchema.Text.Cut

/-!
# Complaints about patterns

Why a text is no pattern, and how this is shown: the text with its wrong part underlined, and the
cause.  A text of several lines is shown with line numbers between two rules.

## Main definitions

* `Cause`, `Cause.message` — what is wrong, and its wording.
* `Complaint`, `Complaint.render` — what is wrong and where, and how it is shown.
-/

namespace TableSchema.Pattern

/-! ### Causes -/

/-- What is wrong with a pattern. -/
inductive Cause where
  /-- A bracket opens a class, and none closes it. -/
  | classUnclosed
  /-- The first character of a range comes behind its last. -/
  | classRangeReversed
  /-- The end of a range is no character. -/
  | classRangeNoLetter
  /-- An escape that is no character and no class stands in a class. -/
  | classEscape
  /-- A number is too large. -/
  | badNumber
  /-- The braces of a numeric escape are empty. -/
  | hexEmpty
  /-- No character has the number. -/
  | hexNoCharacter
  /-- A hexadecimal digit is expected. -/
  | hexNoDigit
  /-- The text ends within an escape. -/
  | escapeCut
  /-- There is no such escape. -/
  | escapeUnknown
  /-- Nothing follows the sign that switches off. -/
  | switchDangling
  /-- A setting is named twice. -/
  | switchTwice
  /-- The sign that switches off stands twice. -/
  | switchOffTwice
  /-- The text ends among the settings. -/
  | switchCut
  /-- There is no such setting. -/
  | switchUnknown
  /-- Two groups have one name. -/
  | nameTwice
  /-- The name of a group is empty. -/
  | nameEmpty
  /-- The character cannot stand in the name of a group. -/
  | nameBad
  /-- The text ends within the name of a group. -/
  | nameCut
  /-- A bracket opens a group, and none closes it. -/
  | groupUnclosed
  /-- A bracket closes a group, and none opens it. -/
  | groupUnopened
  /-- Parts stand too deep inside each other. -/
  | tooDeep
  /-- More repetitions are asked for at least than at most. -/
  | countReversed
  /-- A number of repetitions is missing. -/
  | countMissing
  /-- A brace opens a number of repetitions, and none closes it. -/
  | countUnclosed
  /-- There is nothing to repeat. -/
  | nothingRepeated
  /-- A brace behind the mark for an edge of a word is not closed, or holds a wrong character. -/
  | edgeUnclosed
  /-- There is no such edge of a word. -/
  | edgeUnknown
  /-- The text ends behind a brace that may say which edge of a word is meant. -/
  | edgeCut
  /-- A property is written wrong. -/
  | propertyBad
  /-- What a group has matched is referred to. -/
  | backReference
  /-- What stands around a match is asked for. -/
  | lookAround
  /-- A character outside ASCII stands where only bytes may. -/
  | notAByte
  /-- Parts of characters could be matched. -/
  | splitsCharacters
  /-- There is no such property. -/
  | propertyUnknown
  /-- There is no such value of a property. -/
  | propertyValueUnknown
  /-- A class with a letter goes beyond ASCII. -/
  | shorthandUnknown
  /-- Letter case outside ASCII is to be ignored. -/
  | caseUnknown
  deriving DecidableEq, Repr

/-- The number of parts that may stand inside each other. -/
def maxDepth : Nat := 250

/-- The wording of a cause. -/
def Cause.message : Cause → String
  | classUnclosed => "unclosed character class"
  | classRangeReversed => "invalid character class range, the start must be <= the end"
  | classRangeNoLetter => "invalid range boundary, must be a literal"
  | classEscape => "invalid escape sequence found in character class"
  | badNumber => "decimal literal invalid"
  | hexEmpty => "hexadecimal literal empty"
  | hexNoCharacter => "hexadecimal literal is not a Unicode scalar value"
  | hexNoDigit => "invalid hexadecimal digit"
  | escapeCut => "incomplete escape sequence, reached end of pattern prematurely"
  | escapeUnknown => "unrecognized escape sequence"
  | switchDangling => "dangling flag negation operator"
  | switchTwice => "duplicate flag"
  | switchOffTwice => "flag negation operator repeated"
  | switchCut => "expected flag but got end of regex"
  | switchUnknown => "unrecognized flag"
  | nameTwice => "duplicate capture group name"
  | nameEmpty => "empty capture group name"
  | nameBad => "invalid capture group character"
  | nameCut => "unclosed capture group name"
  | groupUnclosed => "unclosed group"
  | groupUnopened => "unopened group"
  | tooDeep => s!"exceed the maximum number of nested parentheses/brackets ({maxDepth})"
  | countReversed => "invalid repetition count range, the start must be <= the end"
  | countMissing => "repetition quantifier expects a valid decimal"
  | countUnclosed => "unclosed counted repetition"
  | nothingRepeated => "repetition operator missing expression"
  | edgeUnclosed =>
    "special word boundary assertion is either unclosed or contains an invalid character"
  | edgeUnknown =>
    "unrecognized special word boundary assertion, valid choices are: start, end, start-half or " ++
      "end-half"
  | edgeCut =>
    "found either the beginning of a special word boundary or a bounded repetition on a \\b " ++
      "with an opening brace, but no closing brace"
  | propertyBad => "invalid Unicode character class"
  | backReference => "backreferences are not supported"
  | lookAround => "look-around, including look-ahead and look-behind, is not supported"
  | notAByte => "Unicode not allowed here"
  | splitsCharacters => "pattern can match invalid UTF-8"
  | propertyUnknown => "Unicode property not found"
  | propertyValueUnknown => "Unicode property value not found"
  | shorthandUnknown =>
    "Unicode-aware Perl class not found (make sure the unicode-perl feature is enabled)"
  | caseUnknown =>
    "Unicode-aware case insensitivity matching is not available (make sure the unicode-case " ++
      "feature is enabled)"

/-- What is wrong with a pattern, and where. -/
structure Complaint where
  /-- What is wrong. -/
  cause : Cause
  /-- The part that is wrong. -/
  span : Span
  /-- The earlier part that it does not go with. -/
  earlier : Option Span := none
  deriving DecidableEq, Repr

/-! ### Lines -/

/-- A line without the carriage return before its line feed. -/
def dropReturn (line : List Char) : List Char :=
  if line.getLast? = some '\r' then line.dropLast else line

/-- The lines of a text, without their line breaks.  A line break at the end of the text ends its
last line. -/
def linesOf (t : List Char) : List (List Char) :=
  let pieces := Text.splitAt '\n' t
  let ended := pieces.dropLast.map dropReturn
  match pieces.getLast? with
  | some (c :: line) => ended ++ [c :: line]
  | _ => ended

/-- The line of a place and its column there, both from zero. -/
def position (t : List Char) (place : Nat) : Nat × Nat :=
  (t.take place).foldl
    (fun (line, column) c => if c = '\n' then (line + 1, 0) else (line, column + 1)) (0, 0)

/-- A stretch within one line: the line, and the first and last column. -/
structure Mark where
  /-- The line. -/
  line : Nat
  /-- The column where the stretch starts. -/
  first : Nat
  /-- The column where the stretch ends. -/
  last : Nat

/-- The line of marks under a line: every stretch is underlined, with one mark at least. -/
def underline (column : Nat) : List Mark → List Char
  | [] => []
  | m :: ms =>
    let count := max 1 (m.last - m.first)
    List.replicate (m.first - column) ' ' ++ List.replicate count '^' ++
      underline (max column m.first + count) ms

namespace Complaint

/-- The stretches that a complaint points to, the earlier first. -/
def spans (c : Complaint) : List Span :=
  match c.earlier with
  | some earlier => if earlier.first ≤ c.span.first then [earlier, c.span] else [c.span, earlier]
  | none => [c.span]

/-- The stretches of a complaint that lie within one line each. -/
def marks (t : List Char) (c : Complaint) : List Mark :=
  c.spans.filterMap fun s =>
    let start := position t s.first
    let stop := position t s.last
    if start.1 = stop.1 then some ⟨start.1, start.2, stop.2⟩ else none

/-- What is said about the stretches of a complaint that span lines. -/
def notes (t : List Char) (c : Complaint) : List String :=
  c.spans.filterMap fun s =>
    let start := position t s.first
    let stop := position t s.last
    if start.1 = stop.1 then none
    else
      some <| s!"on line {start.1 + 1} (column {start.2 + 1}) " ++
        s!"through line {stop.1 + 1} (column {stop.2})"

/-- The lines of the text, each with this in front of it and the marks that belong to it. -/
def notated (t : List Char) (c : Complaint) (front : Nat → String) : String :=
  String.join <| (linesOf t).zipIdx.map fun (line, i) =>
    let marks := (c.marks t).filter fun m => m.line = i
    let under :=
      if marks.isEmpty then ""
      else
        String.ofList (List.replicate (front i).length ' ') ++ String.ofList (underline 0 marks) ++
          "\n"
    front i ++ String.ofList line ++ "\n" ++ under

/-- The number of a line with a colon, in a text with this many lines. -/
def lineNumber (count i : Nat) : String :=
  let number := toString (i + 1)
  String.ofList (List.replicate ((toString count).length - number.length) ' ') ++ number ++ ": "

/-- How a complaint about a text is shown. -/
def render (t : List Char) (c : Complaint) : String :=
  let cause := "error: " ++ c.cause.message
  if t.contains '\n' then
    let rule := String.ofList (List.replicate 79 '~') ++ "\n"
    let count := (t.filter (· = '\n')).length + 1
    let notes := c.notes t
    "regex parse error:\n" ++ rule ++ c.notated t (lineNumber count) ++ rule ++
      (if notes.isEmpty then "" else "\n".intercalate notes ++ "\n") ++ cause
  else "regex parse error:\n" ++ c.notated t (fun _ => "    ") ++ cause

end Complaint

end TableSchema.Pattern
