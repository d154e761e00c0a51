import TableSchema.Pattern.CharSet

/-!
# Written patterns

The tree of a pattern as it is written: every part with the stretch of the text on which it stands,
since refusals point there.  What a part means may depend on the settings that are switched on
before it, so letters and classes are kept as they are written.

## Main definitions

* `Span` — a stretch of the text of a pattern.
* `Setting`, `Switches` — what can be switched on and off, and how a pattern does it.
* `ClassTree`, `Tree` — classes of characters, and patterns.
* `Tree.tooDeep?` — where parts stand too deep inside each other.
-/

namespace TableSchema.Pattern

/-- A stretch of the text of a pattern.  Places are counted in characters. -/
structure Span where
  /-- The place where it starts. -/
  first : Nat
  /-- The place where it ends. -/
  last : Nat
  deriving DecidableEq, Repr, Inhabited

/-! ### Settings -/

/-- What a pattern can switch on and off. -/
inductive Setting where
  /-- Letters stand for both of their cases. -/
  | ignoreCase
  /-- The marks for the start and the end are about lines. -/
  | lines
  /-- The point also stands for line breaks. -/
  | wholeText
  /-- Repetitions prefer few matches to many. -/
  | lazy
  /-- Letters and classes go beyond ASCII. -/
  | unicode
  /-- A carriage return ends a line too. -/
  | returns
  /-- Blanks and comments are left out. -/
  | spaced
  deriving DecidableEq, Repr

/-- The letter of a setting. -/
def Setting.ofLetter? (c : Char) : Option Setting :=
  [('i', ignoreCase), ('m', lines), ('s', wholeText), ('U', lazy), ('u', unicode), ('R', returns),
    ('x', spaced)].lookup c

/-- How a pattern switches settings: which are named, where `none` is the sign that those behind it
are switched off. -/
abbrev Switches := List (Option Setting)

/-- What the switches say about a setting, if they name it. -/
def Switches.state? (s : Setting) : Switches → Option Bool
  | [] => none
  | none :: rest => if rest.contains (some s) then some false else none
  | some r :: rest => if r = s then some true else state? s rest

/-! ### Classes -/

/-- Classes with a letter of their own. -/
inductive Shorthand where
  /-- Digits. -/
  | digit
  /-- Blanks and line breaks. -/
  | space
  /-- What words are made of. -/
  | word
  deriving DecidableEq, Repr

/-- A character as it is written. -/
structure Letter where
  /-- The character. -/
  char : Char
  /-- Whether it is written as a number of two hexadecimal digits. -/
  byte : Bool := false
  deriving DecidableEq, Repr, Inhabited

/-- The operations on classes. -/
inductive ClassOperation where
  /-- What is in both. -/
  | inter
  /-- What is in the first alone. -/
  | diff
  /-- What is in one alone. -/
  | symmDiff
  deriving DecidableEq, Repr

/-- The inside of a class in brackets. -/
inductive ClassTree where
  /-- Nothing. -/
  | empty (span : Span)
  /-- A character. -/
  | letter (span : Span) (letter : Letter)
  /-- The characters from a first to a last one. -/
  | range (first : Span × Letter) (last : Span × Letter)
  /-- A class with a name, or its complement. -/
  | named (span : Span) (negated : Bool) (name : AsciiClass)
  /-- The characters with a property, or those without it. -/
  | property (span : Span) (negated : Bool) (name : String)
  /-- A class with a letter, or its complement. -/
  | shorthand (span : Span) (negated : Bool) (name : Shorthand)
  /-- A class in brackets, or its complement. -/
  | bracketed (span : Span) (negated : Bool) (inside : ClassTree)
  /-- Several items. -/
  | union (span : Span) (items : List ClassTree)
  /-- An operation on two classes. -/
  | operation (op : ClassOperation) (left right : ClassTree)
  deriving Repr, Inhabited

/-- Where a class stands. -/
def ClassTree.span : ClassTree → Span
  | .empty span => span
  | .letter span _ => span
  | .range first last => ⟨first.1.first, last.1.last⟩
  | .named span _ _ => span
  | .property span _ _ => span
  | .shorthand span _ _ => span
  | .bracketed span _ _ => span
  | .union span _ => span
  | .operation _ left right => ⟨left.span.first, right.span.last⟩

/-- The class of several items, the last of which comes first; if there are none, it stands at the
place given. -/
def ClassTree.ofItems (place : Nat) (items : List ClassTree) : ClassTree :=
  match items, items.reverse with
  | [], _ => .empty ⟨place, place⟩
  | [item], _ => item
  | last :: _, all => .union ⟨(all.head?.map fun i => i.span.first).getD place, last.span.last⟩ all

/-! ### Patterns -/

/-- What a pattern can ask of a place. -/
inductive Assertion where
  /-- The start of the text or of a line. -/
  | start
  /-- The end of the text or of a line. -/
  | stop
  /-- The start of the text. -/
  | textStart
  /-- The end of the text. -/
  | textStop
  /-- The start or the end of a word. -/
  | wordEdge
  /-- Neither the start nor the end of a word. -/
  | noWordEdge
  /-- The start of a word. -/
  | wordStart
  /-- The end of a word. -/
  | wordStop
  /-- No word stands before the place. -/
  | wordStartHalf
  /-- No word stands behind the place. -/
  | wordStopHalf
  deriving DecidableEq, Repr

/-- A pattern as it is written. -/
inductive Tree where
  /-- Nothing. -/
  | empty (span : Span)
  /-- Settings for what follows. -/
  | switches (span : Span) (switches : Switches)
  /-- A character. -/
  | letter (span : Span) (letter : Letter)
  /-- The point, which stands for any character. -/
  | point (span : Span)
  /-- A question about a place. -/
  | assertion (span : Span) (assertion : Assertion)
  /-- A character with a property, or one without it. -/
  | property (span : Span) (negated : Bool) (name : String)
  /-- A character of a class with a letter, or of its complement. -/
  | shorthand (span : Span) (negated : Bool) (name : Shorthand)
  /-- A character of a class in brackets, or of its complement. -/
  | bracketed (span : Span) (negated : Bool) (inside : ClassTree)
  /-- A repetition. -/
  | repetition (span : Span) (least : Nat) (most : Option Nat) (body : Tree)
  /-- A group, with settings for its inside.  It remembers what it matches unless it has a place for
  settings. -/
  | group (span : Span) (remembers : Bool) (switches : Switches) (body : Tree)
  /-- Any one of several. -/
  | alternation (span : Span) (branches : List Tree)
  /-- One after the other. -/
  | concat (span : Span) (items : List Tree)
  deriving Repr, Inhabited

/-- Where a part of a pattern stands. -/
def Tree.span : Tree → Span
  | .empty span => span
  | .switches span _ => span
  | .letter span _ => span
  | .point span => span
  | .assertion span _ => span
  | .property span _ _ => span
  | .shorthand span _ _ => span
  | .bracketed span _ _ => span
  | .repetition span _ _ _ => span
  | .group span _ _ _ => span
  | .alternation span _ => span
  | .concat span _ => span

/-- One item after the other, on this stretch. -/
def Tree.ofItems (span : Span) : List Tree → Tree
  | [] => .empty span
  | [item] => item
  | items => .concat span items

/-- Any one of several branches, on this stretch. -/
def Tree.ofBranches (span : Span) : List Tree → Tree
  | [branch] => branch
  | branches => .alternation span branches

/-! ### Depth -/

mutual

/-- The first part of a class that stands inside more others than there is room for. -/
def ClassTree.tooDeep? : (room : Nat) → ClassTree → Option Span
  | 0, .bracketed span _ _ => some span
  | 0, .union span _ => some span
  | 0, .operation _ left right => some ⟨left.span.first, right.span.last⟩
  | room + 1, .bracketed _ _ inside => inside.tooDeep? room
  | room + 1, .union _ items => anyTooDeepClass? room items
  | room + 1, .operation _ left right => (left.tooDeep? room).or (right.tooDeep? room)
  | _, _ => none

/-- The first part of several classes that stands inside more others than there is room for. -/
def anyTooDeepClass? : (room : Nat) → List ClassTree → Option Span
  | _, [] => none
  | room, item :: items => (item.tooDeep? room).or (anyTooDeepClass? room items)

end

mutual

/-- The first part of a pattern that stands inside more others than there is room for. -/
def Tree.tooDeep? : (room : Nat) → Tree → Option Span
  | 0, .bracketed span _ _ => some span
  | 0, .repetition span _ _ _ => some span
  | 0, .group span _ _ _ => some span
  | 0, .alternation span _ => some span
  | 0, .concat span _ => some span
  | room + 1, .bracketed _ _ inside => inside.tooDeep? room
  | room + 1, .repetition _ _ _ body => body.tooDeep? room
  | room + 1, .group _ _ _ body => body.tooDeep? room
  | room + 1, .alternation _ branches => anyTooDeep? room branches
  | room + 1, .concat _ items => anyTooDeep? room items
  | _, _ => none

/-- The first part of several patterns that stands inside more others than there is room for. -/
def anyTooDeep? : (room : Nat) → List Tree → Option Span
  | _, [] => none
  | room, item :: items => (item.tooDeep? room).or (anyTooDeep? room items)

end

end TableSchema.Pattern
