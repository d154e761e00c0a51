import TableSchema.Pattern.CharSet

/-!
# Expressions and where they occur

An expression says which stretches of a text it matches.  What it matches may depend on what stands
around the stretch, so a text is looked at as the list of its places: one before each character, and
one at the end.  To find out whether an expression occurs, all its matches are followed at once:
from the places where a match of a part may start to those where it may end.

## Main definitions

* `Place`, `places` — the places of a text.
* `Look` — what can be asked of a place.
* `Expr` — expressions.
* `Expr.ends` — the places where matches end that start at given places.
* `Expr.occursIn` — whether an expression matches some stretch of a text.
* `Expr.weight` — the size of an automaton for an expression.
-/

namespace TableSchema.Pattern

/-! ### Places -/

/-- A place of a text: the characters on its two sides. -/
structure Place where
  /-- The character before the place, unless it is the start of the text. -/
  before : Option Char
  /-- The character behind the place, unless it is the end of the text. -/
  after : Option Char
  deriving DecidableEq, Repr

/-- The places of a text, before which this character stands. -/
def placesFrom (before : Option Char) : List Char → List Place
  | [] => [⟨before, none⟩]
  | c :: t => ⟨before, some c⟩ :: placesFrom (some c) t

/-- The places of a text, from its start to its end. -/
def places (t : List Char) : List Place := placesFrom none t

/-! ### Questions about places -/

/-- What can be asked of a place.  Words are made of ASCII letters, digits and underscores. -/
inductive Look where
  /-- The start of the text. -/
  | textStart
  /-- The end of the text. -/
  | textEnd
  /-- The start of a line, where a line feed ends a line. -/
  | lineStart
  /-- The end of a line, where a line feed ends a line. -/
  | lineEnd
  /-- The start of a line, where a carriage return, a line feed or both together end a line. -/
  | returnLineStart
  /-- The end of a line, where a carriage return, a line feed or both together end a line. -/
  | returnLineEnd
  /-- The start or the end of a word. -/
  | wordEdge
  /-- Neither the start nor the end of a word. -/
  | noWordEdge
  /-- The start of a word. -/
  | wordStart
  /-- The end of a word. -/
  | wordEnd
  /-- No word stands before the place. -/
  | wordStartHalf
  /-- No word stands behind the place. -/
  | wordEndHalf
  /-- Something about words of letters outside ASCII, which this library cannot tell. -/
  | anyWord
  deriving DecidableEq, Repr

/-- Whether there is a character, and it may be part of a word. -/
def inWord : Option Char → Bool
  | some c => AsciiClass.word.set.has c
  | none => false

/-- Whether a place is what is asked for. -/
def Look.holds : Look → Place → Bool
  | .textStart, p => p.before.isNone
  | .textEnd, p => p.after.isNone
  | .lineStart, p => p.before.isNone || p.before = some '\n'
  | .lineEnd, p => p.after.isNone || p.after = some '\n'
  | .returnLineStart, p =>
    p.before.isNone || p.before = some '\n' || (p.before = some '\r' && p.after ≠ some '\n')
  | .returnLineEnd, p =>
    p.after.isNone || p.after = some '\r' || (p.after = some '\n' && p.before ≠ some '\r')
  | .wordEdge, p => inWord p.before ≠ inWord p.after
  | .noWordEdge, p => inWord p.before = inWord p.after
  | .wordStart, p => !inWord p.before && inWord p.after
  | .wordEnd, p => inWord p.before && !inWord p.after
  | .wordStartHalf, p => !inWord p.before
  | .wordEndHalf, p => !inWord p.after
  | .anyWord, _ => false

/-! ### Expressions -/

/-- An expression. -/
inductive Expr where
  /-- Matches the empty stretch everywhere. -/
  | empty
  /-- Matches one character of a set. -/
  | chars (set : CharSet)
  /-- Matches the empty stretch where this holds. -/
  | look (question : Look)
  /-- Matches a match of the one and then a match of the other. -/
  | seq (first second : Expr)
  /-- Matches what either matches. -/
  | either (left right : Expr)
  /-- Matches so many matches in a row: at least `least`, and at most `most` if that is given. -/
  | loop (body : Expr) (least : Nat) (most : Option Nat)
  /-- Matches what its body matches, which stands in brackets. -/
  | group (body : Expr)
  deriving DecidableEq, Repr, Inhabited

namespace Expr

/-- An expression for one after the other. -/
def ofList : List Expr → Expr
  | [] => .empty
  | [e] => e
  | e :: es => .seq e (ofList es)

/-- An expression for any one of several. -/
def anyOf : List Expr → Expr
  | [] => .chars .empty
  | [e] => e
  | e :: es => .either e (anyOf es)

/-! ### Matching -/

/-- Applies a function this many times, or until it changes nothing more. -/
def iterate {α : Type} [DecidableEq α] (f : α → α) : Nat → α → α
  | 0, a => a
  | n + 1, a =>
    let b := f a
    if b = a then a else iterate f n b

/-- The places where matches end that start at one of the places marked, in a text with these
places. -/
def ends (ps : List Place) : Expr → List Bool → List Bool
  | .empty, marks => marks
  | .chars set, marks =>
    false :: (List.zipWith (fun m p => m && p.after.any set.has) marks ps).dropLast
  | .look question, marks => List.zipWith (fun m p => m && question.holds p) marks ps
  | .seq first second, marks => second.ends ps (first.ends ps marks)
  | .either left right, marks => List.zipWith (· || ·) (left.ends ps marks) (right.ends ps marks)
  | .loop body least most, marks =>
    let further := match most with
      | some n => n - least
      | none => ps.length
    iterate (fun ms => List.zipWith (· || ·) ms (body.ends ps ms)) further
      (iterate (body.ends ps) least marks)
  | .group body, marks => body.ends ps marks

/-- Whether an expression matches some stretch of a text. -/
def occursIn (e : Expr) (t : List Char) : Bool :=
  (e.ends (places t) (List.replicate (t.length + 1) true)).any id

/-! ### Size -/

/-- The size in bytes of the part of an automaton that matches a character of a set. -/
def setWeight (s : CharSet) : Nat :=
  match s.ranges with
  | [(n, m)] => if n = m then 32 * (Char.ofNat n).utf8Size else if m < 128 then 72 else 1000
  | rs => if s.isAscii then 64 + 8 * rs.length else 1000

/-- Whether an expression matches empty stretches alone. -/
def matchesOnlyEmpty : Expr → Bool
  | .empty => true
  | .chars _ => false
  | .look _ => true
  | .seq first second => first.matchesOnlyEmpty && second.matchesOnlyEmpty
  | .either left right => left.matchesOnlyEmpty && right.matchesOnlyEmpty
  | .loop body _ _ => body.matchesOnlyEmpty
  | .group body => body.matchesOnlyEmpty

/-- The size in bytes of an automaton for an expression, in which a body that has to be matched
several times stands as many times, unless this changes nothing. -/
def weight : Expr → Nat
  | .empty => 32
  | .chars set => setWeight set
  | .look _ => 32
  | .seq first second => first.weight + second.weight
  | .either left right => left.weight + right.weight + 36
  | .loop body least most =>
    if body.matchesOnlyEmpty then body.weight + 40
    else
      match most with
      | some n => least * body.weight + (n - least) * (body.weight + 40)
      | none => max least 1 * body.weight + 40
  | .group body => body.weight + 64

/-- Whether an expression asks for words of letters outside ASCII. -/
def asksAnyWord : Expr → Bool
  | .look question => question = .anyWord
  | .seq first second => first.asksAnyWord || second.asksAnyWord
  | .either left right => left.asksAnyWord || right.asksAnyWord
  | .loop body _ most => most ≠ some 0 && body.asksAnyWord
  | .group body => body.asksAnyWord
  | _ => false

end Expr

end TableSchema.Pattern
