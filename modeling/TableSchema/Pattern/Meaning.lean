import TableSchema.Pattern.Expr
import TableSchema.Pattern.Reader

/-!
# The meaning of patterns

Makes an expression of the tree of a pattern.  What letters, points, classes and marks for places
mean depends on the settings where they stand.  Settings hold from where they are switched to the
end of the group around them, also across its alternatives.

Two kinds of patterns cannot be understood.  Where letters and classes go beyond ASCII, this library
has no tables for properties, for classes with a letter of their own, for edges of words and for
letter case; and where they do not, nothing may match a part of a character.

## Main definitions

* `Mode`, `Mode.switch` — the settings that matter for the meaning.
* `ClassTree.set`, `Tree.mean` — the meaning of classes and of patterns.
* `Refusal` — why a text is no pattern that can be searched for.
* `Expr.ofText` — the expression that the text of a pattern stands for.
-/

namespace TableSchema.Pattern

/-! ### Settings -/

/-- The settings that matter for the meaning. -/
structure Mode where
  /-- Letters stand for both of their cases. -/
  ignoreCase : Bool := false
  /-- The marks for the start and the end are about lines. -/
  lines : Bool := false
  /-- The point also stands for line breaks. -/
  wholeText : Bool := false
  /-- Letters and classes go beyond ASCII. -/
  unicode : Bool := true
  /-- A carriage return ends a line too. -/
  returns : Bool := false
  deriving DecidableEq, Repr

/-- The settings behind some switches. -/
def Mode.switch (m : Mode) (s : Switches) : Mode where
  ignoreCase := (s.state? .ignoreCase).getD m.ignoreCase
  lines := (s.state? .lines).getD m.lines
  wholeText := (s.state? .wholeText).getD m.wholeText
  unicode := (s.state? .unicode).getD m.unicode
  returns := (s.state? .returns).getD m.returns

/-! ### Classes -/

/-- Refuses a part of a pattern. -/
def refuseAt {α : Type} (cause : Cause) (span : Span) : Except Complaint α :=
  .error { cause, span }

/-- The set with both cases of its letters, if case is ignored. -/
def fold (m : Mode) (span : Span) (s : CharSet) : Except Complaint CharSet :=
  if !m.ignoreCase then .ok s
  else if !m.unicode then .ok s.foldAscii
  else if s = .empty ∨ s = .all then .ok s
  else refuseAt .caseUnknown span

/-- The set of a class or of its complement. -/
def negate (m : Mode) (span : Span) (negated : Bool) (s : CharSet) : Except Complaint CharSet :=
  if !negated then .ok s
  else if m.unicode then .ok s.compl
  else refuseAt .splitsCharacters span

/-- The set of a class or of its complement, where case is ignored before this. -/
def foldAndNegate (m : Mode) (span : Span) (negated : Bool) (s : CharSet) :
    Except Complaint CharSet :=
  match fold m span s with
  | .error c => .error c
  | .ok s => negate m span negated s

/-- Refuses a character that is written as a byte and is none of ASCII, where only ASCII goes. -/
def checkByte (m : Mode) (span : Span) (l : Letter) : Except Complaint Unit :=
  if !m.unicode && l.byte && 128 ≤ l.char.toNat then refuseAt .splitsCharacters span else .ok ()

/-- The code point of a character in a class. -/
def classCode (m : Mode) (span : Span) (l : Letter) : Except Complaint Nat :=
  match checkByte m span l with
  | .error c => .error c
  | .ok () =>
    if !m.unicode && 128 ≤ l.char.toNat then refuseAt .notAByte span else .ok l.char.toNat

/-- The set of a class with a letter of its own, or of its complement. -/
def shorthandSet (m : Mode) (span : Span) (negated : Bool) (name : Shorthand) :
    Except Complaint CharSet :=
  if m.unicode then refuseAt .shorthandUnknown span
  else
    negate m span negated <| match name with
      | .digit => AsciiClass.digit.set
      | .space => AsciiClass.space.set
      | .word => AsciiClass.word.set

/-- The name of a property as names are compared: in small letters, without blanks, underscores,
hyphens and a leading `is`. -/
def propertyKey (name : String) : String :=
  let lower := name.toList.map Char.toLower
  let rest := (Text.afterLiteral? ['i', 's'] lower).getD lower
  String.ofList (rest.filter fun c => c.toNat < 128 && c ≠ ' ' && c ≠ '_' && c ≠ '-')

/-- Refuses a property.  Three names are those of values first, and of properties only then. -/
def propertySet (m : Mode) (span : Span) (name : String) : Except Complaint CharSet :=
  if !m.unicode then refuseAt .notAByte span
  else if ["cf", "sc", "lc"].contains (propertyKey name) then refuseAt .propertyValueUnknown span
  else refuseAt .propertyUnknown span

/-- What an operation makes of two sets. -/
def ClassOperation.apply : ClassOperation → CharSet → CharSet → CharSet
  | .inter, s, t => s.inter t
  | .diff, s, t => s.diff t
  | .symmDiff, s, t => s.symmDiff t

mutual

/-- The set of the inside of a class. -/
def ClassTree.set (m : Mode) : ClassTree → Except Complaint CharSet
  | .empty _ => .ok .empty
  | .letter span l => do
    let n ← classCode m span l
    return .ofRanges [(n, n)]
  | .range first last => do
    let low ← classCode m first.1 first.2
    let high ← classCode m last.1 last.2
    return .ofRanges [(low, high)]
  | .named span negated name => foldAndNegate m span negated name.set
  | .property span _ name => propertySet m span name
  | .shorthand span negated name => shorthandSet m span negated name
  | .bracketed span negated inside => do
    let s ← inside.set m
    foldAndNegate m span negated s
  | .union _ items => do
    let sets ← setsOf m items
    return .ofRanges (sets.flatMap CharSet.ranges)
  | .operation op left right => do
    let s ← left.set m
    let t ← right.set m
    let t ← fold m right.span t
    let s ← fold m left.span s
    return op.apply s t

/-- The sets of the items of a class. -/
def setsOf (m : Mode) : List ClassTree → Except Complaint (List CharSet)
  | [] => .ok []
  | item :: items => do
    let s ← item.set m
    let rest ← setsOf m items
    return s :: rest

end

/-! ### Patterns -/

/-- The meaning of a character. -/
def letterMeaning (m : Mode) (span : Span) (l : Letter) : Except Complaint Expr :=
  match checkByte m span l with
  | .error c => .error c
  | .ok () =>
    if !m.ignoreCase then .ok (.chars (.single l.char))
    else if m.unicode then refuseAt .caseUnknown span
    else .ok (.chars (CharSet.single l.char).foldAscii)

/-- The meaning of the point. -/
def pointMeaning (m : Mode) (span : Span) : Except Complaint Expr :=
  if !m.unicode then refuseAt .splitsCharacters span
  else if m.wholeText then .ok (.chars .all)
  else if m.returns then .ok (.chars (CharSet.compl ⟨[(10, 10), (13, 13)]⟩))
  else .ok (.chars (CharSet.single '\n').compl)

/-- What a mark asks of a place. -/
def Assertion.question (m : Mode) : Assertion → Look
  | .start => if !m.lines then .textStart else if m.returns then .returnLineStart else .lineStart
  | .stop => if !m.lines then .textEnd else if m.returns then .returnLineEnd else .lineEnd
  | .textStart => .textStart
  | .textStop => .textEnd
  | .wordEdge => if m.unicode then .anyWord else .wordEdge
  | .noWordEdge => if m.unicode then .anyWord else .noWordEdge
  | .wordStart => if m.unicode then .anyWord else .wordStart
  | .wordStop => if m.unicode then .anyWord else .wordEnd
  | .wordStartHalf => if m.unicode then .anyWord else .wordStartHalf
  | .wordStopHalf => if m.unicode then .anyWord else .wordEndHalf

mutual

/-- The meaning of a pattern where these settings hold, and the settings behind it. -/
def Tree.mean (m : Mode) : Tree → Except Complaint (Expr × Mode)
  | .empty _ => .ok (.empty, m)
  | .switches _ s => .ok (.empty, m.switch s)
  | .letter span l => (letterMeaning m span l).map fun e => (e, m)
  | .point span => (pointMeaning m span).map fun e => (e, m)
  | .assertion _ a => .ok (.look (a.question m), m)
  | .property span _ name => (propertySet m span name).map fun s => (.chars s, m)
  | .shorthand span negated name => (shorthandSet m span negated name).map fun s => (.chars s, m)
  | .bracketed span negated inside => do
    let s ← inside.set m
    let s ← foldAndNegate m span negated s
    return (.chars s, m)
  | .repetition _ least most body => do
    let (e, m) ← body.mean m
    return (.loop e least most, m)
  | .group _ remembers s body => do
    let (e, _) ← body.mean (m.switch s)
    return (if remembers then .group e else e, m)
  | .alternation _ branches => do
    let (es, m) ← meanAll m branches
    return (.anyOf es, m)
  | .concat _ items => do
    let (es, m) ← meanAll m items
    return (.ofList es, m)

/-- The meanings of patterns, where the settings behind one hold in the next. -/
def meanAll (m : Mode) : List Tree → Except Complaint (List Expr × Mode)
  | [] => .ok ([], m)
  | t :: ts => do
    let (e, m) ← t.mean m
    let (es, m) ← meanAll m ts
    return (e :: es, m)

end

/-! ### Texts -/

/-- The size in bytes that an automaton for a pattern may have. -/
def maxWeight : Nat := 10485760

/-- The size in bytes of what an automaton has for every pattern. -/
def baseWeight : Nat := 208

/-- Why a text is no pattern that can be searched for. -/
inductive Refusal where
  /-- A part of it is wrong. -/
  | complaint (text : List Char) (complaint : Complaint)
  /-- It is too large. -/
  | tooLarge
  /-- It asks for edges of words of letters outside ASCII. -/
  | anyWord
  deriving DecidableEq, Repr

/-- The wording of a refusal. -/
def Refusal.message : Refusal → String
  | .complaint text c => c.render text
  | .tooLarge => s!"Compiled regex exceeds size limit of {maxWeight} bytes."
  | .anyWord => "error building NFA"

/-- The expression that the text of a pattern stands for. -/
def Expr.ofText (t : List Char) : Except Refusal Expr :=
  match (readTree t).bind (Tree.mean {}) with
  | .error c => .error (.complaint t c)
  | .ok (e, _) =>
    if maxWeight < baseWeight + e.weight then .error .tooLarge
    else if e.asksAnyWord then .error .anyWord
    else .ok e

end TableSchema.Pattern
