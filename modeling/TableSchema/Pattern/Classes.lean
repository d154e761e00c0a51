import TableSchema.Pattern.Escapes

/-!
# Classes in patterns

A class in brackets lists characters, ranges and other classes.  The two sides of a doubled mark are
classes on which an operation is carried out; several operations go from left to right.

## Main definitions

* `namedClass?` — reads a class with a name.
* `readRange` — reads a character or a range.
* `readClass` — reads a class in brackets.
-/

namespace TableSchema.Pattern

open Text

/-! ### Items -/

/-- The class with a name between brackets and colons at the start of the text, and the text behind
it. -/
def namedClass? (t : List Char) : Option (Bool × AsciiClass × List Char) :=
  match afterLiteral? ['[', ':'] t with
  | none => none
  | some r =>
    let name := (afterLiteral? ['^'] r).getD r
    match afterLiteral? [':', ']'] (name.dropWhile (· ≠ ':')) with
    | none => none
    | some rest =>
      (AsciiClass.named.lookup (String.ofList (name.takeWhile (· ≠ ':')))).map fun cls =>
        (r.head? = some '^', cls, rest)

/-- Reads an item of a class: an escape, or a character that stands for itself. -/
def readItem : Scanner Tree := do
  match ← peek? with
  | some '\\' => readEscape
  | c? =>
    let first ← place
    bump
    return .letter ⟨first, first + 1⟩ { char := c?.getD '\x00' }

/-- The item as part of a class. -/
def classItem : Tree → Scanner ClassTree
  | .letter span l => return .letter span l
  | .property span negated name => return .property span negated name
  | .shorthand span negated name => return .shorthand span negated name
  | item => refuse .classEscape item.span.first item.span.last

/-- The item as an end of a range. -/
def rangeEnd : Tree → Scanner (Span × Letter)
  | .letter span l => return (span, l)
  | item => refuse .classRangeNoLetter item.span.first item.span.last

/-- The character behind the next one, where blanks and the mark of a comment are passed over if
they are left out. -/
def peekBeyond? : Scanner (Option Char) := do
  let s ← get
  let rest := s.unread.drop 1
  if s.spaced then
    match rest.dropWhile isBlank with
    | '#' :: r => return (r.dropWhile isBlank).head?
    | r => return r.head?
  else return rest.head?

/-- Reads an item or a range of a class, whose opening stands here. -/
def readRange (opening : Span) : Scanner ClassTree := do
  let first ← readItem
  skipBlanks
  if ← atEnd then refuse .classUnclosed opening.first opening.last
  let beyond ← peekBeyond?
  if !(← isNext '-') || beyond = some ']' || beyond = some '-' then classItem first
  else
    advance
    if ← atEnd then refuse .classUnclosed opening.first opening.last
    let last ← readItem
    let low ← rangeEnd first
    let high ← rangeEnd last
    if high.2.char < low.2.char then refuse .classRangeReversed low.1.first high.1.last
    return .range low high

/-! ### Classes in brackets -/

/-- The operation on classes whose mark, doubled, is this character. -/
def operation? (c : Char) : Option ClassOperation :=
  [('&', ClassOperation.inter), ('-', .diff), ('~', .symmDiff)].lookup c

/-- Reads the hyphens at the start of a class, which stand for themselves.  The first argument
bounds their number. -/
def readHyphens (first : Nat) : Nat → List ClassTree → Scanner (List ClassTree)
  | 0, items => return items
  | n + 1, items => do
    if ← isNext '-' then
      let here ← place
      advance
      if ← atEnd then refuse .classUnclosed first first
      readHyphens first n (.letter ⟨here, here + 1⟩ { char := '-' } :: items)
    else return items

/-- What an operation and its sides so far make with a further class. -/
def operate (left : Option (ClassTree × ClassOperation)) (right : ClassTree) : ClassTree :=
  match left with
  | some (left, op) => .operation op left right
  | none => right

mutual

/-- Reads a class in brackets.  The first argument bounds the number of steps. -/
def readClass : Nat → Scanner (Span × Bool × ClassTree)
  | 0 => refuseHere .classUnclosed
  | n + 1 => do
    let first ← place
    advance
    if ← atEnd then refuseFrom .classUnclosed first
    let negated ← isNext '^'
    if negated then
      advance
      if ← atEnd then refuseFrom .classUnclosed first
    let start ← place
    let items ← readHyphens first (← get).unread.length []
    let here ← place
    if items.isEmpty && (← isNext ']') then
      advance
      if ← atEnd then refuseFrom .classUnclosed first
      let items := [.letter ⟨here, here + 1⟩ { char := ']' }]
      let inside ← readClassItems n ⟨first, ← place⟩ none start items
      return (⟨first, ← place⟩, negated, inside)
    else
      let inside ← readClassItems n ⟨first, here⟩ none start items
      return (⟨first, ← place⟩, negated, inside)

/-- Reads the items of a class up to its closing bracket: the operation that waits for its right
side, the place where the items of that side start, and these items, the last of them first. -/
def readClassItems : Nat → (opening : Span) → Option (ClassTree × ClassOperation) → (start : Nat) →
    List ClassTree → Scanner ClassTree
  | 0, opening, _, _, _ => refuse .classUnclosed opening.first opening.last
  | n + 1, opening, left, start, items => do
    skipBlanks
    match (← get).unread with
    | [] => refuse .classUnclosed opening.first opening.last
    | ']' :: _ =>
      bump
      return operate left (.ofItems start items)
    | '[' :: r =>
      let first ← place
      match namedClass? ('[' :: r) with
      | some (negated, name, rest) =>
        modify fun s => { s with unread := rest }
        readClassItems n opening left start (.named ⟨first, ← place⟩ negated name :: items)
      | none =>
        let (span, negated, inside) ← readClass n
        readClassItems n opening left start (.bracketed span negated inside :: items)
    | c :: r =>
      match operation? c with
      | some op =>
        if r.head? = some c then
          bump
          bump
          let whole := operate left (.ofItems start items)
          readClassItems n opening (some (whole, op)) (← place) []
        else
          let item ← readRange opening
          readClassItems n opening left start (item :: items)
      | none =>
        let item ← readRange opening
        readClassItems n opening left start (item :: items)

end

end TableSchema.Pattern
