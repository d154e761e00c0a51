import TableSchema.Pattern.Classes
import TableSchema.Text.Letters

/-!
# Reading patterns

Reads the tree of a pattern from its text: alternatives of items, each of them a character, a class,
a question about a place or a group, and perhaps repeated.

## Main definitions

* `readRepetition`, `readCounted` — read what says how often an item is repeated.
* `readOpening` — reads the start of a group.
* `readBranches`, `readGroup` — read alternatives and groups.
* `readTree` — reads a pattern.
-/

namespace TableSchema.Pattern

open Text

/-! ### Repetitions -/

/-- Reads decimal digits.  The first argument bounds their number. -/
def readDigits : Nat → Scanner (List Char)
  | 0 => return []
  | n + 1 => do
    match ← peek? with
    | some c =>
      if c.isDigit then
        advance
        return c :: (← readDigits n)
      else return []
    | none => return []

/-- Leaves out blanks, and comments behind them if this is switched on. -/
def skipAround : Scanner Unit :=
  modify fun s =>
    match s.unread with
    | [] => s
    | c :: t =>
      if isBlank c then
        { s with unread := if s.spaced then afterBlanks false t else t.dropWhile isBlank }
      else s

/-- Reads a number, around which blanks may stand.  What is wrong with it is told only where the
number is needed. -/
def readCount : Scanner (Except Complaint Nat) := do
  modify fun s => { s with unread := s.unread.dropWhile isBlank }
  let first ← place
  let digits ← readDigits (← get).unread.length
  let span := ⟨first, ← place⟩
  skipAround
  let n := digits.foldl (fun n c => n * 10 + (c.toNat - '0'.toNat)) 0
  if digits = [] then return .error { cause := .countMissing, span }
  else if n < UInt32.size then return .ok n
  else return .error { cause := .badNumber, span }

/-- The number, if nothing is wrong with it. -/
def needed : Except Complaint Nat → Scanner Nat
  | .ok n => return n
  | .error c => throw c

/-- What a repetition is about: the last item. -/
def lastItem : List Tree → Scanner (Tree × List Tree)
  | [] => refuseHere .nothingRepeated
  | .switches _ _ :: _ => refuseHere .nothingRepeated
  | item :: rest => return (item, rest)

/-- Reads the mark of a repetition, and perhaps the one that makes it lazy. -/
def readRepetition (least : Nat) (most : Option Nat) (items : List Tree) : Scanner (List Tree) := do
  let (body, rest) ← lastItem items
  bump
  if ← isNext '?' then bump
  return .repetition ⟨body.span.first, ← place⟩ least most body :: rest

/-- Reads a repetition with numbers in braces. -/
def readCounted (items : List Tree) : Scanner (List Tree) := do
  let first ← place
  let (body, rest) ← lastItem items
  advance
  if ← atEnd then refuseFrom .countUnclosed first
  let count ← readCount
  if ← atEnd then refuseFrom .countUnclosed first
  let (least, most) ←
    if ← isNext ',' then do
      advance
      if ← atEnd then refuseFrom .countUnclosed first
      let unbounded ← isNext '\x7d'
      let least ← needed count
      if unbounded then pure (least, none)
      else
        let most ← needed (← readCount)
        pure (least, some most)
    else
      let n ← needed count
      pure (n, some n)
  if !(← isNext '\x7d') then refuseFrom .countUnclosed first
  advance
  if ← isNext '?' then bump
  if most.any (· < least) then refuseFrom .countReversed first
  return .repetition ⟨body.span.first, ← place⟩ least most body :: rest

/-! ### Groups -/

/-- Reads settings up to the mark that ends them.  The first argument bounds their number; those
that are read already come with their places. -/
def readSwitches : Nat → List (Option Setting × Nat) → Scanner Switches
  | 0, _ => refuseHere .switchCut
  | n + 1, found => do
    let here ← place
    match ← peek? with
    | none => refuseHere .switchCut
    | some c =>
      if c = ':' || c = ')' then
        match found.getLast? with
        | some (none, sign) => refuse .switchDangling sign (sign + 1)
        | _ => return found.map Prod.fst
      else
        let setting ← if c = '-' then pure none else
          match Setting.ofLetter? c with
          | some s => pure (some s)
          | none => refuseNext .switchUnknown
        match found.lookup setting with
        | some earlier =>
          let cause := if setting.isNone then Cause.switchOffTwice else .switchTwice
          throw ⟨cause, ⟨here, here + 1⟩, some ⟨earlier, earlier + 1⟩⟩
        | none =>
          bump
          readSwitches n (found ++ [(setting, here)])

/-- Whether a character may stand in the name of a group. -/
def isNameChar (atStart : Bool) (c : Char) : Bool :=
  c = '_' || isLetter c || (!atStart && (isNumeral c || c = '.' || c = '[' || c = ']'))

/-- Reads the characters of the name of a group.  The first argument bounds their number. -/
def readNameChars : Nat → (atStart : Bool) → Scanner (List Char)
  | 0, _ => return []
  | n + 1, atStart => do
    match ← peek? with
    | none => return []
    | some c =>
      if c = '>' then return []
      else
        if !isNameChar atStart c then refuseNext .nameBad
        bump
        return c :: (← readNameChars n false)

/-- Reads the name of a group and the mark that ends it. -/
def readName : Scanner Unit := do
  let first ← place
  let name ← readNameChars (← get).unread.length true
  if ← atEnd then refuseHere .nameCut
  let span := ⟨first, ← place⟩
  bump
  if name = [] then refuse .nameEmpty first first
  match (← get).names.lookup (String.ofList name) with
  | some earlier => throw ⟨.nameTwice, span, some earlier⟩
  | none => modify fun s => { s with names := (String.ofList name, span) :: s.names }

/-- Whether what follows an opening bracket asks for what stands around a match; if so, this is
read. -/
def acceptLookAround : Scanner Bool := do
  if ← accept "?=" then return true
  if ← accept "?!" then return true
  if ← accept "?<=" then return true
  accept "?<!"

/-- What an opening bracket opens. -/
inductive Opening where
  /-- A group. -/
  | group (remembers : Bool) (switches : Switches)
  /-- Settings for what follows. -/
  | settings (switches : Switches)

/-- Reads the start of a group, or settings. -/
def readOpening : Scanner Opening := do
  let first ← place
  advance
  if ← acceptLookAround then refuseFrom .lookAround first
  let inner ← place
  if (← accept "?P<") || (← accept "?<") then
    readName
    return .group true []
  else if ← accept "?" then
    if ← atEnd then refuse .groupUnclosed first (first + 1)
    let switches ← readSwitches ((← get).unread.length + 1) []
    let closed ← isNext ')'
    bump
    if !closed then return .group false switches
    else if switches.isEmpty then refuse .nothingRepeated inner inner
    else return .settings switches
  else return .group true []

/-- Switches leaving out blanks on or off. -/
def setSpaced (spaced : Bool) : Scanner Unit := modify fun s => { s with spaced }

/-! ### Patterns -/

mutual

/-- Reads alternatives up to a closing bracket or the end.  The first argument bounds the number of
steps; then come the group that this is the inside of, the places where the alternatives and the
last of them start, and the alternatives and the items of the last, each list backwards. -/
def readBranches : Nat → (group : Option Nat) → (start lastStart : Nat) →
    (branches items : List Tree) → Scanner Tree
  | 0, _, _, _, _, _ => refuseHere .tooDeep
  | n + 1, group, start, lastStart, branches, items => do
    skipBlanks
    let here ← place
    let branch := Tree.ofItems ⟨lastStart, here⟩ items.reverse
    let whole := Tree.ofBranches ⟨start, here⟩ (branch :: branches).reverse
    match ← peek?, group with
    | none, none => return whole
    | none, some opened => refuse .groupUnclosed opened (opened + 1)
    | some ')', none => refuse .groupUnopened here (here + 1)
    | some ')', some _ => return whole
    | some '|', _ =>
      bump
      readBranches n group start (here + 1) (branch :: branches) []
    | some '(', _ =>
      let item ← readGroup n
      readBranches n group start lastStart branches (item :: items)
    | some c, _ =>
      let items ←
        if c = '[' then do
          let (span, negated, inside) ← readClass (2 * (← get).unread.length + 2)
          pure (.bracketed span negated inside :: items)
        else if c = '?' then readRepetition 0 (some 1) items
        else if c = '*' then readRepetition 0 none items
        else if c = '+' then readRepetition 1 none items
        else if c = '\x7b' then readCounted items
        else if c = '\\' then do pure ((← readEscape) :: items)
        else do
          bump
          let span : Span := ⟨here, here + 1⟩
          pure <| (if c = '.' then Tree.point span
            else if c = '^' then .assertion span .start
            else if c = '$' then .assertion span .stop
            else .letter span { char := c }) :: items
      readBranches n group start lastStart branches items

/-- Reads a group or settings.  The first argument bounds the number of steps. -/
def readGroup : Nat → Scanner Tree
  | 0 => refuseHere .tooDeep
  | n + 1 => do
    let first ← place
    let outside := (← get).spaced
    match ← readOpening with
    | .settings switches =>
      setSpaced ((switches.state? .spaced).getD outside)
      return .switches ⟨first, ← place⟩ switches
    | .group remembers switches =>
      setSpaced ((switches.state? .spaced).getD outside)
      let start ← place
      let body ← readBranches n (some first) start start [] []
      setSpaced outside
      bump
      return .group ⟨first, ← place⟩ remembers switches body

end

/-- Reads a pattern. -/
def readTree (t : List Char) : Except Complaint Tree :=
  match (readBranches (2 * t.length + 2) none 0 0 [] []).run { size := t.length, unread := t } with
  | .error c => .error c
  | .ok (tree, _) =>
    match tree.tooDeep? maxDepth with
    | some span => .error { cause := .tooDeep, span }
    | none => .ok tree

end TableSchema.Pattern
