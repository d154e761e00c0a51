import TableSchema.Text.CaseTables

/-!
# Lower case

The lower-case form of a text.  Every letter has a form of its own, with two particulars: the dotted
capital `İ` becomes two characters, and the capital sigma becomes `ς` at the end of a word and `σ`
elsewhere.

## Main definitions

* `lowerLetter` — the lower-case form of a letter other than the capital sigma.
* `endsWord` — whether a place is the end of a word.
* `lowerCase` — the lower-case form of a text.
-/

namespace TableSchema.Text

/-! ### Letters -/

/-- Whether a letter is in a run. -/
def CaseRun.has (r : CaseRun) (n : Nat) : Bool :=
  r.first ≤ n && n ≤ r.last && (n - r.first) % r.stride = 0

/-- The lower-case form of a letter of a run. -/
def CaseRun.lower (r : CaseRun) (n : Nat) : Char :=
  Char.ofNat (n + r.shift).toNat

/-- The lower-case form of a letter, wherever it stands; most characters are their own. -/
def lowerLetter (c : Char) : List Char :=
  let n := c.toNat
  if n < 128 then
    if 65 ≤ n ∧ n ≤ 90 then [Char.ofNat (n + 32)] else [c]
  else if n = 0x130 then ['i', '\u0307']
  else
    match lowerRuns.find? fun r => r.has n with
    | some r => [r.lower n]
    | none => [c]

/-! ### Words -/

/-- Whether a number lies in one of the ranges. -/
def inRanges (ranges : List (Nat × Nat)) (n : Nat) : Bool :=
  ranges.any fun r => r.1 ≤ n && n ≤ r.2

/-- Whether a letter takes part in letter case: it has an upper-case or a lower-case form, or is
one. -/
def isCased (c : Char) : Bool := inRanges casedRanges c.toNat

/-- Whether a character is passed over when one looks for the end of a word. -/
def isCaseIgnorable (c : Char) : Bool := inRanges caseIgnorableRanges c.toNat

/-- Whether the first character that is not passed over takes part in letter case. -/
def meetsCased (t : List Char) : Bool :=
  match t.dropWhile isCaseIgnorable with
  | c :: _ => isCased c
  | [] => false

/-- Whether a letter stands at the end of a word: a letter is before it, and none behind it.  What
stands before it is given from the letter backwards. -/
def endsWord (before after : List Char) : Bool :=
  meetsCased before && !meetsCased after

/-! ### Texts -/

/-- The lower-case form of a text that follows `before`, which is given backwards. -/
def lowerFrom : (before : List Char) → List Char → List Char
  | _, [] => []
  | before, c :: t =>
    (if c = 'Σ' then [if endsWord before t then 'ς' else 'σ'] else lowerLetter c) ++
      lowerFrom (c :: before) t

/-- The lower-case form of a text. -/
def lowerCase (t : List Char) : List Char :=
  lowerFrom [] t

end TableSchema.Text
