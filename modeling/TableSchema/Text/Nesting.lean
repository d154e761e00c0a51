import TableSchema.Text.Cut

/-!
# Nesting

A walk along a text keeps count of the brackets that are open: one more behind each opening
bracket, one less behind each closing one.  A stray closing bracket takes the count below zero.
Only the balance counts, so a place is *outside* the brackets whenever the counter shows zero.  When
both brackets are the same character, it counts as the opening one.

The walks take any kind of counter.  The searches that are made count in 32 bits, and their counter
wraps.

## Main definitions

* `Brackets` — an opening and a closing character.
* `Brackets.turn` — what a counter shows behind a character.
* `Brackets.close?` — the place of the first closing bracket behind which the counter shows zero.
* `Brackets.inside?` — the text between the first opening bracket and that closing one.
* `Brackets.find?` — the place of the first occurrence of a character where the counter shows zero.
* `Brackets.split` — the pieces between all such occurrences.

Places are counted in characters.
-/

namespace TableSchema.Text

/-- An opening and a closing bracket. -/
structure Brackets where
  /-- The opening bracket. -/
  opening : Char
  /-- The closing bracket. -/
  closing : Char
  deriving DecidableEq, Repr

namespace Brackets

/-- Round brackets. -/
def round : Brackets := ⟨'(', ')'⟩

variable (b : Brackets)

/-! ### Counting brackets -/

/-- What a counter shows behind a character, if it shows `depth` in front of it. -/
def turn {δ : Type} [OfNat δ 1] [Add δ] [Sub δ] (depth : δ) (c : Char) : δ :=
  if c = b.opening then depth + 1 else if c = b.closing then depth - 1 else depth

/-- Whether a character is a closing bracket. -/
def closes (c : Char) : Bool :=
  c ≠ b.opening && c = b.closing

/-- Whether a character is `target` and no bracket. -/
def marks (target c : Char) : Bool :=
  c ≠ b.opening && c ≠ b.closing && c = target

section Walks

variable {δ : Type} [OfNat δ 0] [OfNat δ 1] [Add δ] [Sub δ] [DecidableEq δ]

/-- The place of the first closing bracket that brings a counter, which shows `depth` at the start,
to zero. -/
def closeFrom? : (depth : δ) → List Char → Option Nat
  | _, [] => none
  | depth, c :: t =>
    if b.closes c && b.turn depth c = 0 then some 0
    else (closeFrom? (b.turn depth c) t).map (· + 1)

/-- The place of the first `target` where a counter, which shows `depth` at the start, shows
zero. -/
def findFrom? (target : Char) : (depth : δ) → List Char → Option Nat
  | _, [] => none
  | depth, c :: t =>
    if b.marks target c && depth = 0 then some 0
    else (findFrom? target (b.turn depth c) t).map (· + 1)

/-- The pieces between the occurrences of `target` where a counter, which shows `depth` at the
start, shows zero.  Behind each of them the count starts anew. -/
def splitFrom (target : Char) : (depth : δ) → List Char → List (List Char)
  | _, [] => [[]]
  | depth, c :: t =>
    if b.marks target c && depth = 0 then [] :: splitFrom target 0 t
    else consFirst c (splitFrom target (b.turn depth c) t)

end Walks

/-! ### The matching closing bracket -/

/-- The place of the first closing bracket behind which the counter shows zero. -/
def close? (t : List Char) : Option Nat :=
  b.closeFrom? (0 : Int32) t

/-- The place behind the first opening bracket, if there is one. -/
def afterOpening? (t : List Char) : Option Nat :=
  (t.idxOf? b.opening).map (· + 1)

/-- The text between the first opening bracket and the closing bracket behind which the counter
shows zero for the first time, if both are there, in this order. -/
def inside? (t : List Char) : Option (List Char) := do
  let i ← b.close? t
  let j ← b.afterOpening? (t.take i)
  return (t.take i).drop j

/-! ### Cutting outside the brackets -/

/-- The place of the first `target` outside the brackets. -/
def find? (target : Char) (t : List Char) : Option Nat :=
  b.findFrom? target (0 : Int32) t

/-- The pieces between the occurrences of `target` outside the brackets; there is one more than
there are such occurrences. -/
def split (target : Char) (t : List Char) : List (List Char) :=
  b.splitFrom target (0 : Int32) t

@[simp] theorem split_nil (target : Char) : b.split target [] = [[]] := rfl

end Brackets

end TableSchema.Text
