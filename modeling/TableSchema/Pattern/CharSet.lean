/-!
# Sets of characters

A set of characters is a list of ranges of code points, in order and with gaps between them, so that
each set has one list only.

## Main definitions

* `CharSet`, `CharSet.has` — the sets, and their elements.
* `CharSet.ofRanges` — the set of everything in these ranges.
* `CharSet.compl`, `CharSet.union`, `CharSet.inter`, `CharSet.diff`, `CharSet.symmDiff` — the
  operations on sets.
* `CharSet.foldAscii` — the set with both cases of its ASCII letters.
* `AsciiClass` — sets that have names.
-/

namespace TableSchema.Pattern

/-- A set of characters. -/
structure CharSet where
  /-- The first and last code points of the ranges, in order. -/
  ranges : List (Nat × Nat)
  deriving DecidableEq, Repr, Inhabited

namespace CharSet

/-- Whether a character is in the set. -/
def has (s : CharSet) (c : Char) : Bool :=
  s.ranges.any fun r => r.1 ≤ c.toNat && c.toNat ≤ r.2

/-! ### Making sets -/

/-- Joins ranges that overlap or touch: a first range, and others that start no earlier and are in
the order of their starts. -/
def joinRanges : Nat × Nat → List (Nat × Nat) → List (Nat × Nat)
  | r, [] => [r]
  | r, s :: rest =>
    if s.1 ≤ r.2 + 1 then joinRanges (r.1, max r.2 s.2) rest else r :: joinRanges s rest

/-- The set of everything in these ranges. -/
def ofRanges (ranges : List (Nat × Nat)) : CharSet :=
  match ranges.mergeSort fun r s => r.1 ≤ s.1 with
  | [] => ⟨[]⟩
  | r :: rest => ⟨joinRanges r rest⟩

/-- The set of nothing. -/
def empty : CharSet := ⟨[]⟩

/-- The set of one character. -/
def single (c : Char) : CharSet := ⟨[(c.toNat, c.toNat)]⟩

/-- The last code point. -/
def lastCode : Nat := 0x10FFFF

/-- The set of all characters. -/
def all : CharSet := ⟨[(0, lastCode)]⟩

/-! ### Operations -/

/-- The gaps from a code point on, before, between and behind the ranges. -/
def gapsFrom : Nat → List (Nat × Nat) → List (Nat × Nat)
  | n, [] => if n ≤ lastCode then [(n, lastCode)] else []
  | n, r :: rest =>
    if n < r.1 then (n, r.1 - 1) :: gapsFrom (r.2 + 1) rest else gapsFrom (r.2 + 1) rest

/-- What is not in the set. -/
def compl (s : CharSet) : CharSet := ⟨gapsFrom 0 s.ranges⟩

/-- What is in either set. -/
def union (s t : CharSet) : CharSet := ofRanges (s.ranges ++ t.ranges)

/-- What is in both sets. -/
def inter (s t : CharSet) : CharSet := (s.compl.union t.compl).compl

/-- What is in the first set and not in the second. -/
def diff (s t : CharSet) : CharSet := s.inter t.compl

/-- What is in one of the sets and not in both. -/
def symmDiff (s t : CharSet) : CharSet := (s.diff t).union (t.diff s)

/-- Whether all characters of the set are in ASCII. -/
def isAscii (s : CharSet) : Bool := s.ranges.all fun r => r.2 < 128

/-- The set with both cases of every ASCII letter that is in it. -/
def foldAscii (s : CharSet) : CharSet :=
  s.union (ofRanges ((List.range 26).flatMap fun i =>
    if s.has (Char.ofNat (65 + i)) || s.has (Char.ofNat (97 + i)) then
      [(65 + i, 65 + i), (97 + i, 97 + i)]
    else []))

end CharSet

/-! ### Sets with names -/

/-- Sets of ASCII characters that have names. -/
inductive AsciiClass where
  /-- Letters and digits. -/
  | alnum
  /-- Letters. -/
  | alpha
  /-- All of ASCII. -/
  | ascii
  /-- The blank and the tabulator. -/
  | blank
  /-- Control characters. -/
  | cntrl
  /-- Digits. -/
  | digit
  /-- Characters that are seen. -/
  | graph
  /-- Small letters. -/
  | lower
  /-- Characters that are seen, and the blank. -/
  | print
  /-- Characters that are seen and are no letters or digits. -/
  | punct
  /-- Blanks and line breaks. -/
  | space
  /-- Capital letters. -/
  | upper
  /-- Letters, digits and the underscore. -/
  | word
  /-- Hexadecimal digits. -/
  | xdigit
  deriving DecidableEq, Repr

namespace AsciiClass

/-- The classes by name. -/
def named : List (String × AsciiClass) :=
  [("alnum", alnum), ("alpha", alpha), ("ascii", ascii), ("blank", blank), ("cntrl", cntrl),
   ("digit", digit), ("graph", graph), ("lower", lower), ("print", print), ("punct", punct),
   ("space", space), ("upper", upper), ("word", word), ("xdigit", xdigit)]

/-- The characters of a class. -/
def set : AsciiClass → CharSet
  | alnum => ⟨[(0x30, 0x39), (0x41, 0x5A), (0x61, 0x7A)]⟩
  | alpha => ⟨[(0x41, 0x5A), (0x61, 0x7A)]⟩
  | ascii => ⟨[(0x00, 0x7F)]⟩
  | blank => ⟨[(0x09, 0x09), (0x20, 0x20)]⟩
  | cntrl => ⟨[(0x00, 0x1F), (0x7F, 0x7F)]⟩
  | digit => ⟨[(0x30, 0x39)]⟩
  | graph => ⟨[(0x21, 0x7E)]⟩
  | lower => ⟨[(0x61, 0x7A)]⟩
  | print => ⟨[(0x20, 0x7E)]⟩
  | punct => ⟨[(0x21, 0x2F), (0x3A, 0x40), (0x5B, 0x60), (0x7B, 0x7E)]⟩
  | space => ⟨[(0x09, 0x0D), (0x20, 0x20)]⟩
  | upper => ⟨[(0x41, 0x5A)]⟩
  | word => ⟨[(0x30, 0x39), (0x41, 0x5A), (0x5F, 0x5F), (0x61, 0x7A)]⟩
  | xdigit => ⟨[(0x30, 0x39), (0x41, 0x46), (0x61, 0x66)]⟩

end AsciiClass

end TableSchema.Pattern
