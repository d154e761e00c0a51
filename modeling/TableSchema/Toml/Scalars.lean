import TableSchema.Toml.Strings
import TableSchema.Toml.Value

/-!
# Scalars in TOML

Values without marks around them: truth values, numbers, dates and times.  Each is written without
blanks, except that a blank may stand between a date and a time of day.

Underscores may stand between digits.  A whole number has at most 128 bits, and a number with a
fraction or an exponent has to be small enough for a floating-point number of double precision.

## Main definitions

* `integer?`, `isFloat`, `isMoment` — the scalars of each kind.
* `scalar?` — the value of a scalar.
-/

namespace TableSchema.Toml

open Text

/-! ### Digits -/

/-- The value of a digit in this base. -/
def digit? (base : Nat) (c : Char) : Option Nat :=
  match hexValue? c with
  | some n => if n < base then some n else none
  | none => none

/-- The digits of a number in which single underscores may stand between digits. -/
def ungroup? (base : Nat) : List Char → Option (List Nat)
  | [] => none
  | c :: '_' :: t =>
    match digit? base c, ungroup? base t with
    | some d, some ds => some (d :: ds)
    | _, _ => none
  | [c] => (digit? base c).map fun d => [d]
  | c :: t =>
    match digit? base c, ungroup? base t with
    | some d, some ds => some (d :: ds)
    | _, _ => none

/-- The number that digits make in this base. -/
def ofDigits (base : Nat) (ds : List Nat) : Nat :=
  ds.foldl (fun n d => n * base + d) 0

/-- The digits of a decimal number without leading zeros. -/
def whole? (t : List Char) : Option (List Nat) :=
  match ungroup? 10 t with
  | some (0 :: _ :: _) => none
  | ds => ds

/-! ### Whole numbers -/

/-- The sign at the start of a number, and what follows it. -/
def splitSign : List Char → Int × List Char
  | '+' :: t => (1, t)
  | '-' :: t => (-1, t)
  | t => (1, t)

/-- Whether a whole number can be held in 128 bits, with a sign or without. -/
def fits (n : Int) : Bool :=
  -(Nat.pow 2 127 : Int) ≤ n && n < (Nat.pow 2 128 : Int)

/-- The whole number that the text is, of any size. -/
def anyInteger? : List Char → Option Int
  | '0' :: 'x' :: t => (ungroup? 16 t).map fun ds => (ofDigits 16 ds : Int)
  | '0' :: 'o' :: t => (ungroup? 8 t).map fun ds => (ofDigits 8 ds : Int)
  | '0' :: 'b' :: t => (ungroup? 2 t).map fun ds => (ofDigits 2 ds : Int)
  | t => (whole? (splitSign t).2).map fun ds => (splitSign t).1 * (ofDigits 10 ds : Int)

/-- The whole number that the text is. -/
def integer? (t : List Char) : Option Int :=
  match anyInteger? t with
  | some n => if fits n then some n else none
  | none => none

/-! ### Numbers with a fraction or an exponent -/

/-- Whether `m * 10 ^ e` is too large for a floating-point number of double precision: whether it is
at least the middle between the largest of them and the next power of two. -/
def overflows (digits : List Nat) (e : Int) : Bool :=
  let digits := digits.dropWhile (· = 0)
  let m := ofDigits 10 digits
  let limit := Nat.pow 2 1024 - Nat.pow 2 970
  let size := digits.length + e
  if m = 0 ∨ size < 309 then false
  else if 309 < size then true
  else if 0 ≤ e then limit ≤ m * Nat.pow 10 e.toNat
  else limit * Nat.pow 10 (-e).toNat ≤ m

/-- The exponent that the text gives. -/
def exponent? (t : List Char) : Option Int :=
  (ungroup? 10 (splitSign t).2).map fun ds => (splitSign t).1 * (ofDigits 10 ds : Int)

/-- Whether a character begins an exponent. -/
def isExponentMark (c : Char) : Bool := c = 'e' || c = 'E'

/-- Whether the text is a finite number with a fraction or an exponent, without its sign. -/
def isFinite (t : List Char) : Bool :=
  let mantissa := t.takeWhile fun c => !isExponentMark c
  let fraction := mantissa.dropWhile (· ≠ '.')
  let places := match fraction with
    | [] => some []
    | _ :: r => ungroup? 10 r
  let exponent := match t.dropWhile fun c => !isExponentMark c with
    | [] => some 0
    | _ :: r => exponent? r
  match whole? (mantissa.takeWhile (· ≠ '.')), places, exponent with
  | some ds, some ps, some e =>
    (t.any fun c => c = '.' || isExponentMark c) && !overflows (ds ++ ps) (e - ps.length)
  | _, _, _ => false

/-- Whether the text is a number with a fraction or an exponent, or one that is not finite. -/
def isFloat (t : List Char) : Bool :=
  let t := (splitSign t).2
  t = "inf".toList || t = "nan".toList || isFinite t

/-! ### Dates and times -/

/-- The number that the text is, if it has exactly this many decimal digits. -/
def fixed? (width : Nat) (t : List Char) : Option Nat :=
  if t.length = width ∧ t.all fun c => (digit? 10 c).isSome then
    some (ofDigits 10 (t.filterMap (digit? 10)))
  else none

/-- Whether the text has exactly this many decimal digits, for a number in this range. -/
def isNumberIn (width least most : Nat) (t : List Char) : Bool :=
  match fixed? width t with
  | some n => least ≤ n && n ≤ most
  | none => false

/-- The number of days of a month. -/
def daysIn (year month : Nat) : Nat :=
  if month = 2 then
    if year % 4 = 0 ∧ (year % 100 ≠ 0 ∨ year % 400 = 0) then 29 else 28
  else if month = 4 ∨ month = 6 ∨ month = 9 ∨ month = 11 then 30
  else 31

/-- Whether the text is a date: year, month and day. -/
def isDate (t : List Char) : Bool :=
  match fixed? 4 (t.take 4), fixed? 2 ((t.drop 5).take 2) with
  | some year, some month =>
    t.length = 10 && t[4]? = some '-' && t[7]? = some '-' && 1 ≤ month && month ≤ 12 &&
      isNumberIn 2 1 (daysIn year month) (t.drop 8)
  | _, _ => false

/-- Whether the text gives the seconds of a time of day, with the colon before them.  They may be
missing, may be a leap second, and may have decimal places. -/
def isSeconds : List Char → Bool
  | [] => true
  | ':' :: t =>
    isNumberIn 2 0 60 (t.take 2) &&
      match t.drop 2 with
      | [] => true
      | '.' :: places => places ≠ [] && places.all fun c => (digit? 10 c).isSome
      | _ => false
  | _ => false

/-- Whether the text gives hours and minutes. -/
def isClock (t : List Char) : Bool :=
  t.length = 5 && isNumberIn 2 0 23 (t.take 2) && t[2]? = some ':' && isNumberIn 2 0 59 (t.drop 3)

/-- Whether the text is a time of day. -/
def isTime (t : List Char) : Bool :=
  isClock (t.take 5) && isSeconds (t.drop 5)

/-- Whether a character begins the offset of a time zone. -/
def isOffsetMark (c : Char) : Bool := c = 'Z' || c = 'z' || c = '+' || c = '-'

/-- Whether the text is the offset of a time zone, or nothing. -/
def isOffset : List Char → Bool
  | [] => true
  | c :: t => if c = 'Z' || c = 'z' then t = [] else (c = '+' || c = '-') && isClock t

/-- Whether the text is a time of day, perhaps with the offset of a time zone. -/
def isZonedTime (t : List Char) : Bool :=
  isTime (t.takeWhile fun c => !isOffsetMark c) && isOffset (t.dropWhile fun c => !isOffsetMark c)

/-- Whether a character may stand between a date and a time of day. -/
def isTimeMark (c : Char) : Bool := c = 'T' || c = 't' || c = ' '

/-- Whether the text is a date, a time of day, or a date and a time of day. -/
def isMoment (t : List Char) : Bool :=
  isTime t ||
    isDate (t.take 10) &&
      match t.drop 10 with
      | [] => true
      | c :: time => isTimeMark c && isZonedTime time

/-! ### Scalars -/

/-- The value of a scalar. -/
def scalar? (t : List Char) : Option Value :=
  if t = "true".toList then some (.boolean true)
  else if t = "false".toList then some (.boolean false)
  else
    match integer? t with
    | some n => some (.integer n)
    | none => if isFloat t then some .float else if isMoment t then some .moment else none

end TableSchema.Toml
