/-!
# Cutting texts

Cuts that do not look at nesting: at every occurrence of a character, behind a literal start, and
after a number of characters.

## Main definitions

* `splitAt` — the pieces of a text between the occurrences of a character.
* `afterLiteral?` — what follows a literal start.
* `abbreviate` — a text cut to a number of characters, with three dots where something is missing.
* `excerpt` — the start of a text, as refusals show it.
* `utf8Length` — the length of a text in UTF-8 bytes.
-/

namespace TableSchema.Text

/-! ### Splitting -/

/-- Puts a character in front of the first piece. -/
def consFirst (c : Char) : List (List Char) → List (List Char)
  | [] => [[c]]
  | p :: ps => (c :: p) :: ps

/-- The pieces between the occurrences of `sep`; there is one more than there are occurrences. -/
def splitAt (sep : Char) : List Char → List (List Char)
  | [] => [[]]
  | c :: t => if c = sep then [] :: splitAt sep t else consFirst c (splitAt sep t)

@[simp] theorem consFirst_cons (c : Char) (p : List Char) (ps : List (List Char)) :
    consFirst c (p :: ps) = (c :: p) :: ps := rfl

@[simp] theorem splitAt_nil (sep : Char) : splitAt sep [] = [[]] := rfl

@[simp] theorem splitAt_self (sep : Char) (t : List Char) :
    splitAt sep (sep :: t) = [] :: splitAt sep t := by
  simp [splitAt]

theorem splitAt_of_ne {sep c : Char} (h : c ≠ sep) (t : List Char) :
    splitAt sep (c :: t) = consFirst c (splitAt sep t) := by
  simp [splitAt, h]

/-! ### Literal starts -/

/-- What follows `lit` when the text starts with it. -/
def afterLiteral? : (lit text : List Char) → Option (List Char)
  | [], t => some t
  | _ :: _, [] => none
  | l :: ls, c :: t => if l = c then afterLiteral? ls t else none

theorem afterLiteral?_eq_some {lit t r : List Char} :
    afterLiteral? lit t = some r ↔ t = lit ++ r := by
  induction lit generalizing t with
  | nil => simp [afterLiteral?]
  | cons l ls ih =>
    cases t with
    | nil => simp [afterLiteral?]
    | cons c t =>
      by_cases h : l = c
      · simp [afterLiteral?, h, ih]
      · simp [afterLiteral?, h, Ne.symm h]

/-! ### Abbreviations and lengths -/

/-- The text itself if it has at most `limit` characters; otherwise its first `limit` characters
and three dots. -/
def abbreviate (limit : Nat) (t : List Char) : List Char :=
  if t.length ≤ limit then t else t.take limit ++ ['.', '.', '.']

/-- The start of a text, as refusals show it: at most thirty characters of it. -/
def excerpt (t : List Char) : String :=
  String.ofList (abbreviate 30 t)

/-- The number of bytes of the text's UTF-8 form. -/
def utf8Length : List Char → Nat
  | [] => 0
  | c :: t => c.utf8Size + utf8Length t

@[simp] theorem utf8Length_nil : utf8Length [] = 0 := rfl

@[simp] theorem utf8Length_cons (c : Char) (t : List Char) :
    utf8Length (c :: t) = c.utf8Size + utf8Length t := rfl

end TableSchema.Text
