/-!
# Blanks and words

Texts under reading are lists of characters.  A **blank** is a character with the Unicode property
`White_Space`; everything else belongs to a word.  Reading a word also consumes the blanks behind
it, so that what is left never starts with a blank.

## Main definitions

* `isBlank` — the blanks.
* `trimStart`, `trimEnd`, `trim` — a text without its outer blanks.
* `word`, `afterWord` — the word at the start of a text, and what is left behind it.
-/

namespace TableSchema.Text

/-! ### Blanks -/

/-- The characters with the Unicode property `White_Space`. -/
def isBlank (c : Char) : Bool :=
  let n := c.toNat
  (9 ≤ n && n ≤ 13) || n == 0x20 || n == 0x85 || n == 0xA0 || n == 0x1680 ||
    (0x2000 ≤ n && n ≤ 0x200A) || n == 0x2028 || n == 0x2029 || n == 0x202F || n == 0x205F ||
    n == 0x3000

/-! ### Trimming -/

/-- The text without the blanks at its start. -/
def trimStart (t : List Char) : List Char :=
  t.dropWhile isBlank

/-- The text without the blanks at its end. -/
def trimEnd (t : List Char) : List Char :=
  (t.reverse.dropWhile isBlank).reverse

/-- The text without the blanks at either end. -/
def trim (t : List Char) : List Char :=
  trimEnd (trimStart t)

@[simp] theorem trimStart_nil : trimStart [] = [] := rfl

@[simp] theorem trimEnd_nil : trimEnd [] = [] := rfl

@[simp] theorem trim_nil : trim [] = [] := rfl

theorem trimStart_cons (c : Char) (t : List Char) :
    trimStart (c :: t) = if isBlank c then trimStart t else c :: t := by
  simp only [trimStart, List.dropWhile_cons]

/-! ### Words -/

/-- The word at the start of the text: everything before the first blank. -/
def word (t : List Char) : List Char :=
  t.takeWhile (fun c => !isBlank c)

/-- What is left behind the word at the start of the text and the blanks that follow it. -/
def afterWord (t : List Char) : List Char :=
  trimStart (t.dropWhile (fun c => !isBlank c))

@[simp] theorem word_nil : word [] = [] := rfl

@[simp] theorem afterWord_nil : afterWord [] = [] := rfl

theorem word_cons (c : Char) (t : List Char) :
    word (c :: t) = if isBlank c then [] else c :: word t := by
  cases h : isBlank c <;> simp [word, h]

/-- A word, the gap behind it and what is left make up the text. -/
theorem word_append_dropWhile (t : List Char) :
    word t ++ t.dropWhile (fun c => !isBlank c) = t :=
  List.takeWhile_append_dropWhile

end TableSchema.Text
