import TableSchema.Toml.Scalars

/-!
# The layout of TOML files

A file is read in two steps.  The first, which is here, looks only at how the file is laid out:
where lines, keys and values begin and end, and which values stand inside which.  Parts of keys and
scalars are cut out of the text as they are written, and what they say is looked at by the second
step.  So a file that is not laid out well is refused whatever its keys and scalars say.

A line is blank, a header, or an entry whose value may itself go on over several lines; a comment
may stand at the end of each.  Keys have parts separated by points.

## Main definitions

* `Key`, `Layout`, `Line` — keys, values and lines as they are written.
* `stringSize?`, `partSize`, `scalarSize` — how far strings, parts of keys and scalars reach.
* `layKey`, `layValue?`, `layLine?` — read the layout of a key, a value and a line.
* `layFile?` — the lines of the file that a text is.
-/

namespace TableSchema.Toml

/-! ### Layouts -/

/-- A key: its last part, and those before it. -/
structure Key (α : Type) where
  /-- The parts before the last. -/
  path : List α
  /-- The last part. -/
  name : α
  deriving DecidableEq, Repr

/-- A value as it is written. -/
inductive Layout where
  /-- A string with its marks, or a value without marks. -/
  | scalar (text : List Char)
  /-- An array. -/
  | array (items : List Layout)
  /-- A table written as one value. -/
  | table (entries : List (Key (List Char) × Layout))
  deriving Repr, Inhabited

/-- What a line says. -/
inductive Line where
  /-- Nothing. -/
  | blank
  /-- There is this entry. -/
  | entry (key : Key (List Char)) (value : Layout)
  /-- What follows belongs to this table. -/
  | header (key : Key (List Char))
  /-- What follows belongs to a further table in this array. -/
  | element (key : Key (List Char))
  deriving Repr, Inhabited

/-! ### Gaps -/

/-- Leaves out blanks and tabulators. -/
def skipGap (t : List Char) : List Char :=
  t.dropWhile isGap

/-- Leaves out blanks, line breaks and comments, where the first argument tells whether the text
starts within a comment. -/
def skipLines? : Bool → List Char → Option (List Char)
  | _, [] => some []
  | _, '\n' :: t => skipLines? false t
  | _, '\r' :: '\n' :: t => skipLines? false t
  | true, c :: t => if isPlain c then skipLines? true t else none
  | false, c :: t =>
    if isGap c then skipLines? false t
    else if c = '#' then skipLines? true t
    else some (c :: t)

/-- Reads the rest of a line: blanks, perhaps a comment, and the line break or the end of the
text. -/
def endLine? (t : List Char) : Option (List Char) :=
  let rest := match skipGap t with
    | '#' :: r => r.dropWhile isPlain
    | r => r
  match rest with
  | [] => some []
  | '\n' :: r => some r
  | '\r' :: '\n' :: r => some r
  | _ => none

/-! ### Strings, parts of keys and scalars

A string that is never closed reaches to the end of its line, or to the end of the text if it may
span lines. -/

/-- How far a basic string reaches from behind its opening mark. -/
def basicSize : List Char → Nat
  | '\\' :: '\\' :: t => basicSize t + 2
  | '\\' :: '"' :: t => basicSize t + 2
  | c :: t => if c = '"' then 1 else if c = '\n' then 0 else basicSize t + 1
  | [] => 0

/-- How far a literal string reaches from behind its opening mark. -/
def literalSize : List Char → Nat
  | c :: t => if c = '\x27' then 1 else if c = '\n' then 0 else literalSize t + 1
  | [] => 0

/-- How far a basic string of several lines reaches from behind its opening marks. -/
def longBasicSize : List Char → Nat
  | '\\' :: '\\' :: t => longBasicSize t + 2
  | '\\' :: '"' :: t => longBasicSize t + 2
  | c :: t =>
    match closing? '"' (c :: t) with
    | some (more, _) => more.length + 3
    | none => longBasicSize t + 1
  | [] => 0

/-- How far a literal string of several lines reaches from behind its opening marks. -/
def longLiteralSize : List Char → Nat
  | c :: t =>
    match closing? '\x27' (c :: t) with
    | some (more, _) => more.length + 3
    | none => longLiteralSize t + 1
  | [] => 0

/-- How far the string reaches that the text starts with, if it starts with one. -/
def stringSize? : List Char → Option Nat
  | '"' :: '"' :: '"' :: t => some (longBasicSize t + 3)
  | '\x27' :: '\x27' :: '\x27' :: t => some (longLiteralSize t + 3)
  | '"' :: t => some (basicSize t + 1)
  | '\x27' :: t => some (literalSize t + 1)
  | _ => none

/-- The characters that end a word. -/
def wordEnds : List Char :=
  ['.', '=', ',', '[', ']', '\x7b', '\x7d', '#', ' ', '\t', '\r', '\n']

/-- Whether a character may be part of a word, of which a key or a scalar without marks is made. -/
def isWordChar (c : Char) : Bool :=
  !wordEnds.contains c

/-- How far the part of a key reaches that the text starts with; it may be empty. -/
def partSize (t : List Char) : Nat :=
  (stringSize? t).getD (t.takeWhile isWordChar).length

/-- Whether a character may be part of a scalar without marks. -/
def isScalarChar (c : Char) : Bool := isWordChar c || c = '.'

/-- How far a scalar without marks reaches.  A date and a time of day are one scalar, also with a
blank between them. -/
def wordsSize (t : List Char) : Nat :=
  let first := t.takeWhile isScalarChar
  match t.dropWhile isScalarChar with
  | ' ' :: c :: r =>
    if isDate first && c.isDigit then
      first.length + ((c :: r).takeWhile isScalarChar).length + 1
    else first.length
  | _ => first.length

/-- How far the scalar reaches that the text starts with.  It may be empty, but only where the line
or the item ends. -/
def scalarSize? (t : List Char) : Option Nat :=
  match stringSize? t, t with
  | some n, _ => some n
  | none, c :: _ =>
    if isScalarChar c || [',', '#', '\r', '\n'].contains c then some (wordsSize t) else none
  | none, [] => some 0

/-! ### Keys and values -/

/-- Reads the layout of a key: the key, and the text behind it and its blanks.  The first argument
bounds the number of its parts. -/
def layKey : Nat → List Char → Key (List Char) × List Char
  | 0, t => (⟨[], []⟩, t)
  | n + 1, t =>
    let start := skipGap t
    let part := start.take (partSize start)
    match skipGap (start.drop (partSize start)) with
    | '.' :: r =>
      let (key, r) := layKey n r
      ({ key with path := part :: key.path }, r)
    | r => (⟨[], part⟩, r)

/-- The number of arrays and tables that may be written inside each other as one value. -/
def maxDepth : Nat := 80

mutual

/-- Reads the layout of a value.  The first argument bounds the number of steps; the second is the
number of arrays and tables that may still be opened inside each other. -/
def layValue? : Nat → Nat → List Char → Option (Layout × List Char)
  | 0, _, _ => none
  | n + 1, room, t =>
    match t with
    | '[' :: r =>
      match room with
      | 0 => none
      | room + 1 => (layItems? n room r).map fun (items, r) => (.array items, r)
    | '\x7b' :: r =>
      match room with
      | 0 => none
      | room + 1 => (layEntries? n room r).map fun (entries, r) => (.table entries, r)
    | _ => (scalarSize? t).map fun size => (.scalar (t.take size), t.drop size)

/-- Reads the layout of the items of an array, up to its closing bracket. -/
def layItems? : Nat → Nat → List Char → Option (List Layout × List Char)
  | 0, _, _ => none
  | n + 1, room, t =>
    match skipLines? false t with
    | none => none
    | some (']' :: r) => some ([], r)
    | some (',' :: _) => none
    | some r =>
      match layValue? n room r with
      | none => none
      | some (item, r) =>
        match skipLines? false r with
        | some (',' :: r) => (layItems? n room r).map fun (items, r) => (item :: items, r)
        | some (']' :: r) => some ([item], r)
        | _ => none

/-- Reads the layout of the entries of a table written as one value, up to its closing brace. -/
def layEntries? : Nat → Nat → List Char → Option (List (Key (List Char) × Layout) × List Char)
  | 0, _, _ => none
  | n + 1, room, t =>
    match skipLines? false t with
    | none => none
    | some ('\x7d' :: r) => some ([], r)
    | some r =>
      match layKey (r.length + 1) r with
      | (key, '=' :: r) =>
        match layValue? n room (skipGap r) with
        | none => none
        | some (value, r) =>
          match skipLines? false r with
          | some (',' :: r) =>
            (layEntries? n room r).map fun (entries, r) => ((key, value) :: entries, r)
          | some ('\x7d' :: r) => some ([(key, value)], r)
          | _ => none
      | _ => none

end

/-! ### Lines -/

/-- Reads the layout of what a line says, up to what may stand at the end of every line. -/
def laySaying? (t : List Char) : Option (Line × List Char) :=
  match skipGap t with
  | [] => some (.blank, [])
  | '\n' :: r => some (.blank, '\n' :: r)
  | '\r' :: r => some (.blank, '\r' :: r)
  | '#' :: r => some (.blank, '#' :: r)
  | '[' :: '[' :: r =>
    match layKey (r.length + 1) r with
    | (key, ']' :: ']' :: r) => some (.element key, r)
    | _ => none
  | '[' :: r =>
    match layKey (r.length + 1) r with
    | (key, ']' :: r) => some (.header key, r)
    | _ => none
  | r =>
    match layKey (r.length + 1) r with
    | (key, '=' :: r) =>
      (layValue? (2 * r.length + 2) maxDepth (skipGap r)).map fun (v, r) => (.entry key v, r)
    | _ => none

/-- Reads the layout of a line with its line break. -/
def layLine? (t : List Char) : Option (Line × List Char) :=
  match laySaying? t with
  | none => none
  | some (line, r) => (endLine? r).map fun r => (line, r)

/-- Reads the layout of all lines.  The first argument bounds their number. -/
def layLines? : Nat → List Char → Option (List Line)
  | _, [] => some []
  | 0, _ => none
  | n + 1, t =>
    match layLine? t with
    | none => none
    | some (line, r) => (layLines? n r).map fun lines => line :: lines

/-- The text without a byte order mark at its start. -/
def dropMark : List Char → List Char
  | '\ufeff' :: t => t
  | t => t

/-- The lines of the file that a text is. -/
def layFile? (t : List Char) : Option (List Line) :=
  layLines? (t.length + 1) (dropMark t)

end TableSchema.Toml
