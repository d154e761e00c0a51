import TableSchema.Toml.Layout
import TableSchema.Toml.Tree

/-!
# Reading TOML

Reads what the keys and scalars of a file say, in the order in which they stand, and builds the
tables of the file from them line by line.

## Main definitions

* `Problem` — why a text is no TOML file.
* `Key.read`, `Layout.read` — what a key and a value say.
* `Progress.take` — what a line does to the tables.
* `read` — the entries of the file that a text is.
-/

namespace TableSchema.Toml

/-- Why a text is no TOML file. -/
inductive Problem where
  /-- It does not follow the rules of the format. -/
  | malformed
  /-- A key has too many parts. -/
  | deepKey
  deriving DecidableEq, Repr

/-- An answer that is missing only where the text is malformed. -/
def orMalformed {α : Type} : Option α → Except Problem α
  | some a => .ok a
  | none => .error .malformed

/-! ### Keys -/

/-- What was read, if nothing is left behind it. -/
def whole : Option (List Char × List Char) → Option (List Char)
  | some (s, []) => some s
  | _ => none

/-- Whether a character may stand in a part of a key without marks. -/
def isBareChar (c : Char) : Bool :=
  c.isAlphanum || c = '_' || c = '-'

/-- What a part of a key says: a word, or a string of one line. -/
def readPart? : List Char → Option String
  | '"' :: t => (whole (readBasic .ready t)).map String.ofList
  | '\x27' :: t => (whole (readLiteral t)).map String.ofList
  | t => if t ≠ [] ∧ t.all isBareChar then some (String.ofList t) else none

/-- What a key says.  It may have as many parts as values may stand inside each other. -/
def Key.read (key : Key (List Char)) : Except Problem (Key String) :=
  match key.path.mapM readPart?, readPart? key.name with
  | some path, some name => if path.length < maxDepth then .ok ⟨path, name⟩ else .error .deepKey
  | _, _ => .error .malformed

/-! ### Values -/

/-- What a scalar says. -/
def readScalar? (t : List Char) : Option Value :=
  match stringSize? t with
  | some _ => (whole (readString? t)).map fun s => .string (String.ofList s)
  | none => scalar? t

mutual

/-- What a value says. -/
def Layout.read : Layout → Except Problem Value
  | .scalar t => orMalformed (readScalar? t)
  | .array items => (readItems items).map .array
  | .table entries => (readEntries [] entries).map fun es => .table (closeEntries es)

/-- What the items of an array say. -/
def readItems : List Layout → Except Problem (List Value)
  | [] => .ok []
  | item :: items => do
    let v ← item.read
    let vs ← readItems items
    return v :: vs

/-- What the entries of a table say, where these entries are there already. -/
def readEntries (es : Entries) : List (Key (List Char) × Layout) → Except Problem Entries
  | [] => .ok es
  | (key, value) :: rest => do
    let key ← key.read
    let v ← value.read
    let es ← orMalformed (addEntry key.path key.name v es)
    readEntries es rest

end

/-! ### Files -/

/-- The tables so far, and the path of the table that entries go to. -/
structure Progress where
  /-- The entries of the file. -/
  entries : Entries := []
  /-- The path of the header that was read last. -/
  header : List String := []

/-- What a line does to the tables. -/
def Progress.take (p : Progress) : Line → Except Problem Progress
  | .blank => .ok p
  | .entry key value => do
    let key ← key.read
    let v ← value.read
    let es ← orMalformed (addUnder p.header key.path key.name v p.entries)
    return { p with entries := es }
  | .header key => do
    let key ← key.read
    let es ← orMalformed (openTable key.path key.name p.entries)
    return ⟨es, key.path ++ [key.name]⟩
  | .element key => do
    let key ← key.read
    let es ← orMalformed (openElement key.path key.name p.entries)
    return ⟨es, key.path ++ [key.name]⟩

/-- The entries of the file that a text is.  If the text has several problems, the first counts,
where those of the layout come before all others. -/
def read (t : List Char) : Except Problem (List (String × Value)) := do
  let lines ← orMalformed (layFile? t)
  let p ← lines.foldlM Progress.take {}
  return closeEntries p.entries

end TableSchema.Toml
