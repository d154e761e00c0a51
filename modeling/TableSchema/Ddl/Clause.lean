import TableSchema.Ddl.Transcript
import TableSchema.Schema.SqlType
import TableSchema.Text.Blank
import TableSchema.Text.Nesting

/-!
# Clauses

The list of a `CREATE TABLE` statement consists of clauses.  A clause that starts with
`PRIMARY KEY` and a blank names the key; any other clause declares a column by its first word, and
the column's type by its second.  All further words, such as `NOT NULL`, are ignored.

## Main definitions

* `ParseSettings` — how statements are read.
* `Clause`, `Clause.read` — a clause, and its reading from text.
* `TableDraft.absorb` — what a clause adds to a draft.
-/

namespace TableSchema

/-- How statements are read. -/
structure ParseSettings where
  /-- How many characters of an unsupported statement its notice shows. -/
  abbreviationLength : Nat := 30
  /-- Whether a column of an unlisted type is a fault. -/
  strictTypes : Bool := false
  deriving DecidableEq, Repr

/-! ### Clauses -/

/-- What a clause says. -/
inductive Clause where
  /-- There is a column of this type. -/
  | column (name sqlType : List Char)
  /-- This column is the primary key. -/
  | key (column : List Char)
  deriving DecidableEq, Repr

namespace Clause

open Text

/-- The words, with a blank behind them, that make a clause a key clause. -/
def keyWords : List Char := "PRIMARY KEY ".toList

/-- The text without its outer brackets, if it has both. -/
def unbracket (t : List Char) : List Char :=
  match t with
  | '(' :: r => if r.getLast? = some ')' then r.dropLast else t
  | _ => t

/-- The columns that the text behind the words `PRIMARY KEY` lists. -/
def keyColumns (t : List Char) : List (List Char) :=
  (splitAt ',' (trim (unbracket (trim t)))).map trim

/-- Reads a key clause of a table from the text behind the words `PRIMARY KEY`. -/
def readKey (table : List Char) (t : List Char) : Except Fault Clause :=
  match keyColumns t with
  | [] => .error (.malformed (.emptyKeyColumn (String.ofList table)))
  | first :: more =>
    if [] ∈ first :: more then .error (.malformed (.emptyKeyColumn (String.ofList table)))
    else if more = [] then .ok (.key first)
    else .error (.unsupportedKey (String.ofList table) ((first :: more).map String.ofList))

/-- Reads a clause of a table from its text, which has no outer blanks. -/
def read (table : List Char) (t : List Char) : Except Fault Clause :=
  if t = [] then .error (.malformed (.emptyClause (String.ofList table)))
  else
    match afterLiteral? keyWords t with
    | some r => readKey table r
    | none => .ok (.column (word t) (word (afterWord t)))

end Clause

/-! ### Adding clauses to a draft -/

/-- Adds what a clause says to the draft.  A column of an unlisted type is read as text, or refused
if the settings are strict; a second key is refused. -/
def TableDraft.absorb (s : ParseSettings) (d : TableDraft) :
    Clause → List Event × Except Fault TableDraft
  | .column name sqlType =>
    match SqlType.lookup sqlType with
    | some type => ([], .ok (d.addField (String.ofList name) type))
    | none =>
      if s.strictTypes then ([], .error (.unknownType (String.ofList sqlType)))
      else
        ([.unrecognized (String.ofList sqlType) (String.ofList name)],
          .ok (d.addField (String.ofList name) .text))
  | .key column =>
    match d.key with
    | none => ([], .ok (d.setKey (String.ofList column)))
    | some key => ([], .error (.unsupportedKey d.name [key, String.ofList column]))

end TableSchema
