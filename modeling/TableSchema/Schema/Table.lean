import TableSchema.Fault
import TableSchema.Schema.FieldType

/-!
# Tables

A table is a name, its fields in order, and at most one field as primary key.  Tables that are still
being put together are **drafts**: fields are added one by one, the key is set, and at the end the
draft is checked and becomes a table.

## Main definitions

* `Field`, `Table` — the description of a record type.
* `TableDraft`, `TableDraft.addField`, `TableDraft.setKey` — drafts.
* `TableDraft.toTable` — the table of a consistent draft.
* `TableDraft.Step`, `TableDraft.run` — what is done with a draft, one step after the other.
* `tablesOfDrafts` — the tables of consistent drafts, or the first fault.
-/

namespace TableSchema

/-! ### Tables -/

/-- A field: its name and its type. -/
structure Field where
  /-- The name of the field. -/
  name : String
  /-- The type of the field. -/
  type : FieldType
  deriving DecidableEq, Repr

/-- The description of a record type. -/
structure Table where
  /-- The name of the record type. -/
  name : String
  /-- The fields, in the order of their declaration. -/
  fields : List Field
  /-- The field that is the primary key. -/
  key : Option String
  deriving DecidableEq, Repr

/-- The first field of this name. -/
def Table.field? (t : Table) (name : String) : Option Field :=
  t.fields.find? fun f => f.name == name

/-! ### Drafts -/

/-- A table that is being put together; nothing has been checked yet. -/
structure TableDraft where
  /-- The name of the record type. -/
  name : String
  /-- The fields added so far. -/
  fields : List Field := []
  /-- The key that was set last. -/
  key : Option String := none
  deriving DecidableEq, Repr

namespace TableDraft

/-- Adds a field behind the others. -/
def addField (d : TableDraft) (name : String) (type : FieldType) : TableDraft :=
  { d with fields := d.fields ++ [⟨name, type⟩] }

/-- Sets the primary key, in place of any that was set before. -/
def setKey (d : TableDraft) (name : String) : TableDraft :=
  { d with key := some name }

/-- The first of the names that stands among those before it or in `seen`. -/
def firstRepeated : (seen names : List String) → Option String
  | _, [] => none
  | seen, name :: names => if name ∈ seen then some name else firstRepeated (name :: seen) names

/-- The names of the fields, in order. -/
def fieldNames (d : TableDraft) : List String := d.fields.map Field.name

/-- The table of a consistent draft.  A draft needs a name, its fields need different names, and the
key has to be a field; these are checked in this order. -/
def toTable (d : TableDraft) : Except Invalidity Table :=
  if d.name = "" then .error .emptyTypeName
  else
    match firstRepeated [] d.fieldNames with
    | some field => .error (.duplicateField field d.name)
    | none =>
      match d.key with
      | none => .ok ⟨d.name, d.fields, none⟩
      | some key =>
        if key ∈ d.fieldNames then .ok ⟨d.name, d.fields, some key⟩
        else .error (.strayKey key d.name)

/-! ### Steps -/

/-- What is done with a draft. -/
inductive Step where
  /-- A field is added. -/
  | addField (name : String) (type : FieldType)
  /-- The primary key is set. -/
  | setKey (name : String)
  /-- The table of the draft is asked for. -/
  | create
  deriving DecidableEq, Repr

/-- Takes a step: the answer, if a table was asked for, and the draft behind the step. -/
def step (d : TableDraft) : Step → Option (Except Invalidity Table) × TableDraft
  | .addField name type => (none, d.addField name type)
  | .setKey name => (none, d.setKey name)
  | .create => (some d.toTable, d)

/-- Takes steps one after the other. -/
def run (d : TableDraft) : List Step → List (Option (Except Invalidity Table)) × TableDraft
  | [] => ([], d)
  | s :: ss =>
    let (answer, next) := d.step s
    let (answers, last) := next.run ss
    (answer :: answers, last)

end TableDraft

/-- The tables of the drafts, in order, or the fault of the first draft that is no table. -/
def tablesOfDrafts : List TableDraft → Except Fault (List Table)
  | [] => .ok []
  | d :: ds =>
    match d.toTable with
    | .error cause => .error (.invalid cause)
    | .ok t =>
      match tablesOfDrafts ds with
      | .error fault => .error fault
      | .ok ts => .ok (t :: ts)

end TableSchema
