import TableSchema.Json.Reader
import TableSchema.Schema.Table

/-!
# Tables as JSON

A list of tables is written as an array of objects, with a member for each part of a table.  On
reading, members of other names are left out, a table without a key may leave the key out, and the
parts may also stand in an array in their order; a field type may also be the one name of an object
whose value is `null`.

## Main definitions

* `Table.toJson`, `Table.ofJson?` — one table.
* `printTables`, `readTables?` — the text of a list of tables, and the way back.
-/

namespace TableSchema

open Json

/-! ### Writing -/

/-- A text as a JSON string. -/
def jsonText (t : String) : Value := .string (some t)

/-- A field as JSON. -/
def Field.toJson (f : Field) : Value :=
  .object [(some "name", jsonText f.name), (some "field_type", jsonText f.type.name)]

/-- A key as JSON. -/
def keyToJson : Option String → Value
  | none => .null
  | some key => jsonText key

/-- A table as JSON. -/
def Table.toJson (t : Table) : Value :=
  .object
    [(some "type_name", jsonText t.name),
      (some "fields", .array (t.fields.map Field.toJson)),
      (some "primary_key", keyToJson t.key)]

/-- The text of a list of tables. -/
def printTables (tables : List Table) : String :=
  (Value.array (tables.map Table.toJson)).print

/-! ### Reading -/

/-- The text of a string. -/
def textOfJson? : Value → Option String
  | .string t => t
  | _ => none

/-- A key: a text, or nothing. -/
def keyOfJson? : Value → Option (Option String)
  | .null => some none
  | v => (textOfJson? v).map some

/-- A field type: its name, or an object that has nothing but this name, with the value `null`. -/
def FieldType.ofJson? : Value → Option FieldType
  | .string (some name) => ofName? name
  | .object [(some name, .null)] => ofName? name
  | _ => none

/-- The values of the members of this name. -/
def membersNamed (name : String) (members : List (Option String × Value)) : List Value :=
  (members.filter fun m => m.1 == some name).map Prod.snd

/-- Whether the names of all members are texts. -/
def namesAreTexts (members : List (Option String × Value)) : Bool :=
  members.all fun m => m.1.isSome

/-- A field from its two parts. -/
def fieldOfParts? (name type : Value) : Option Field :=
  match textOfJson? name, FieldType.ofJson? type with
  | some name, some type => some ⟨name, type⟩
  | _, _ => none

/-- A field from JSON. -/
def Field.ofJson? : Value → Option Field
  | .object ms =>
    match namesAreTexts ms, membersNamed "name" ms, membersNamed "field_type" ms with
    | true, [name], [type] => fieldOfParts? name type
    | _, _, _ => none
  | .array [name, type] => fieldOfParts? name type
  | _ => none

/-- What every value of a list stands for, if all of them stand for something. -/
def allOfJson? {α : Type} (ofJson? : Value → Option α) : List Value → Option (List α)
  | [] => some []
  | v :: vs =>
    match ofJson? v, allOfJson? ofJson? vs with
    | some a, some as => some (a :: as)
    | _, _ => none

/-- A list of fields from JSON. -/
def fieldsOfJson? : Value → Option (List Field)
  | .array vs => allOfJson? Field.ofJson? vs
  | _ => none

/-- A table from its three parts. -/
def tableOfParts? (name fields key : Value) : Option Table :=
  match textOfJson? name, fieldsOfJson? fields, keyOfJson? key with
  | some name, some fields, some key => some ⟨name, fields, key⟩
  | _, _, _ => none

/-- A table from JSON. -/
def Table.ofJson? : Value → Option Table
  | .object ms =>
    match namesAreTexts ms, membersNamed "type_name" ms, membersNamed "fields" ms,
        membersNamed "primary_key" ms with
    | true, [name], [fields], [] => tableOfParts? name fields .null
    | true, [name], [fields], [key] => tableOfParts? name fields key
    | _, _, _, _ => none
  | .array [name, fields, key] => tableOfParts? name fields key
  | _ => none

/-- The list of tables that a text is the writing of. -/
def readTables? (text : String) : Option (List Table) :=
  match read? text.toList with
  | some (.array vs) => allOfJson? Table.ofJson? vs
  | _ => none

end TableSchema
