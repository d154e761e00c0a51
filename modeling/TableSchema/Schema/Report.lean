import TableSchema.Schema.Table

/-!
# The text report

Tables in print for human readers.  Every item stands on a line of its own; the lines of a table
begin with its name.

## Main definitions

* `Table.describe` — the lines of one table.
* `report` — the number of tables, and the lines of each.
-/

namespace TableSchema

/-- The line of a field, with the line break before it. -/
def Field.line (f : Field) : String :=
  s!"\n  Property: {f.name} [{f.type.name}]"

/-- The line of a primary key, with the line break before it. -/
def keyLine : Option String → String
  | none => ""
  | some key => s!"\n  Primary key: {key}"

/-- The lines of a table: its name, its fields, its key. -/
def Table.describe (t : Table) : String :=
  s!"Type: {t.name}" ++ String.join (t.fields.map Field.line) ++ keyLine t.key

/-- The report on a list of tables. -/
def report (tables : List Table) : String :=
  s!"Parsed types: {tables.length}" ++ String.join (tables.map fun t => "\n" ++ t.describe)

end TableSchema
