import TableSchema.Proofs.Json.RoundTrip
import TableSchema.Schema.TableJson

/-!
# Tables survive their JSON text

A list of tables is written as text and read from it again.  On the level of JSON values every part
of a table is read back by itself, which takes nothing but the names of the members; what the text
adds is the round trip of JSON values.

## Main results

* `Table.ofJson?_toJson` — a table is what its JSON value stands for.
* `readTables?_printTables` — **the text of a list of tables is read back as that list.**
-/

namespace TableSchema

open Json

/-- A list is read back if each of its items is. -/
theorem allOfJson?_map {α : Type} {toJson : α → Value} {ofJson? : Value → Option α}
    (h : ∀ a, ofJson? (toJson a) = some a) (as : List α) :
    allOfJson? ofJson? (as.map toJson) = some as := by
  induction as with
  | nil => rfl
  | cons a as ih => rw [List.map_cons, allOfJson?, h a, ih]

@[simp] theorem textOfJson?_jsonText (t : String) : textOfJson? (jsonText t) = some t := rfl

@[simp] theorem FieldType.ofJson?_name (type : FieldType) :
    FieldType.ofJson? (jsonText type.name) = some type := by
  rw [jsonText, FieldType.ofJson?, ofName?_name]

theorem keyOfJson?_keyToJson (key : Option String) : keyOfJson? (keyToJson key) = some key := by
  cases key with
  | none => rfl
  | some key => rfl

theorem Field.ofJson?_toJson (f : Field) : Field.ofJson? f.toJson = some f := by
  have hname : membersNamed "name" [(some "name", jsonText f.name),
      (some "field_type", jsonText f.type.name)] = [jsonText f.name] := rfl
  have htype : membersNamed "field_type" [(some "name", jsonText f.name),
      (some "field_type", jsonText f.type.name)] = [jsonText f.type.name] := rfl
  rw [Field.toJson, Field.ofJson?, hname, htype]
  simp [namesAreTexts, fieldOfParts?]

/-- The parts of a table are read back. -/
theorem tableOfParts?_toJson (t : Table) :
    tableOfParts? (jsonText t.name) (.array (t.fields.map Field.toJson)) (keyToJson t.key)
      = some t := by
  rw [tableOfParts?, fieldsOfJson?, allOfJson?_map Field.ofJson?_toJson, keyOfJson?_keyToJson,
    textOfJson?_jsonText]

/-- **A table is what its JSON value stands for.** -/
theorem Table.ofJson?_toJson (t : Table) : Table.ofJson? t.toJson = some t := by
  rw [← tableOfParts?_toJson t]
  rfl

/-- **Tables survive their text**, whatever characters their names hold. -/
theorem readTables?_printTables (tables : List Table) :
    readTables? (printTables tables) = some tables := by
  rw [printTables, readTables?, read?_print]
  exact allOfJson?_map Table.ofJson?_toJson tables

end TableSchema
