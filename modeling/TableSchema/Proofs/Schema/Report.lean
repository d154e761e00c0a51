import Mathlib.Data.List.Flatten
import Mathlib.Tactic.Common
import TableSchema.Proofs.Text.Blank
import TableSchema.Proofs.Text.Cut
import TableSchema.Schema.Report

/-!
# Reading a report back

Names stand in a report as they are, so a name with a line break in it can look like another line,
and one with a blank like a name and a type.  Where no name is of that kind, the tables can be read
from their report again: every line says by its start what it is, and belongs to the last table
whose name stands before it.

## Main definitions

* `ReportLine`, `ReportLine.text`, `ReportLine.ofText?` — the lines of a report, as they are written
  and read.
* `Table.lines t`, `gather lines` — the lines of a table, and the tables of lines.
* `Table.Plain t` — the table has no names that could be taken for something else.
* `readReport text` — the tables that a report is about.

## Main results

* `ReportLine.ofText?_text` — a line is read back.
* `gather_flatMap_lines` — the lines of tables make these tables.
* `toList_report` — a report consists of its lines.
* `readReport_report` — **a report on plain tables is read back**, so different tables have
  different reports.
-/

namespace TableSchema

open Text

/-! ### Lines -/

/-- A line of a report behind the first. -/
inductive ReportLine where
  /-- The name of a table. -/
  | type (name : String)
  /-- A field. -/
  | property (field : Field)
  /-- A primary key. -/
  | key (name : String)
  deriving DecidableEq, Repr

namespace ReportLine

/-- How the line starts. -/
def typeWords : List Char := "Type: ".toList

/-- How the line of a field starts. -/
def propertyWords : List Char := "  Property: ".toList

/-- How the line of a key starts. -/
def keyWords : List Char := "  Primary key: ".toList

/-- The type of a field as it stands behind the name. -/
def typeText (type : FieldType) : List Char :=
  " [".toList ++ (type.name.toList ++ [']'])

/-- The line as it is written. -/
def text : ReportLine → List Char
  | .type name => typeWords ++ name.toList
  | .property f => propertyWords ++ (f.name.toList ++ typeText f.type)
  | .key name => keyWords ++ name.toList

/-- The field that is written so: its name up to a blank, and its type in brackets. -/
def fieldOf? (t : List Char) : Option Field :=
  let type := (t.drop ((word t).length + 2)).dropLast
  (FieldType.ofName? (String.ofList type)).map (Field.mk (String.ofList (word t)))

/-- The line that is written so. -/
def ofText? (t : List Char) : Option ReportLine :=
  match afterLiteral? typeWords t with
  | some name => some (.type (String.ofList name))
  | none =>
    match afterLiteral? propertyWords t with
    | some field => (fieldOf? field).map .property
    | none => (afterLiteral? keyWords t).map fun name => .key (String.ofList name)

/-- The names in the line cannot be taken for something else. -/
def Plain : ReportLine → Prop
  | .type name => '\n' ∉ name.toList
  | .property f => Solid f.name.toList
  | .key name => '\n' ∉ name.toList

/-- The type ends the name. -/
theorem isBlank_of_mem_head?_typeText (type : FieldType) :
    ∀ c ∈ (typeText type).head?, isBlank c = true := by
  have hhead : (typeText type).head? = some ' ' := rfl
  intro c hc
  rw [hhead, Option.mem_some_iff] at hc
  rw [← hc]
  decide

theorem fieldOf?_append {f : Field} (h : Solid f.name.toList) :
    fieldOf? (f.name.toList ++ typeText f.type) = some f := by
  have hdrop : (f.name.toList ++ typeText f.type).drop (f.name.toList.length + 2)
      = f.type.name.toList ++ [']'] := by
    rw [← List.drop_drop, List.drop_left]
    rfl
  unfold fieldOf?
  rw [word_append h (isBlank_of_mem_head?_typeText f.type), hdrop, List.dropLast_concat]
  show (FieldType.ofName? (String.ofList f.type.name.toList)).map _ = some f
  rw [String.ofList_toList, String.ofList_toList, FieldType.ofName?_name]
  rfl

/-- **A line is read back**, whatever stands in its names, if a field's name has no blanks. -/
theorem ofText?_text {l : ReportLine} (h : l.Plain) : ofText? l.text = some l := by
  cases l with
  | type name =>
    unfold ofText? text
    rw [afterLiteral?_append]
    simp
  | property f =>
    have htype : afterLiteral? typeWords (text (.property f)) = none := rfl
    unfold ofText?
    rw [htype, text, afterLiteral?_append]
    simp [fieldOf?_append h]
  | key name =>
    have htype : afterLiteral? typeWords (text (.key name)) = none := rfl
    have hproperty : afterLiteral? propertyWords (text (.key name)) = none := rfl
    unfold ofText?
    rw [htype, hproperty, text, afterLiteral?_append]
    simp

/-- The line is indeed one line. -/
theorem newline_notMem_text {l : ReportLine} (h : l.Plain) : '\n' ∉ l.text := by
  cases l with
  | type name =>
    rw [text, List.mem_append, not_or]
    exact ⟨by decide, h⟩
  | property f =>
    have htype : ∀ type : FieldType, '\n' ∉ typeText type := by
      intro type
      cases type <;> decide
    rw [text, List.mem_append, List.mem_append, not_or, not_or]
    exact ⟨by decide, h.notMem (by decide), htype f.type⟩
  | key name =>
    rw [text, List.mem_append, not_or]
    exact ⟨by decide, h⟩

end ReportLine

/-! ### Tables of lines -/

/-- The lines of a table. -/
def Table.lines (t : Table) : List ReportLine :=
  .type t.name :: (t.fields.map .property ++ t.key.toList.map .key)

/-- What is known after the reading of lines from the end on: the tables whose names have been met,
and the parts of the table whose name is still to come. -/
structure Gathered where
  /-- The fields of the unnamed table. -/
  fields : List Field := []
  /-- The key of the unnamed table. -/
  key : Option String := none
  /-- The tables with names. -/
  tables : List Table := []
  deriving DecidableEq, Repr

/-- What is known after the line in front as well. -/
def Gathered.before (l : ReportLine) (g : Gathered) : Gathered :=
  match l with
  | .type name => { tables := ⟨name, g.fields, g.key⟩ :: g.tables }
  | .property f => { g with fields := f :: g.fields }
  | .key name => { g with key := some name }

/-- What the lines say, read from the end on. -/
def gather (lines : List ReportLine) : Gathered := lines.foldr Gathered.before {}

theorem gather_cons (l : ReportLine) (ls : List ReportLine) :
    gather (l :: ls) = (gather ls).before l := rfl

/-- The lines of fields say these fields. -/
theorem gather_fields_append (fields : List Field) (ls : List ReportLine) :
    gather (fields.map .property ++ ls)
      = { gather ls with fields := fields ++ (gather ls).fields } := by
  induction fields with
  | nil => rfl
  | cons f fields ih =>
    rw [List.map_cons, List.cons_append, gather_cons, ih]
    rfl

/-- **The lines of a table say this table**, if nothing is pending behind them. -/
theorem gather_lines_append (t : Table) {ls : List ReportLine} {ts : List Table}
    (h : gather ls = { tables := ts }) : gather (t.lines ++ ls) = { tables := t :: ts } := by
  have hkey : gather (t.key.toList.map .key ++ ls) = { key := t.key, tables := ts } := by
    cases t.key with
    | none => exact h
    | some key =>
      show (gather ls).before (.key key) = _
      rw [h]
      rfl
  unfold Table.lines
  rw [List.cons_append, List.append_assoc, gather_cons, gather_fields_append, hkey]
  simp [Gathered.before]

/-- **The lines of tables make these tables.** -/
theorem gather_flatMap_lines (ts : List Table) :
    gather (ts.flatMap Table.lines) = { tables := ts } := by
  induction ts with
  | nil => rfl
  | cons t ts ih =>
    rw [List.flatMap_cons]
    exact gather_lines_append t ih

/-! ### Reports -/

/-- The first line of the report on a number of tables. -/
def countLine (n : Nat) : List Char := s!"Parsed types: {n}".toList

/-- There are only digits behind the words of the first line. -/
theorem newline_notMem_countLine (n : Nat) : '\n' ∉ countLine n := by
  unfold countLine
  rw [String.toList_append, List.mem_append, not_or]
  refine ⟨by decide, ?_⟩
  rw [Nat.toString_eq_ofList_toDigits, String.toList_ofList]
  intro hmem
  have hdigit := Nat.isDigit_of_mem_toDigits (by decide) (by decide) hmem
  revert hdigit
  decide

theorem toList_line (f : Field) : f.line.toList = '\n' :: (ReportLine.property f).text := by
  have hline : f.line = "\n  Property: " ++ f.name ++ " [" ++ f.type.name ++ "]" := rfl
  have hwords : "\n  Property: ".toList = '\n' :: ReportLine.propertyWords := rfl
  have hend : "]".toList = [']'] := rfl
  rw [hline]
  simp only [String.toList_append, hwords, hend, ReportLine.text, ReportLine.typeText,
    List.append_assoc, List.cons_append]

theorem toList_keyLine (key : Option String) :
    (keyLine key).toList = (key.toList.map ReportLine.key).flatMap fun l => '\n' :: l.text := by
  cases key with
  | none => rfl
  | some key =>
    have hline : keyLine (some key) = "\n  Primary key: " ++ key := rfl
    have hwords : "\n  Primary key: ".toList = '\n' :: ReportLine.keyWords := rfl
    rw [hline, String.toList_append, hwords]
    simp [ReportLine.text]

/-- The lines of a table are written one below the other. -/
theorem toList_describe (t : Table) :
    ("\n" ++ t.describe).toList = t.lines.flatMap fun l => '\n' :: l.text := by
  have hfields : (String.join (t.fields.map Field.line)).toList
      = (t.fields.map ReportLine.property).flatMap fun l => '\n' :: l.text := by
    rw [String.toList_join, List.flatMap_map, List.flatMap_map]
    exact List.flatMap_congr fun f _ => toList_line f
  have hname : ("\n" ++ s!"Type: {t.name}").toList = '\n' :: (ReportLine.type t.name).text := by
    have hline : "\n" ++ s!"Type: {t.name}" = "\nType: " ++ t.name := rfl
    have hwords : "\nType: ".toList = '\n' :: ReportLine.typeWords := rfl
    rw [hline, String.toList_append, hwords]
    rfl
  unfold Table.describe Table.lines
  rw [← String.append_assoc, ← String.append_assoc, String.toList_append, String.toList_append,
    hname, hfields, toList_keyLine, List.flatMap_cons, List.flatMap_append, List.append_assoc]

/-- Texts with a separator between them, the first of them apart. -/
theorem intercalate_cons_eq_append_flatMap (c : Char) (l : List Char) (ls : List (List Char)) :
    [c].intercalate (l :: ls) = l ++ ls.flatMap fun m => c :: m := by
  induction ls generalizing l with
  | nil => simp
  | cons m ls ih =>
    rw [List.intercalate_cons_cons, ih, List.flatMap_cons]
    simp

/-- **A report consists of its lines**: the number of tables, and the lines of each. -/
theorem toList_report (ts : List Table) :
    (report ts).toList = ['\n'].intercalate
      (countLine ts.length :: (ts.flatMap Table.lines).map ReportLine.text) := by
  have htables : (String.join (ts.map fun t => "\n" ++ t.describe)).toList
      = ((ts.flatMap Table.lines).map ReportLine.text).flatMap fun m => '\n' :: m := by
    rw [String.toList_join, List.flatMap_map, List.flatMap_map, List.flatMap_assoc]
    apply List.flatMap_congr
    intro t _
    exact toList_describe t
  unfold report
  rw [String.toList_append, htables, intercalate_cons_eq_append_flatMap]
  rfl

/-- No name in the table could be taken for something else. -/
structure Table.Plain (t : Table) : Prop where
  /-- The name stays on its line. -/
  name : '\n' ∉ t.name.toList
  /-- The names of the fields have no blanks. -/
  fields : ∀ f ∈ t.fields, Solid f.name.toList
  /-- The key stays on its line. -/
  key : ∀ key ∈ t.key, '\n' ∉ key.toList

/-- The lines of a plain table are plain. -/
theorem Table.Plain.lines {t : Table} (h : t.Plain) : ∀ l ∈ t.lines, l.Plain := by
  intro l hl
  rcases List.mem_cons.mp hl with rfl | hl
  · exact h.name
  · rcases List.mem_append.mp hl with hl | hl
    · obtain ⟨f, hf, rfl⟩ := List.mem_map.mp hl
      exact h.fields f hf
    · obtain ⟨key, hkey, rfl⟩ := List.mem_map.mp hl
      exact h.key key (Option.mem_toList.mp hkey)

/-- The tables that a report is about. -/
def readReport (text : String) : List Table :=
  (gather ((text.toList.splitOn '\n').tail.filterMap ReportLine.ofText?)).tables

/-- **A report on plain tables is read back.** -/
theorem readReport_report {ts : List Table} (h : ∀ t ∈ ts, t.Plain) :
    readReport (report ts) = ts := by
  have hplain : ∀ l ∈ ts.flatMap Table.lines, l.Plain := by
    intro l hl
    obtain ⟨t, ht, hl⟩ := List.mem_flatMap.mp hl
    exact (h t ht).lines l hl
  have hlines : (report ts).toList.splitOn '\n'
      = countLine ts.length :: (ts.flatMap Table.lines).map ReportLine.text := by
    rw [toList_report]
    apply List.splitOn_intercalate
    · rw [List.forall_mem_cons, List.forall_mem_map]
      refine ⟨newline_notMem_countLine ts.length, ?_⟩
      intro l hl
      exact ReportLine.newline_notMem_text (hplain l hl)
    · exact List.cons_ne_nil _ _
  have hread : ((ts.flatMap Table.lines).map ReportLine.text).filterMap ReportLine.ofText?
      = ts.flatMap Table.lines := by
    rw [List.filterMap_map]
    conv_rhs => rw [← List.filterMap_some (l := ts.flatMap Table.lines)]
    refine List.filterMap_congr fun l hl => ?_
    exact ReportLine.ofText?_text (hplain l hl)
  unfold readReport
  rw [hlines, List.tail_cons, hread, gather_flatMap_lines]

/-- **Different plain tables have different reports.** -/
theorem eq_of_report_eq {ts us : List Table} (hts : ∀ t ∈ ts, t.Plain) (hus : ∀ t ∈ us, t.Plain)
    (h : report ts = report us) : ts = us := by
  rw [← readReport_report hts, h, readReport_report hus]

/-- A name with a line break can look like two fields. -/
example : report [⟨"t", [⟨"a [text]\n  Property: b", .text⟩], none⟩]
    = report [⟨"t", [⟨"a", .text⟩, ⟨"b", .text⟩], none⟩] := by decide

end TableSchema
