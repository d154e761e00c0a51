import TableSchema.Log.Record
import TableSchema.Schema.Table

/-!
# What happens while statements are read

Reading a statement either declares a table, or leaves a notice about a statement that was left
out; on the way, columns of an unlisted type may be read as text.  These are the **events**, and a
run over several statements is a **transcript**: the events in order, up to the first fault.
Transcripts can be put one after the other, where a fault hides all that follows.

## Main definitions

* `Notice` — a statement that was left out.
* `Event` — what reading a statement brings about.
* `Transcript`, `Transcript.append` — the events up to the first fault.
* `Transcript.tables`, `Transcript.notices`, `Transcript.outcome`, `Transcript.records` — views.

## Main results

* `Transcript.append_assoc` — putting transcripts one after the other is associative.
-/

namespace TableSchema

/-! ### Notices -/

/-- A statement that was left out. -/
inductive Notice where
  /-- An `ALTER TABLE` statement about this table. -/
  | alterSkipped (table : String)
  /-- A statement of an unsupported kind, with the start of its text. -/
  | unsupported (preview : String)
  deriving DecidableEq, Repr

/-- The wording of a notice. -/
def Notice.message : Notice → String
  | .alterSkipped table => s!"Ignoring ALTER TABLE for '{table}'"
  | .unsupported preview => s!"Unsupported statement skipped: [{preview}]"

/-- How serious a notice is: an ignored alteration may change the tables, other statements do not
declare any. -/
def Notice.severity : Notice → Severity
  | .alterSkipped _ => .warn
  | .unsupported _ => .info

/-! ### Events -/

/-- What reading a statement brings about. -/
inductive Event where
  /-- A table was declared. -/
  | declared (table : TableDraft)
  /-- A statement was left out. -/
  | noticed (notice : Notice)
  /-- A field has an unlisted type and is read as text. -/
  | unrecognized (sqlType field : String)
  deriving DecidableEq, Repr

/-- The table that an event declares. -/
def Event.table? : Event → Option TableDraft
  | .declared table => some table
  | _ => none

/-- The notice that an event leaves. -/
def Event.notice? : Event → Option Notice
  | .noticed notice => some notice
  | _ => none

/-- The log record of an event; a declaration as such leaves none. -/
def Event.record? : Event → Option LogRecord
  | .declared _ => none
  | .noticed notice => some ⟨notice.severity, .statements, notice.message⟩
  | .unrecognized sqlType field =>
    some ⟨.debug, .statements,
      s!"Unrecognized SQL type '{sqlType}' for field '{field}', using {FieldType.text.name}"⟩

/-! ### Transcripts -/

/-- The events of a run, up to its first fault if it has one. -/
structure Transcript where
  /-- What happened, in order. -/
  events : List Event
  /-- Why the run stopped, if it did before its end. -/
  fault : Option Fault
  deriving DecidableEq, Repr

namespace Transcript

/-- The run in which nothing happens. -/
def empty : Transcript := ⟨[], none⟩

/-- The run in which one thing happens. -/
def event (e : Event) : Transcript := ⟨[e], none⟩

/-- The run that fails at once. -/
def failed (f : Fault) : Transcript := ⟨[], some f⟩

/-- One run after the other; a fault in the first hides the second. -/
def append (a b : Transcript) : Transcript :=
  match a.fault with
  | some f => ⟨a.events, some f⟩
  | none => ⟨a.events ++ b.events, b.fault⟩

instance : Append Transcript := ⟨append⟩

/-- Several runs, one after the other. -/
def concat : List Transcript → Transcript
  | [] => empty
  | a :: as => a ++ concat as

theorem append_def (a b : Transcript) : a ++ b = a.append b := rfl

@[simp] theorem empty_append (a : Transcript) : empty ++ a = a := rfl

@[simp] theorem append_empty (a : Transcript) : a ++ empty = a := by
  cases a with
  | mk es f => cases f <;> simp [append_def, append, empty]

@[simp] theorem failed_append (f : Fault) (a : Transcript) : failed f ++ a = failed f := rfl

theorem append_assoc (a b c : Transcript) : a ++ b ++ c = a ++ (b ++ c) := by
  cases a with
  | mk es f =>
    cases b with
    | mk es' f' => cases f <;> cases f' <;> simp [append_def, append]

@[simp] theorem concat_nil : concat [] = empty := rfl

@[simp] theorem concat_cons (a : Transcript) (as : List Transcript) :
    concat (a :: as) = a ++ concat as := rfl

theorem concat_append (as bs : List Transcript) :
    concat (as ++ bs) = concat as ++ concat bs := by
  induction as with
  | nil => rfl
  | cons a as ih => simp [ih, append_assoc]

/-! ### Views -/

/-- The tables that were declared. -/
def tables (t : Transcript) : List TableDraft := t.events.filterMap Event.table?

/-- The notices that were left. -/
def notices (t : Transcript) : List Notice := t.events.filterMap Event.notice?

/-- All tables, or the fault: a run that stopped early gives no tables at all. -/
def outcome (t : Transcript) : Except Fault (List TableDraft) :=
  match t.fault with
  | some f => .error f
  | none => .ok t.tables

/-- The record that closes a run without a fault. -/
def closing (t : Transcript) : LogRecord :=
  ⟨.debug, .statements, s!"Parsed {t.tables.length} table declaration(s)"⟩

/-- The log records of a run. -/
def records (t : Transcript) : List LogRecord :=
  t.events.filterMap Event.record? ++
    match t.fault with
    | some _ => []
    | none => [t.closing]

end Transcript

end TableSchema
