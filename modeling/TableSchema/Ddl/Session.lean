import TableSchema.Ddl.Script
import TableSchema.Files.Folder

/-!
# Sessions

A session reads one script after the other under the same settings.  It remembers the notices of the
last script it read.  A script from a file is read as the text of the file; if there is no such
text, nothing is read and the notices stay.

## Main definitions

* `ReadingReport` — what reading a script answers.
* `Session`, `Session.read`, `Session.readFrom` — sessions, and their two steps.
* `Call`, `Session.run` — what a session is asked to read, one after the other.
-/

namespace TableSchema

/-- What reading a script answers. -/
structure ReadingReport where
  /-- The tables, or the first fault. -/
  outcome : Except Fault (List TableDraft)
  /-- The notices of the last script that was read. -/
  notices : List Notice
  /-- The log records of this reading. -/
  log : List LogRecord

/-- A reader of scripts. -/
structure Session where
  /-- How statements are read. -/
  settings : ParseSettings := {}
  /-- The notices of the last script that was read. -/
  notices : List Notice := []
  deriving DecidableEq, Repr

namespace Session

/-- Reads a script. -/
def read (s : Session) (script : String) : ReadingReport × Session :=
  let t := Script.transcript s.settings script.toList
  (⟨t.outcome, t.notices, t.records⟩, { s with notices := t.notices })

/-- The record that announces the reading of a file. -/
def announcement (path : String) : LogRecord :=
  ⟨.debug, .statements, "Reading DDL from " ++ path⟩

/-- Reads a script from a file, given the file's text or why there is none. -/
def readFrom (s : Session) (path : String) (text : Except ReadFault String) :
    ReadingReport × Session :=
  match text with
  | .error cause => (⟨.error (.unreadable cause), s.notices, [announcement path]⟩, s)
  | .ok script =>
    let (r, s') := s.read script
    ({ r with log := announcement path :: r.log }, s')

end Session

/-! ### Calls -/

/-- What a session is asked to read. -/
inductive Call where
  /-- This script. -/
  | script (text : String)
  /-- The script in the file at this path, where `standing` is what stands there at the time. -/
  | file (path : String) (standing : Except ReadFault Item)

namespace Session

/-- Answers a call. -/
def call (s : Session) : Call → ReadingReport × Session
  | .script text => s.read text
  | .file path standing => s.readFrom path (Folder.textAt standing)

/-- Answers calls one after the other. -/
def run (s : Session) : List Call → List ReadingReport × Session
  | [] => ([], s)
  | c :: cs =>
    let (r, next) := s.call c
    let (rs, last) := next.run cs
    (r :: rs, last)

end Session

end TableSchema
