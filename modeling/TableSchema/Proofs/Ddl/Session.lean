import Mathlib.Tactic.Common
import TableSchema.Ddl.Session

/-!
# Sessions do not leak

What a session remembers has no influence on what it reads.  A call either has a script to read, and
is then answered as a new session with the same settings would answer it, or it has none, and then
the session stays as it is.  So after any number of calls only two things are left of them: the
settings from the start, and the notices of the last script.

## Main definitions

* `Call.script?` — the script that a call has to read.
* `Session.fresh` — a new session with the same settings.

## Main results

* `Folder.textAt_eq_ok_iff` — there is a text exactly where a file holds its bytes.
* `Session.call_eq_fresh`, `Session.call_file_of_error` — a call with and without a script.
* `Session.settings_run`, `Session.notices_run` — what is left of calls.
* `Session.answers_call` — **the answer to a call after any calls.**
-/

namespace TableSchema

/-! ### Scripts in files -/

/-- The bytes of a text are the only ones with this text. -/
theorem Folder.textOfBytes_eq_ok_iff {bytes : ByteArray} {text : String} :
    textOfBytes bytes = .ok text ↔ bytes = text.toUTF8 := by
  refine ⟨fun h => ?_, fun h => by rw [h, textOfBytes_toUTF8]⟩
  rw [textOfBytes] at h
  split at h
  next found hfound =>
    cases h
    rw [String.fromUTF8?] at hfound
    split at hfound
    next => cases hfound; rfl
    next => cases hfound
  next => cases h

/-- There is a text exactly where a file holds its bytes. -/
theorem Folder.textAt_eq_ok_iff {standing : Except ReadFault Item} {text : String} :
    textAt standing = .ok text ↔ standing = .ok (.file text.toUTF8) := by
  rcases standing with cause | ⟨bytes⟩ | ⟨items⟩
  · simp [textAt]
  · simp [textAt, textOfBytes_eq_ok_iff]
  · simp [textAt]

/-- Where no file holds the bytes of a text, there is a cause for that. -/
theorem Folder.exists_textAt_eq_error {standing : Except ReadFault Item}
    (h : ∀ text : String, standing ≠ .ok (.file text.toUTF8)) :
    ∃ cause, textAt standing = .error cause := by
  cases htext : textAt standing with
  | error cause => exact ⟨cause, rfl⟩
  | ok text => exact absurd (textAt_eq_ok_iff.mp htext) (h text)

/-- The script that a call has to read; a file without a text has none. -/
def Call.script? : Call → Option String
  | .script text => some text
  | .file _ standing => (Folder.textAt standing).toOption

namespace Session

/-- A new session with the same settings. -/
def fresh (s : Session) : Session := ⟨s.settings, []⟩

/-! ### One call -/

theorem call_file_of_ok {standing : Except ReadFault Item} {text : String}
    (h : Folder.textAt standing = .ok text) (s : Session) (path : String) :
    s.call (.file path standing)
      = ({ (s.read text).1 with log := announcement path :: (s.read text).1.log },
          (s.read text).2) := by
  rw [call, h, readFrom]

/-- A file without a text leaves the session as it is. -/
theorem call_file_of_error {standing : Except ReadFault Item} {cause : ReadFault}
    (h : Folder.textAt standing = .error cause) (s : Session) (path : String) :
    s.call (.file path standing)
      = (⟨.error (.unreadable cause), s.notices, [announcement path]⟩, s) := by
  rw [call, h, readFrom]

/-- **A call with a script is answered as a new session answers it.** -/
theorem call_eq_fresh {c : Call} {text : String} (h : c.script? = some text) (s : Session) :
    s.call c = s.fresh.call c := by
  cases c with
  | script => rfl
  | file path standing =>
    rw [Call.script?] at h
    cases htext : Folder.textAt standing with
    | error cause =>
      rw [htext] at h
      cases h
    | ok found =>
      -- reading takes only the settings of the session
      rw [call_file_of_ok htext, call_file_of_ok htext]
      rfl

/-- What a call does, whether or not it has a script: the settings stay, and the notices of its
answer are those it leaves. -/
theorem call_leaves (s : Session) (c : Call) :
    (s.call c).2 = ⟨s.settings, (s.call c).1.notices⟩ := by
  cases c with
  | script text => rfl
  | file path standing =>
    cases htext : Folder.textAt standing with
    | error cause => rw [call_file_of_error htext]
    | ok text =>
      rw [call_file_of_ok htext]
      rfl

/-! ### Runs -/

theorem run_cons (s : Session) (c : Call) (cs : List Call) :
    s.run (c :: cs) = ((s.call c).1 :: ((s.call c).2.run cs).1, ((s.call c).2.run cs).2) := rfl

/-- Calls after other calls are answered by the session that those leave. -/
theorem run_append (s : Session) (before after : List Call) :
    s.run (before ++ after)
      = ((s.run before).1 ++ ((s.run before).2.run after).1, ((s.run before).2.run after).2) := by
  induction before generalizing s with
  | nil => rfl
  | cons c before ih => rw [List.cons_append, run_cons, ih, run_cons, List.cons_append]

/-- **The settings never change.** -/
theorem settings_run (s : Session) (cs : List Call) : (s.run cs).2.settings = s.settings := by
  induction cs generalizing s with
  | nil => rfl
  | cons c cs ih => rw [run_cons, ih, call_leaves]

/-- **The notices that are left are those of the last answer.** -/
theorem notices_run (s : Session) (cs : List Call) :
    (s.run cs).2.notices = ((s.run cs).1.getLast?.map ReadingReport.notices).getD s.notices := by
  -- only the last call counts, so the run is split there and not at the first
  rcases List.eq_nil_or_concat cs with rfl | ⟨before, c, rfl⟩
  · rfl
  · have hlast : s.run (before ++ [c])
        = ((s.run before).1 ++ [((s.run before).2.call c).1], ((s.run before).2.call c).2) := by
      rw [run_append]
      rfl
    rw [List.concat_eq_append, hlast, List.getLast?_concat, call_leaves]
    rfl

/-- **The answer to a call after any calls.**  With a script it is the answer of a new session with
these settings, and a file with a text is answered as the text is, behind its announcement.  Without
a script the call is refused, and the notices are those of the answer before. -/
theorem answers_call (s : Session) (before : List Call) :
    (s.run before).2.settings = s.settings ∧
    (s.run before).2.notices
      = ((s.run before).1.getLast?.map ReadingReport.notices).getD s.notices ∧
    (∀ c after, (s.run (before ++ c :: after)).1
      = (s.run before).1 ++ ((s.run before).2.call c).1
        :: (((s.run before).2.call c).2.run after).1) ∧
    (∀ c text, c.script? = some text → (s.run before).2.call c = s.fresh.call c) ∧
    (∀ path, ∀ text : String,
      (s.run before).2.call (.file path (.ok (.file text.toUTF8)))
        = ({ ((s.run before).2.read text).1 with
              log := announcement path :: ((s.run before).2.read text).1.log },
            ((s.run before).2.read text).2)) ∧
    ∀ path standing, (∀ text : String, standing ≠ .ok (.file text.toUTF8)) →
      ∃ cause, (s.run before).2.call (.file path standing)
        = (⟨.error (.unreadable cause), (s.run before).2.notices, [announcement path]⟩,
            (s.run before).2) := by
  have hfresh : (s.run before).2.fresh = s.fresh := by rw [fresh, fresh, settings_run]
  refine ⟨settings_run s before, notices_run s before, fun c after => ?_, fun c text h => ?_,
    fun path text => call_file_of_ok (Folder.textAt_eq_ok_iff.mpr rfl) _ path,
    fun path standing h => ?_⟩
  · rw [run_append, run_cons]
  · rw [call_eq_fresh h, hfresh]
  · obtain ⟨cause, hcause⟩ := Folder.exists_textAt_eq_error h
    exact ⟨cause, call_file_of_error hcause _ path⟩

/-- After a script with a fault, the notices of what stood before the fault are left.  A file of
bytes that are no text leaves them; a file with a text is read as in a new session. -/
theorem answers_call_after_fault :
    let s : Session := ⟨{}, []⟩
    let before := [Call.script "CREATE TABLE t (a INT)",
      .script "ALTER TABLE t ADD b INT; CREATE TABLE u (a INT"]
    (∀ text : String, Except.ok (ε := ReadFault) (Item.file ⟨#[0xff]⟩) ≠ .ok (.file text.toUTF8)) ∧
    (∃ cause, (s.run before).2.call (.file "a.sql" (.ok (.file ⟨#[0xff]⟩)))
      = (⟨.error (.unreadable cause), [.alterSkipped "t"], [announcement "a.sql"]⟩,
          ⟨{}, [.alterSkipped "t"]⟩)) ∧
    (Call.file "b.sql" (.ok (.file "CREATE TABLE v (a INT)".toUTF8))).script?
      = some "CREATE TABLE v (a INT)" ∧
    (s.run before).2.call (.file "b.sql" (.ok (.file "CREATE TABLE v (a INT)".toUTF8)))
      = s.fresh.call (.file "b.sql" (.ok (.file "CREATE TABLE v (a INT)".toUTF8))) := by
  intro s before
  obtain ⟨-, -, -, hscript, -, hnone⟩ := answers_call s before
  have hleft : (s.run before).2 = ⟨{}, [.alterSkipped "t"]⟩ := by decide
  have hbytes : ∀ text : String,
      Except.ok (ε := ReadFault) (Item.file ⟨#[0xff]⟩) ≠ .ok (.file text.toUTF8) := by
    intro text h
    have htext := Folder.textAt_eq_ok_iff.mpr h
    have hcause : Folder.textAt (.ok (.file ⟨#[0xff]⟩)) = .error .notText := by decide
    rw [hcause] at htext
    cases htext
  have hv : (Call.file "b.sql" (.ok (.file "CREATE TABLE v (a INT)".toUTF8))).script?
      = some "CREATE TABLE v (a INT)" := by
    rw [Call.script?, Folder.textAt, Folder.textOfBytes_toUTF8]
    rfl
  refine ⟨hbytes, ?_, hv, hscript _ _ hv⟩
  have hrefused := hnone "a.sql" _ hbytes
  rw [hleft] at hrefused
  rw [hleft]
  exact hrefused

end Session

end TableSchema
