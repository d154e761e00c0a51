import TableSchema.Proofs.Ddl.Script

/-!
# Scripts put one behind the other

The statements of a script `s; t` are those of `s` and then those of `t`.  So the run over `s; t` is
the run over `s`, and then the run over `t` unless the first has a fault.  The run does not depend
on how a script is spaced: blanks around its statements play no part, nor do blank statements.

## Main definitions

* `Respaced pieces spaced` — the same statements with more blanks around and between them.

## Main results

* `Script.transcript_append` — the run over two scripts.
* `Script.transcript_eq_of_respaced` — the run over a script that is spaced in another way.
* `Session.read_concatenation` — **what a session answers to scripts put together.**
-/

namespace TableSchema

open Text

/-! ### Two scripts -/

theorem Script.statements_append (s t : List Char) :
    Script.statements (s ++ ';' :: t) = Script.statements s ++ Script.statements t := by
  rw [statements, splitAt_append_cons, List.filterMap_append, ← statements, ← statements]

/-- **The run over two scripts** is one run after the other, wherever the first script ends. -/
theorem Script.transcript_append (σ : ParseSettings) (s t : List Char) :
    Script.transcript σ (s ++ ';' :: t) = Script.transcript σ s ++ Script.transcript σ t := by
  rw [transcript, statements_append, List.map_append, Transcript.concat_append, ← transcript,
    ← transcript]

/-! ### Spacing -/

/-- The pieces of a script between its semicolons have become `spaced`: blanks have been put around
some of them, and blank pieces between them. -/
inductive Respaced : (pieces spaced : List (List Char)) → Prop
  /-- Nothing is left to be spaced. -/
  | nil : Respaced [] []
  /-- A piece has blanks put around it, or none. -/
  | pad {l p r : List Char} {pieces spaced : List (List Char)} (hl : Blank l) (hr : Blank r)
    (rest : Respaced pieces spaced) : Respaced (p :: pieces) ((l ++ p ++ r) :: spaced)
  /-- A blank piece is put in. -/
  | blank {q : List Char} {pieces spaced : List (List Char)} (hq : Blank q)
    (rest : Respaced pieces spaced) : Respaced pieces (q :: spaced)

/-- A blank piece is no statement. -/
theorem Statement.ofPiece?_trim_of_blank {q : List Char} (hq : Blank q) :
    Statement.ofPiece? (trim q) = none := by
  rw [trim_of_blank hq]
  rfl

theorem Script.statements_eq_of_respaced {s t : List Char}
    (h : Respaced (s.splitOn ';') (t.splitOn ';')) :
    Script.statements s = Script.statements t := by
  rw [statements, statements, splitAt_eq_splitOn, splitAt_eq_splitOn]
  generalize s.splitOn ';' = pieces at h
  generalize t.splitOn ';' = spaced at h
  induction h with
  | nil => rfl
  | pad hl hr rest ih => simp only [List.filterMap_cons, trim_pad hl hr, ih]
  | blank hq rest ih => rw [ih, List.filterMap_cons, Statement.ofPiece?_trim_of_blank hq]

/-- **The run over a script does not depend on its spacing.** -/
theorem Script.transcript_eq_of_respaced (σ : ParseSettings) {s t : List Char}
    (h : Respaced (s.splitOn ';') (t.splitOn ';')) :
    Script.transcript σ s = Script.transcript σ t := by
  rw [transcript, statements_eq_of_respaced h, ← transcript]

/-! ### Sessions -/

/-- The run over two scripts in one text. -/
theorem Script.transcript_toList_append (σ : ParseSettings) (s t : String) :
    Script.transcript σ (s ++ ";" ++ t).toList
      = Script.transcript σ s.toList ++ Script.transcript σ t.toList := by
  have htext : (s ++ ";" ++ t).toList = s.toList ++ ';' :: t.toList := by simp
  rw [htext, transcript_append]

/-- **What a session answers to scripts put together.**  A fault of the first script is the fault of
both, and the notices are those up to it.  If there is none, the notices of the second follow those
of the first, and so do its tables, unless it has a fault itself.  More blanks around statements and
more blank statements change neither. -/
theorem Session.read_concatenation (σ : Session) :
    (∀ s t : String, ∀ f : Fault, (σ.read s).1.outcome = .error f →
      (σ.read (s ++ ";" ++ t)).1.outcome = .error f ∧
        (σ.read (s ++ ";" ++ t)).1.notices = (σ.read s).1.notices) ∧
    (∀ s t : String, ∀ tables : List TableDraft, (σ.read s).1.outcome = .ok tables →
      (σ.read (s ++ ";" ++ t)).1.outcome = (σ.read t).1.outcome.map (tables ++ ·) ∧
        (σ.read (s ++ ";" ++ t)).1.notices = (σ.read s).1.notices ++ (σ.read t).1.notices) ∧
    (∀ s t : String, Respaced (s.toList.splitOn ';') (t.toList.splitOn ';') →
      (σ.read t).1.outcome = (σ.read s).1.outcome ∧
        (σ.read t).1.notices = (σ.read s).1.notices) := by
  refine ⟨fun s t f hf => ?_, fun s t tables hok => ?_, fun s t h => ?_⟩
  · have hboth := Script.transcript_toList_append σ.settings s t
    rw [Transcript.append_of_outcome_eq_error hf] at hboth
    simp only [read, hboth]
    exact ⟨hf, trivial⟩
  · have hboth := Script.transcript_toList_append σ.settings s t
    simp only [read, hboth]
    exact ⟨Transcript.outcome_append_of_outcome_eq_ok hok _,
      Transcript.notices_append_of_outcome_eq_ok hok _⟩
  · have hrun := Script.transcript_eq_of_respaced σ.settings h
    simp only [read, hrun, and_self]

/-- A declaration that a semicolon cuts in half is at fault, and its other half is not looked at.  A
statement that is left out leaves its notice, with or without a table behind it.  A table may be
spaced. -/
theorem Session.reads_halves_and_spaced :
    (((Session.mk {} []).read "CREATE TABLE t (a INT").1.outcome
        = .error (.malformed (.unbalancedBody "t" "(a INT")) ∧
      ((Session.mk {} []).read ("CREATE TABLE t (a INT" ++ ";" ++ "b INT)")).1.outcome
        = .error (.malformed (.unbalancedBody "t" "(a INT"))) ∧
    (((Session.mk {} []).read "ALTER TABLE t ADD b INT").1.outcome = .ok [] ∧
      ((Session.mk {} []).read
          ("ALTER TABLE t ADD b INT" ++ ";" ++ "CREATE TABLE s (a INT)")).1.notices
        = ((Session.mk {} []).read "ALTER TABLE t ADD b INT").1.notices
          ++ ((Session.mk {} []).read "CREATE TABLE s (a INT)").1.notices) ∧
    Respaced ("CREATE TABLE s (a INT)".toList.splitOn ';')
        ("\n CREATE TABLE s (a INT) ; ".toList.splitOn ';') ∧
      ((Session.mk {} []).read "\n CREATE TABLE s (a INT) ; ").1.outcome
        = ((Session.mk {} []).read "CREATE TABLE s (a INT)").1.outcome := by
  have hcut : ((Session.mk {} []).read "CREATE TABLE t (a INT").1.outcome
      = .error (.malformed (.unbalancedBody "t" "(a INT")) := by decide
  have hleft : ((Session.mk {} []).read "ALTER TABLE t ADD b INT").1.outcome = .ok [] := by decide
  have hspaced : Respaced ("CREATE TABLE s (a INT)".toList.splitOn ';')
      ("\n CREATE TABLE s (a INT) ; ".toList.splitOn ';') := by
    have hl : Blank "\n ".toList := by decide
    have hr : Blank " ".toList := by decide
    exact .pad hl hr (.blank hr .nil)
  obtain ⟨hfault, htables, hspacing⟩ := Session.read_concatenation (Session.mk {} [])
  exact ⟨⟨hcut, (hfault _ _ _ hcut).1⟩, ⟨hleft, (htables _ _ _ hleft).2⟩, hspaced,
    (hspacing _ _ hspaced).1⟩

end TableSchema
