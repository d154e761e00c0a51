import TableSchema.Ddl.Session
import TableSchema.Proofs.Ddl.Declaration

/-!
# Scripts and their declarations

Of the statements of a script only the declarations of tables can fail, and only they yield tables.
So the outcome of a script is that of its declarations, one after the other.

## Main definitions

* `declarations t` — what follows the words `CREATE TABLE` in those statements that start with them.

## Main results

* `Script.outcome_eq_ok_iff` — a script can be read exactly if each of its declarations can, and
  yields their tables in order.
* `Script.outcome_eq_outcome_concat` — the outcome of a script is that of its declarations.
* `Script.outcome_eq_map_outcome` — what one declaration does to the outcome of a script.
* `Session.outcome_read_eq_ok_iff` — when a session can read a script.
-/

namespace TableSchema

open Text

/-- What follows the words `CREATE TABLE` and a blank, in those statements that start with them.
The statements are the pieces between the semicolons, trimmed. -/
def declarations (t : List Char) : List (List Char) :=
  (t.splitOn ';').filterMap fun piece =>
    if Statement.createWords <+: trim piece then
      some ((trim piece).drop Statement.createWords.length)
    else none

/-- What follows the words of a declaration. -/
def Statement.declaration? : Statement → Option (List Char)
  | .createTable rest => some rest
  | _ => none

/-- A declaration that ends with its list has no outer blanks. -/
theorem trimmed_createWords_append (t : List Char) :
    Trimmed (Statement.createWords ++ (t ++ [')'])) := by
  have hstart : Trimmed "CREATE".toList := by decide
  have hend : Trimmed [')'] := by decide
  have hwords : Statement.createWords = "CREATE".toList ++ " TABLE ".toList := by decide
  rw [hwords, List.append_assoc, ← List.append_assoc " TABLE ".toList]
  exact hstart.append_append (by decide) hend (List.cons_ne_nil _ _) _

theorem declarations_eq (t : List Char) :
    declarations t = (Script.statements t).filterMap Statement.declaration? := by
  rw [declarations, Script.statements, ← splitAt_eq_splitOn, List.filterMap_filterMap]
  refine List.filterMap_congr fun piece _ => ?_
  rw [Statement.ofPiece?]
  cases h : afterLiteral? Statement.createWords (trim piece) with
  | some r =>
    rw [afterLiteral?_eq_some.mp h, if_pos (List.prefix_append _ r), List.drop_left]
    rfl
  | none =>
    rw [if_neg (afterLiteral?_eq_none_iff.mp h)]
    cases afterLiteral? Statement.alterWords (trim piece) with
    | some r => rfl
    | none => by_cases ht : trim piece = [] <;> simp [ht, Statement.declaration?]

/-- A script of one declaration. -/
theorem declarations_eq_singleton {rest : List Char} (hsemi : ';' ∉ rest)
    (htrim : Trimmed (Statement.createWords ++ rest)) :
    declarations (Statement.createWords ++ rest) = [rest] := by
  have hpieces : (Statement.createWords ++ rest).splitOn ';' = [Statement.createWords ++ rest] := by
    apply List.splitOn_eq_singleton
    have hwords : ';' ∉ Statement.createWords := by decide
    simp [hwords, hsemi]
  rw [declarations, hpieces, List.filterMap_cons, List.filterMap_nil, htrim.trim_eq,
    if_pos (List.prefix_append _ _), List.drop_left]

/-- The pieces of a script with few brackets have few. -/
theorem few_trim_of_mem_splitOn {b : Brackets} {t piece : List Char} (hfew : b.Few t)
    (h : piece ∈ t.splitOn ';') : b.Few (trim piece) := by
  rw [← splitAt_eq_splitOn] at h
  exact hfew.part ((trim_isInfix piece).trans (infix_of_mem_splitAt h))

/-- The declarations of a script with few brackets have few. -/
theorem few_of_mem_declarations {b : Brackets} {t rest : List Char} (hfew : b.Few t)
    (h : rest ∈ declarations t) : b.Few rest := by
  obtain ⟨piece, hpiece, hrest⟩ := List.mem_filterMap.mp h
  split at hrest
  next =>
    obtain rfl := Option.some.inj hrest
    exact (few_trim_of_mem_splitOn hfew hpiece).part (List.drop_suffix _ _).isInfix
  next => cases hrest

/-- The run over a declaration yields one table, if it succeeds. -/
theorem exists_of_createTranscript_outcome_eq_ok {s : ParseSettings} {rest : List Char}
    {tables : List TableDraft} (h : (Statement.createTranscript s rest).outcome = .ok tables) :
    ∃ d, tables = [d] := by
  obtain ⟨-, _, -, _, -, -, rfl⟩ := createTranscript_outcome_eq_ok_iff_clausesOf.mp h
  exact ⟨_, rfl⟩

/-- **A run over statements** succeeds exactly if the run over each declaration does. -/
theorem Statement.outcome_concat_eq_ok_iff {s : ParseSettings} {sts : List Statement}
    {tables : List TableDraft} :
    (Transcript.concat (sts.map (Statement.transcript s))).outcome = .ok tables ↔
      List.Forall₂ (fun rest d => (Statement.createTranscript s rest).outcome = .ok [d])
        (sts.filterMap Statement.declaration?) tables := by
  induction sts generalizing tables with
  | nil => simp [eq_comm]
  | cons st sts ih =>
    rw [List.map_cons, Transcript.concat_cons, Transcript.outcome_append_eq_ok_iff]
    cases st with
    -- a declaration yields one table, and any other statement none
    | createTable rest =>
      have hcons : (Statement.createTable rest :: sts).filterMap declaration?
          = rest :: sts.filterMap declaration? := rfl
      rw [hcons]
      constructor
      · rintro ⟨xs, ys, hx, hy, rfl⟩
        obtain ⟨d, rfl⟩ := exists_of_createTranscript_outcome_eq_ok hx
        exact .cons hx (ih.mp hy)
      · intro h
        cases h with
        | cons hd hds => exact ⟨_, _, hd, ih.mpr hds, rfl⟩
    | alterTable rest =>
      have hskip : (Statement.alterTable rest :: sts).filterMap declaration?
          = sts.filterMap declaration? := rfl
      simp [Statement.transcript, Event.table?, hskip, ← ih]
    | other t =>
      have hskip : (Statement.other t :: sts).filterMap declaration?
          = sts.filterMap declaration? := rfl
      simp [Statement.transcript, Event.table?, hskip, ← ih]

/-- **A script can be read exactly if each of its declarations can**, and yields their tables. -/
theorem Script.outcome_eq_ok_iff {s : ParseSettings} {t : List Char} {tables : List TableDraft} :
    (Script.transcript s t).outcome = .ok tables ↔
      List.Forall₂ (fun rest d => (Statement.createTranscript s rest).outcome = .ok [d])
        (declarations t) tables := by
  rw [Script.transcript, Statement.outcome_concat_eq_ok_iff, declarations_eq]

/-- **The outcome of a script is that of its declarations**, one after the other. -/
theorem Script.outcome_eq_outcome_concat (s : ParseSettings) (t : List Char) :
    (Script.transcript s t).outcome
      = (Transcript.concat ((declarations t).map (Statement.createTranscript s))).outcome := by
  rw [Script.transcript, declarations_eq]
  induction Script.statements t with
  | nil => rfl
  | cons st sts ih =>
    rw [List.map_cons, Transcript.concat_cons]
    cases st with
    | createTable rest => exact Transcript.outcome_append_congr _ ih
    -- what the other statements bring about is no table
    | alterTable rest =>
      rw [Statement.transcript, Transcript.event,
        Transcript.outcome_mk_append (by simp [Event.table?])]
      exact ih
    | other t =>
      rw [Statement.transcript, Transcript.event,
        Transcript.outcome_mk_append (by simp [Event.table?])]
      exact ih

/-- Declarations that can be read yield their tables in order. -/
theorem Statement.outcome_concat_of_forall₂ {s : ParseSettings} {rests : List (List Char)}
    {ds : List TableDraft}
    (h : List.Forall₂ (fun rest d => (createTranscript s rest).outcome = .ok [d]) rests ds) :
    (Transcript.concat (rests.map (createTranscript s))).outcome = .ok ds := by
  induction h with
  | nil => rfl
  | cons hd _ ih =>
    rw [List.map_cons, Transcript.concat_cons, Transcript.outcome_append_of_outcome_eq_ok hd, ih]
    rfl

/-- **Among declarations that can be read, one decides**: the outcome of the script is its outcome,
with their tables around. -/
theorem Script.outcome_eq_map_outcome {s : ParseSettings} {t rest : List Char}
    {before after : List (List Char)} {ds es : List TableDraft}
    (h : declarations t = before ++ rest :: after)
    (hbefore : List.Forall₂ (fun rest d => (Statement.createTranscript s rest).outcome = .ok [d])
      before ds)
    (hafter : List.Forall₂ (fun rest d => (Statement.createTranscript s rest).outcome = .ok [d])
      after es) :
    (Script.transcript s t).outcome
      = (Statement.createTranscript s rest).outcome.map (ds ++ · ++ es) := by
  rw [outcome_eq_outcome_concat, h, List.map_append, List.map_cons, Transcript.concat_append,
    Transcript.concat_cons,
    Transcript.outcome_append_of_outcome_eq_ok (Statement.outcome_concat_of_forall₂ hbefore)]
  cases hrest : (Statement.createTranscript s rest).outcome with
  | error f =>
    rw [Transcript.append_of_outcome_eq_error hrest, hrest]
    rfl
  | ok tables =>
    rw [Transcript.outcome_append_of_outcome_eq_ok hrest,
      Statement.outcome_concat_of_forall₂ hafter]
    simp [Except.map]

theorem Session.outcome_read_eq_ok_iff {σ : Session} {script : String} {tables : List TableDraft} :
    (σ.read script).1.outcome = .ok tables ↔
      List.Forall₂ (fun rest d => (Statement.createTranscript σ.settings rest).outcome = .ok [d])
        (declarations script.toList) tables :=
  Script.outcome_eq_ok_iff

end TableSchema
