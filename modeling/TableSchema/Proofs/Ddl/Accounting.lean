import TableSchema.Proofs.Ddl.Script

/-!
# Every statement is accounted for

A statement that is not blank either declares a table, or is left out with a notice; nothing else
comes of it, and nothing is skipped.  So the tables and the notices of a run are those of its
statements, in order, up to the first declaration that is refused, and the log repeats the notices.
Statements that are left out, and how much of them their notices show, have no influence on the
tables or on what the run fails with.

## Main definitions

* `writtenStatements t` — the statements of a script as they are written.
* `Leaves limit p n` — `n` is the notice on the statement `p`.
* `Accounts s ps ds ns` — the statements `ps` yield the tables `ds` and leave the notices `ns`.
* `Reports s ps outcome ns` — what comes of the statements `ps`, up to the first that is refused.
* `Transcript.sift g` — a run with some of its events left out or changed.

## Main results

* `Statement.comes_to` — what comes of one statement.
* `reports_concat` — what comes of several.
* `Script.sift_unlessNotice` — notices aside, a script is as good as its declarations.
* `Script.sift_withoutPreview` — previews aside, their length plays no part.
* `Session.accounts_for_statements` — **all statements of a script are accounted for.**
-/

namespace TableSchema

open Text

/-! ### Statements as they are written -/

/-- The statements of a script as they are written: the pieces between its semicolons without their
outer blanks, except where nothing is left. -/
def writtenStatements (t : List Char) : List (List Char) :=
  ((t.splitOn ';').map trim).filter (· ≠ [])

/-- The statement declares a table: it starts with the words `CREATE TABLE` and a blank. -/
def IsDeclaration (p : List Char) : Prop := Statement.createWords <+: p

instance : DecidablePred IsDeclaration := fun p =>
  inferInstanceAs (Decidable (Statement.createWords <+: p))

/-- The notice on a statement that declares no table, where previews show at most `limit`
characters. -/
inductive Leaves (limit : ℕ) : (statement : List Char) → Notice → Prop
  /-- An alteration is about the word right behind `ALTER TABLE` and a blank, which may be empty. -/
  | alteration {rest table behind : List Char} (h : StartsWith rest table behind) :
    Leaves limit (Statement.alterWords ++ rest) (.alterSkipped (String.ofList table))
  /-- Of any other statement that is short enough, the whole is shown. -/
  | whole {p : List Char} (ha : ¬ Statement.alterWords <+: p) (hlen : p.length ≤ limit) :
    Leaves limit p (.unsupported (String.ofList p))
  /-- Of a longer one, as many characters as previews have, and three dots. -/
  | start {shown hidden : List Char} (ha : ¬ Statement.alterWords <+: shown ++ hidden)
    (hlen : shown.length = limit) (hne : hidden ≠ []) :
    Leaves limit (shown ++ hidden) (.unsupported (String.ofList shown ++ "..."))

/-- The text is the statement `st`: it has no outer blanks and no semicolons, and reads so. -/
structure Statement.IsWritten (st : Statement) (p : List Char) : Prop where
  /-- The text has no outer blanks. -/
  trimmed : Trimmed p
  /-- The text has no semicolons. -/
  semicolon : ';' ∉ p
  /-- The text is read as this statement. -/
  read : Statement.ofPiece? p = some st

theorem Statement.ofPiece?_eq_none_iff {p : List Char} : Statement.ofPiece? p = none ↔ p = [] := by
  constructor
  · intro h
    unfold ofPiece? at h
    cases hc : afterLiteral? createWords p with
    | some r => simp [hc] at h
    | none =>
      cases ha : afterLiteral? alterWords p with
      | some r => simp [hc, ha] at h
      | none =>
        by_contra hne
        simp [hc, ha, hne] at h
  · rintro rfl
    rfl

/-- Pieces without semicolons are the writing of the statements that are read from them. -/
theorem forall₂_isWritten {pieces : List (List Char)} (h : ∀ p ∈ pieces, ';' ∉ p) :
    List.Forall₂ (fun p st => Statement.IsWritten st p) ((pieces.map trim).filter (· ≠ []))
      (pieces.filterMap fun piece => Statement.ofPiece? (trim piece)) := by
  induction pieces with
  | nil => exact .nil
  | cons piece pieces ih =>
    obtain ⟨hpiece, hpieces⟩ := List.forall_mem_cons.mp h
    have hrest := ih hpieces
    rw [List.map_cons, List.filterMap_cons]
    cases hread : Statement.ofPiece? (trim piece) with
    | none =>
      rw [Statement.ofPiece?_eq_none_iff.mp hread]
      exact hrest
    | some st =>
      have hne : trim piece ≠ [] := by
        intro hnil
        rw [Statement.ofPiece?_eq_none_iff.mpr hnil] at hread
        cases hread
      rw [List.filter_cons_of_pos (by simpa using hne)]
      exact .cons ⟨trimmed_trim piece, mt mem_of_mem_trim hpiece, hread⟩ hrest

/-- **The written statements of a script are its statements.** -/
theorem forall₂_writtenStatements (t : List Char) :
    List.Forall₂ (fun p st => Statement.IsWritten st p) (writtenStatements t)
      (Script.statements t) := by
  rw [writtenStatements, Script.statements, splitAt_eq_splitOn]
  apply forall₂_isWritten
  intro p hp
  rw [← splitAt_eq_splitOn] at hp
  exact notMem_of_mem_splitAt hp

/-! ### One statement -/

/-- What a session answers to a statement that it reads by itself. -/
def Statement.alone (s : ParseSettings) (p : List Char) : Except Fault (List TableDraft) :=
  ((Session.mk s []).read (String.ofList p)).1.outcome

theorem Statement.IsWritten.alone_eq {st : Statement} {p : List Char} (h : st.IsWritten p)
    (s : ParseSettings) : Statement.alone s p = (st.transcript s).outcome := by
  have hstatements : Script.statements p = [st] := by
    rw [Script.statements, splitAt_of_notMem h.semicolon, List.filterMap_cons, h.trimmed.trim_eq,
      h.read, List.filterMap_nil]
  have hrun : Script.transcript s p = st.transcript s := by
    rw [Script.transcript, hstatements, List.map_singleton, Transcript.concat_cons,
      Transcript.concat_nil, Transcript.append_empty]
  unfold Statement.alone Session.read
  rw [String.toList_ofList, hrun]

/-- The preview of a statement is a notice on it. -/
theorem leaves_abbreviate {limit : ℕ} {p : List Char} (ha : ¬ Statement.alterWords <+: p) :
    Leaves limit p (.unsupported (String.ofList (abbreviate limit p))) := by
  unfold abbreviate
  by_cases hlen : p.length ≤ limit
  · rw [if_pos hlen]
    exact .whole ha hlen
  · have hcut : p = p.take limit ++ p.drop limit := (List.take_append_drop limit p).symm
    have hshown : (p.take limit).length = limit := by
      rw [List.length_take]
      omega
    have hhidden : p.drop limit ≠ [] := by
      rw [ne_eq, List.drop_eq_nil_iff]
      exact hlen
    rw [if_neg hlen, String.ofList_append]
    rw [hcut] at ha
    conv => arg 2; rw [hcut]
    exact .start ha hshown hhidden

/-- **What comes of one statement**: a declaration is read without leaving a notice and yields a
table unless it is refused, and any other statement leaves its notice. -/
theorem Statement.comes_to {st : Statement} {p : List Char} (h : st.IsWritten p)
    (s : ParseSettings) :
    (IsDeclaration p ∧ (st.transcript s).notices = [] ∧
      ((∃ d, (st.transcript s).outcome = .ok [d]) ∨ ∃ f, (st.transcript s).outcome = .error f)) ∨
    (¬ IsDeclaration p ∧ ∃ n, Leaves s.abbreviationLength p n ∧
      st.transcript s = .event (.noticed n)) := by
  have hread := h.read
  unfold ofPiece? at hread
  cases hc : afterLiteral? createWords p with
  | some rest =>
    rw [hc] at hread
    obtain rfl := Option.some.inj hread
    refine .inl ⟨⟨rest, (afterLiteral?_eq_some.mp hc).symm⟩, createTranscript_notices s rest, ?_⟩
    cases hrun : (createTranscript s rest).outcome with
    | error f => exact .inr ⟨f, hrun⟩
    | ok tables =>
      obtain ⟨d, rfl⟩ := exists_of_createTranscript_outcome_eq_ok hrun
      exact .inl ⟨d, hrun⟩
  | none =>
    rw [hc] at hread
    refine .inr ⟨afterLiteral?_eq_none_iff.mp hc, ?_⟩
    cases ha : afterLiteral? alterWords p with
    | some rest =>
      rw [ha] at hread
      obtain rfl := Option.some.inj hread
      rw [afterLiteral?_eq_some.mp ha]
      obtain ⟨behind, hstart⟩ := startsWith_word rest
      exact ⟨_, .alteration hstart, rfl⟩
    | none =>
      rw [ha] at hread
      by_cases hne : p = []
      · simp [hne] at hread
      · simp only [hne, if_false] at hread
        obtain rfl := Option.some.inj hread
        exact ⟨_, leaves_abbreviate (afterLiteral?_eq_none_iff.mp ha), rfl⟩

/-! ### Several statements -/

/-- The statements yield these tables and leave these notices: a declaration yields the table that
it yields by itself, and any other statement leaves its notice. -/
inductive Accounts (s : ParseSettings) :
    (statements : List (List Char)) → List TableDraft → List Notice → Prop
  /-- Nothing comes of no statements. -/
  | nil : Accounts s [] [] []
  /-- A declaration yields a table. -/
  | declared {p : List Char} {d : TableDraft} {ps : List (List Char)} {ds : List TableDraft}
    {ns : List Notice} (hp : IsDeclaration p) (hd : Statement.alone s p = .ok [d])
    (rest : Accounts s ps ds ns) : Accounts s (p :: ps) (d :: ds) ns
  /-- Any other statement leaves a notice. -/
  | noticed {p : List Char} {n : Notice} {ps : List (List Char)} {ds : List TableDraft}
    {ns : List Notice} (hp : ¬ IsDeclaration p) (hn : Leaves s.abbreviationLength p n)
    (rest : Accounts s ps ds ns) : Accounts s (p :: ps) ds (n :: ns)

/-- What comes of statements: they are all accounted for, or those are that stand before the first
declaration that is refused. -/
inductive Reports (s : ParseSettings) :
    (statements : List (List Char)) → Except Fault (List TableDraft) → List Notice → Prop
  /-- No declaration is refused. -/
  | done {ps : List (List Char)} {ds : List TableDraft} {ns : List Notice}
    (h : Accounts s ps ds ns) : Reports s ps (.ok ds) ns
  /-- The declaration `bad` is refused, by itself as well; what follows plays no part. -/
  | refused {before after : List (List Char)} {bad : List Char} {ds : List TableDraft}
    {ns : List Notice} {f : Fault} (h : Accounts s before ds ns) (hbad : IsDeclaration bad)
    (hf : Statement.alone s bad = .error f) : Reports s (before ++ bad :: after) (.error f) ns

variable {s : ParseSettings} {ps : List (List Char)} {p : List Char} {ns : List Notice}

/-- **Every statement counts once**, as a table or as a notice. -/
theorem Accounts.length_add_length {ds : List TableDraft} (h : Accounts s ps ds ns) :
    ds.length + ns.length = ps.length := by
  induction h with
  | nil => rfl
  | declared hp hd rest ih =>
    simp only [List.length_cons]
    omega
  | noticed hp hn rest ih =>
    simp only [List.length_cons]
    omega

/-- If nothing is refused, all statements are accounted for. -/
theorem Reports.accounts {ds : List TableDraft} (h : Reports s ps (.ok ds) ns) :
    Accounts s ps ds ns := by
  cases h with
  | done h => exact h

/-- If something is refused, all statements before it are accounted for. -/
theorem Reports.exists_refused {f : Fault} (h : Reports s ps (.error f) ns) :
    ∃ before bad after ds, ps = before ++ bad :: after ∧ Accounts s before ds ns ∧
      IsDeclaration bad ∧ Statement.alone s bad = .error f := by
  cases h with
  | refused h hbad hf => exact ⟨_, _, _, _, rfl, h, hbad, hf⟩

theorem Reports.declared {d : TableDraft} {outcome : Except Fault (List TableDraft)}
    (hp : IsDeclaration p) (hd : Statement.alone s p = .ok [d]) (h : Reports s ps outcome ns) :
    Reports s (p :: ps) (outcome.map ([d] ++ ·)) ns := by
  cases h with
  | done h => exact .done (.declared hp hd h)
  | refused h hbad hf => exact .refused (.declared hp hd h) hbad hf

theorem Reports.noticed {n : Notice} {outcome : Except Fault (List TableDraft)}
    (hp : ¬ IsDeclaration p) (hn : Leaves s.abbreviationLength p n) (h : Reports s ps outcome ns) :
    Reports s (p :: ps) (outcome.map ([] ++ ·)) (n :: ns) := by
  cases h with
  | done h => exact .done (.noticed hp hn h)
  | refused h hbad hf => exact .refused (.noticed hp hn h) hbad hf

/-- **What comes of statements that are read one after the other.** -/
theorem reports_concat {sts : List Statement}
    (h : List.Forall₂ (fun p st => Statement.IsWritten st p) ps sts) :
    Reports s ps (Transcript.concat (sts.map (Statement.transcript s))).outcome
      (Transcript.concat (sts.map (Statement.transcript s))).notices := by
  induction h with
  | nil => exact .done .nil
  | @cons p st ps sts hp _ ih =>
    rw [List.map_cons, Transcript.concat_cons]
    rcases Statement.comes_to hp s with ⟨hdecl, hnone, ⟨d, hd⟩ | ⟨f, hf⟩⟩ | ⟨hdecl, n, hn, hrun⟩
    · rw [Transcript.outcome_append_of_outcome_eq_ok hd,
        Transcript.notices_append_of_outcome_eq_ok hd, hnone, List.nil_append]
      exact ih.declared hdecl ((hp.alone_eq s).trans hd)
    · -- the run stops here, and no statement stands before it
      rw [Transcript.append_of_outcome_eq_error hf, hf, hnone]
      have hbefore : Accounts s [] [] [] := .nil
      exact Reports.refused hbefore hdecl ((hp.alone_eq s).trans hf)
    · have hok : (st.transcript s).outcome = .ok [] := by rw [hrun]; rfl
      have hnotices : (st.transcript s).notices = [n] := by rw [hrun]; rfl
      rw [Transcript.outcome_append_of_outcome_eq_ok hok,
        Transcript.notices_append_of_outcome_eq_ok hok, hnotices, List.singleton_append]
      exact ih.noticed hdecl hn

/-! ### Runs with events left out -/

namespace Transcript

/-- The run with each event replaced by what `g` makes of it, or left out. -/
def sift (g : Event → Option Event) (t : Transcript) : Transcript :=
  ⟨t.events.filterMap g, t.fault⟩

variable {g : Event → Option Event}

/-- **Sifting one run after the other.** -/
theorem sift_append (a b : Transcript) : (a ++ b).sift g = a.sift g ++ b.sift g := by
  cases a with
  | mk es f =>
    cases f with
    | none => simp [append_def, append, sift]
    | some f => rfl

theorem sift_concat (ts : List Transcript) : (concat ts).sift g = concat (ts.map (sift g)) := by
  induction ts with
  | nil => rfl
  | cons t ts ih => rw [concat_cons, sift_append, ih, List.map_cons, concat_cons]

/-- Sifting that leaves the tables leaves the outcome, and the record that closes the run. -/
theorem tables_sift (h : ∀ e, (g e).bind Event.table? = e.table?) (t : Transcript) :
    (t.sift g).tables = t.tables := by
  rw [tables, sift, List.filterMap_filterMap, tables]
  exact List.filterMap_congr fun e _ => h e

theorem outcome_sift (h : ∀ e, (g e).bind Event.table? = e.table?) (t : Transcript) :
    (t.sift g).outcome = t.outcome := by
  rw [outcome, tables_sift h, outcome]
  rfl

theorem notices_sift (t : Transcript) :
    (t.sift g).notices = t.events.filterMap fun e => (g e).bind Event.notice? := by
  rw [notices, sift, List.filterMap_filterMap]

/-- The selected records of a run are those of its events and the one that closes it. -/
theorem filter_records (p : LogRecord → Bool) (t : Transcript) :
    t.records.filter p = (t.events.filterMap fun e => e.record?.filter p) ++
      (match t.fault with
        | some _ => []
        | none => [t.closing]).filter p := by
  unfold records
  rw [List.filter_append]
  exact congrArg (· ++ _) List.filter_filterMap

/-- Sifting that leaves the tables and the selected records of every event leaves all selected
records. -/
theorem filter_records_sift {p : LogRecord → Bool} (h : ∀ e, (g e).bind Event.table? = e.table?)
    (hp : ∀ e, ((g e).bind Event.record?).filter p = e.record?.filter p) (t : Transcript) :
    (t.sift g).records.filter p = t.records.filter p := by
  have hevents : ((t.events.filterMap g).filterMap fun e => e.record?.filter p)
      = t.events.filterMap fun e => e.record?.filter p := by
    rw [List.filterMap_filterMap]
    refine List.filterMap_congr fun e _ => ?_
    rw [← hp e]
    cases g e <;> rfl
  have hclosing : (t.sift g).closing = t.closing := by
    rw [closing, tables_sift h, closing]
  rw [filter_records, filter_records, hclosing]
  exact congrArg (· ++ _) hevents

end Transcript

/-! ### Scripts that differ in what is left out -/

/-- The event, unless it is a notice. -/
def Event.unlessNotice : Event → Option Event
  | .noticed _ => none
  | e => some e

theorem Event.table?_unlessNotice (e : Event) :
    (unlessNotice e).bind Event.table? = e.table? := by
  cases e with
  | declared d => rfl
  | noticed n => rfl
  | unrecognized sqlType field => rfl

theorem Transcript.notices_sift_unlessNotice (t : Transcript) :
    (t.sift Event.unlessNotice).notices = [] := by
  rw [notices_sift, List.filterMap_eq_nil_iff]
  intro e _
  cases e with
  | declared d => rfl
  | noticed n => rfl
  | unrecognized sqlType field => rfl

/-- The script without the statements that declare no table. -/
def onlyDeclarations (t : List Char) : List Char :=
  [';'].intercalate ((t.splitOn ';').filter fun piece => IsDeclaration (trim piece))

/-- A statement that is read from a text declares a table exactly if the text is a declaration. -/
theorem Statement.filter_ofPiece? (p : List Char) :
    (ofPiece? p).filter (·.declaration?.isSome) = if IsDeclaration p then ofPiece? p else none := by
  unfold ofPiece?
  cases hc : afterLiteral? createWords p with
  | some rest =>
    have hp : IsDeclaration p := ⟨rest, (afterLiteral?_eq_some.mp hc).symm⟩
    rw [if_pos hp]
    rfl
  | none =>
    have hp : ¬ IsDeclaration p := afterLiteral?_eq_none_iff.mp hc
    rw [if_neg hp]
    cases afterLiteral? alterWords p with
    | some rest => rfl
    | none => by_cases hne : p = [] <;> simp [hne, declaration?]

theorem Script.statements_onlyDeclarations (t : List Char) :
    statements (onlyDeclarations t) = (statements t).filter (·.declaration?.isSome) := by
  -- the pieces that are kept are the pieces of what they are put together to
  have hpieces : statements (onlyDeclarations t)
      = ((t.splitOn ';').filter fun piece => IsDeclaration (trim piece)).filterMap
          fun piece => Statement.ofPiece? (trim piece) := by
    rw [statements, splitAt_eq_splitOn, onlyDeclarations]
    by_cases hnil : ((t.splitOn ';').filter fun piece => IsDeclaration (trim piece)) = []
    · rw [hnil]
      rfl
    · rw [List.splitOn_intercalate ';' _ hnil]
      intro piece hmem
      have hpiece := (List.mem_filter.mp hmem).1
      rw [← splitAt_eq_splitOn] at hpiece
      exact notMem_of_mem_splitAt hpiece
  rw [hpieces, statements, splitAt_eq_splitOn, List.filterMap_filter, List.filter_filterMap]
  refine List.filterMap_congr fun piece _ => ?_
  rw [Statement.filter_ofPiece?]
  simp only [decide_eq_true_eq]

/-- A run over statements, notices aside, is the run over the declarations among them. -/
theorem Statement.sift_unlessNotice (s : ParseSettings) (sts : List Statement) :
    (Transcript.concat (sts.map (transcript s))).sift Event.unlessNotice
      = Transcript.concat ((sts.filter (·.declaration?.isSome)).map (transcript s)) := by
  induction sts with
  | nil => rfl
  | cons st sts ih =>
    rw [List.map_cons, Transcript.concat_cons, Transcript.sift_append, ih]
    cases st with
    | createTable rest =>
      -- reading a declaration leaves no notice, so nothing is left out
      have hself : (createTranscript s rest).sift Event.unlessNotice = createTranscript s rest := by
        have hevents : (createTranscript s rest).events.filterMap Event.unlessNotice
            = (createTranscript s rest).events := by
          conv_rhs => rw [← List.filterMap_some (l := (createTranscript s rest).events)]
          refine List.filterMap_congr fun e he => ?_
          rcases mem_events_createTranscript he with ⟨d, rfl⟩ | ⟨w, name, rfl⟩
          · rfl
          · rfl
        rw [Transcript.sift, hevents]
      rw [List.filter_cons_of_pos rfl, List.map_cons, Transcript.concat_cons, transcript, hself]
    | alterTable rest =>
      rw [List.filter_cons_of_neg (by simp [declaration?])]
      rfl
    | other t =>
      rw [List.filter_cons_of_neg (by simp [declaration?])]
      rfl

/-- **Notices aside, the run over a script is the run over its declarations.** -/
theorem Script.sift_unlessNotice (s : ParseSettings) (t : List Char) :
    (transcript s t).sift Event.unlessNotice = transcript s (onlyDeclarations t) := by
  rw [transcript, Statement.sift_unlessNotice, transcript, statements_onlyDeclarations]

/-! ### Settings that differ in the length of previews -/

/-- The notice without what it shows of the statement. -/
def Notice.withoutPreview : Notice → Notice
  | .alterSkipped table => .alterSkipped table
  | .unsupported _ => .unsupported ""

/-- The event without what it shows of the statement. -/
def Event.withoutPreview : Event → Event
  | .noticed n => .noticed n.withoutPreview
  | e => e

theorem Event.table?_withoutPreview (e : Event) :
    ((some ∘ withoutPreview) e).bind Event.table? = e.table? := by
  cases e with
  | declared d => rfl
  | noticed n => rfl
  | unrecognized sqlType field => rfl

theorem Transcript.notices_sift_withoutPreview (t : Transcript) :
    (t.sift (some ∘ Event.withoutPreview)).notices = t.notices.map Notice.withoutPreview := by
  rw [notices_sift, notices, List.map_filterMap]
  apply List.filterMap_congr
  intro e _
  cases e with
  | declared d => rfl
  | noticed n => rfl
  | unrecognized sqlType field => rfl

namespace Statement

/-- Adding a clause takes of the settings only whether they are strict. -/
theorem absorb_limit (n m : ℕ) (strict : Bool) (d : TableDraft) (c : Clause) :
    d.absorb ⟨n, strict⟩ c = d.absorb ⟨m, strict⟩ c := by
  cases c with
  | column name sqlType => rfl
  | key column => rfl

theorem clausesTranscript_limit (n m : ℕ) (strict : Bool) (table : List Char) (d : TableDraft)
    (ts : List (List Char)) :
    clausesTranscript ⟨n, strict⟩ table d ts = clausesTranscript ⟨m, strict⟩ table d ts := by
  induction ts generalizing d with
  | nil => rfl
  | cons t ts ih =>
    unfold clausesTranscript
    simp only [absorb_limit n m, ih]

/-- The length of previews plays no part in reading a declaration. -/
theorem createTranscript_limit (n m : ℕ) (strict : Bool) (rest : List Char) :
    createTranscript ⟨n, strict⟩ rest = createTranscript ⟨m, strict⟩ rest := by
  unfold createTranscript
  simp only [clausesTranscript_limit n m]

theorem sift_withoutPreview (n m : ℕ) (strict : Bool) (st : Statement) :
    (st.transcript ⟨n, strict⟩).sift (some ∘ Event.withoutPreview)
      = (st.transcript ⟨m, strict⟩).sift (some ∘ Event.withoutPreview) := by
  cases st with
  | createTable rest => exact congrArg _ (createTranscript_limit n m strict rest)
  | alterTable rest => rfl
  | other t => rfl

end Statement

/-- **Previews aside, the run over a script does not depend on their length.** -/
theorem Script.sift_withoutPreview (n m : ℕ) (strict : Bool) (t : List Char) :
    (transcript ⟨n, strict⟩ t).sift (some ∘ Event.withoutPreview)
      = (transcript ⟨m, strict⟩ t).sift (some ∘ Event.withoutPreview) := by
  rw [transcript, transcript, Transcript.sift_concat, Transcript.sift_concat, List.map_map,
    List.map_map]
  refine congrArg _ (List.map_congr_left fun st _ => ?_)
  exact Statement.sift_withoutPreview n m strict st

/-! ### What the log tells -/

/-- The record that a notice leaves: skipped alterations are warnings, the others are not. -/
def Notice.record : Notice → LogRecord
  | .alterSkipped table => ⟨.warn, .statements, (Notice.alterSkipped table).message⟩
  | .unsupported preview => ⟨.info, .statements, (Notice.unsupported preview).message⟩

/-- The record is a warning or a remark. -/
def LogRecord.isRemark (r : LogRecord) : Bool := r.severity = .warn || r.severity = .info

/-- **The warnings and remarks of a run are its notices.** -/
theorem Transcript.filter_isRemark_records (t : Transcript) :
    t.records.filter LogRecord.isRemark = t.notices.map Notice.record := by
  have hclosing : LogRecord.isRemark t.closing = false := rfl
  have hevents : t.events.filterMap (fun e => e.record?.filter LogRecord.isRemark)
      = t.events.filterMap fun e => e.notice?.map Notice.record := by
    refine List.filterMap_congr fun e _ => ?_
    cases e with
    | declared d => rfl
    | noticed n => cases n <;> rfl
    | unrecognized sqlType field => rfl
  rw [filter_records, hevents, notices, List.map_filterMap]
  cases t.fault <;> simp [hclosing]

/-- A notice leaves a warning or a remark, so the other records stay without it. -/
theorem Event.filter_record?_unlessNotice (e : Event) :
    ((unlessNotice e).bind Event.record?).filter (!·.isRemark)
      = e.record?.filter (!·.isRemark) := by
  rcases e with d | ⟨table | preview⟩ | ⟨sqlType, field⟩
  all_goals rfl

/-- Previews are shown by remarks only. -/
theorem Event.filter_record?_withoutPreview (e : Event) :
    (((some ∘ withoutPreview) e).bind Event.record?).filter (!·.isRemark)
      = e.record?.filter (!·.isRemark) := by
  rcases e with d | ⟨table | preview⟩ | ⟨sqlType, field⟩
  all_goals rfl

/-- A run without notices has neither warnings nor remarks. -/
theorem Transcript.filter_records_sift_unlessNotice (t : Transcript) :
    (t.sift Event.unlessNotice).records.filter (!·.isRemark)
      = (t.sift Event.unlessNotice).records := by
  have hremarks := filter_isRemark_records (t.sift Event.unlessNotice)
  rw [notices_sift_unlessNotice, List.map_nil, List.filter_eq_nil_iff] at hremarks
  rw [List.filter_eq_self]
  intro r hr
  simpa using hremarks r hr

/-! ### Sessions -/

namespace Session

/-- The session with previews of this length. -/
def withLimit (σ : Session) (limit : ℕ) : Session :=
  ⟨⟨limit, σ.settings.strictTypes⟩, σ.notices⟩

variable (σ : Session) (script : String)

/-- What a session answers is what the run over the script has come to. -/
theorem report_read :
    (σ.read script).1 = ⟨(Script.transcript σ.settings script.toList).outcome,
      (Script.transcript σ.settings script.toList).notices,
      (Script.transcript σ.settings script.toList).records⟩ := rfl

theorem reports_read :
    Reports σ.settings (writtenStatements script.toList) (σ.read script).1.outcome
      (σ.read script).1.notices :=
  reports_concat (forall₂_writtenStatements script.toList)

/-- **Statements that declare no table leave nothing but notices.** -/
theorem read_onlyDeclarations :
    (σ.read (String.ofList (onlyDeclarations script.toList))).1
      = ⟨(σ.read script).1.outcome, [], (σ.read script).1.log.filter (!·.isRemark)⟩ := by
  have hrun : Script.transcript σ.settings (String.ofList (onlyDeclarations script.toList)).toList
      = (Script.transcript σ.settings script.toList).sift Event.unlessNotice := by
    rw [String.toList_ofList, Script.sift_unlessNotice]
  have hlog := Transcript.filter_records_sift Event.table?_unlessNotice
    Event.filter_record?_unlessNotice (Script.transcript σ.settings script.toList)
  rw [Transcript.filter_records_sift_unlessNotice] at hlog
  rw [report_read, hrun, Transcript.outcome_sift Event.table?_unlessNotice,
    Transcript.notices_sift_unlessNotice, hlog]
  rfl

/-- **The length of previews changes nothing but previews.** -/
theorem read_withLimit (limit : ℕ) :
    let other := ((σ.withLimit limit).read script).1
    other.outcome = (σ.read script).1.outcome ∧
      other.notices.map Notice.withoutPreview
        = (σ.read script).1.notices.map Notice.withoutPreview ∧
      other.log.filter (!·.isRemark) = (σ.read script).1.log.filter (!·.isRemark) := by
  intro other
  have hrun := Script.sift_withoutPreview limit σ.settings.abbreviationLength
    σ.settings.strictTypes script.toList
  refine ⟨?_, ?_, ?_⟩
  · have houtcome := congrArg Transcript.outcome hrun
    rwa [Transcript.outcome_sift Event.table?_withoutPreview,
      Transcript.outcome_sift Event.table?_withoutPreview] at houtcome
  · have hnotices := congrArg Transcript.notices hrun
    rwa [Transcript.notices_sift_withoutPreview, Transcript.notices_sift_withoutPreview]
      at hnotices
  · have hlog := congrArg (fun t => t.records.filter (!·.isRemark)) hrun
    simp only [Transcript.filter_records_sift Event.table?_withoutPreview
      Event.filter_record?_withoutPreview] at hlog
    exact hlog

/-- **All statements of a script are accounted for.**  Each declaration yields its table and each
other statement leaves its notice, in order, up to the first declaration that is refused; the
warnings and remarks of the log are the notices.  The statements that declare no table can be left
out, and previews be of any length, without influence on the tables, the fault or the other
records. -/
theorem accounts_for_statements :
    let report := (σ.read script).1
    Reports σ.settings (writtenStatements script.toList) report.outcome report.notices ∧
    (∀ tables, report.outcome = .ok tables →
      tables.length + report.notices.length = (writtenStatements script.toList).length) ∧
    report.log.filter LogRecord.isRemark = report.notices.map Notice.record ∧
    (σ.read (String.ofList (onlyDeclarations script.toList))).1
      = ⟨report.outcome, [], report.log.filter (!·.isRemark)⟩ ∧
    ∀ limit,
      let other := ((σ.withLimit limit).read script).1
      other.outcome = report.outcome ∧
        other.notices.map Notice.withoutPreview = report.notices.map Notice.withoutPreview ∧
        other.log.filter (!·.isRemark) = report.log.filter (!·.isRemark) := by
  intro report
  refine ⟨σ.reports_read script, ?_, Transcript.filter_isRemark_records _,
    σ.read_onlyDeclarations script, σ.read_withLimit script⟩
  intro tables hok
  have hreports := σ.reports_read script
  rw [hok] at hreports
  exact hreports.accounts.length_add_length

/-- A declaration, an alteration, a blank statement and one that is too long for its preview. -/
theorem accounts_for_mixed_script :
    let report := ((Session.mk ⟨4, false⟩ []).read
      "CREATE TABLE t (a INT); ALTER TABLE t ADD b INT;\n; DROP TABLE t").1
    report.outcome = .ok [⟨"t", [⟨"a", .integer⟩], none⟩] ∧
      report.notices = [.alterSkipped "t", .unsupported "DROP..."] ∧
      [TableDraft.mk "t" [⟨"a", .integer⟩] none].length + report.notices.length
        = (writtenStatements
            "CREATE TABLE t (a INT); ALTER TABLE t ADD b INT;\n; DROP TABLE t".toList).length := by
  intro report
  have hok : report.outcome = .ok [⟨"t", [⟨"a", .integer⟩], none⟩] := by decide
  obtain ⟨-, hcount, -⟩ := accounts_for_statements (Session.mk ⟨4, false⟩ [])
    "CREATE TABLE t (a INT); ALTER TABLE t ADD b INT;\n; DROP TABLE t"
  exact ⟨hok, by decide, hcount _ hok⟩

end Session

end TableSchema
