import TableSchema.Proofs.Ddl.Declaration
import TableSchema.Proofs.Text.BracketMoves
import TableSchema.Proofs.Text.Words

/-!
# Reading move by move

A statement can be read by the moves of a window alone: skip the words it starts with, read a word,
enter a pair of brackets, split what is inside.  Each move can be refused, and a cut can miss a
boundary, so such a reading has more ways to stop than a run over a script has faults: a literal may
be missing where it was just seen.  Here scripts are read in that way, with every way to stop
written down.  The reading turns out to be the run over the script, so those further ways are never
taken.

## Main definitions

* `Halt` — why a reading stops.
* `Reading` — programs that note events and may stop; `Reading.perform` lets one run.
* `Reading.replay` — the program that brings about a given transcript.
* `Statement.declareByMoves`, `Statement.alterByMoves`, `Script.byMoves` — statements and scripts,
  read move by move.

## Main results

* `Statement.foldClauses_eq`, `Statement.declareByMoves_eq` — the reading of a declaration.
* `Script.perform_byMoves` — **reading a script move by move is the run over it.**
* `Script.perform_byMoves_eq_error_iff` — it stops for the fault of the run and for nothing else.
-/

namespace TableSchema

open Text

/-! ### Readings -/

/-- Why a reading stops before its end. -/
inductive Halt where
  /-- Something is wrong with what is read. -/
  | fault (f : Fault)
  /-- A cut missed the boundary between two characters. -/
  | offBoundary
  deriving DecidableEq, Repr

/-- Programs that note events, in order, and may stop. -/
abbrev Reading := ExceptT Halt (StateM (List Event))

namespace Reading

variable {α β : Type}

/-- Lets a program run: what it gives, or why it stops, and the events that it has noted. -/
def perform (x : Reading α) : Except Halt α × List Event := (StateT.run (ExceptT.run x) []).run

/-- Notes events. -/
def note (events : List Event) : Reading Unit := modify (· ++ events)

/-- Makes a cut, which may miss a boundary. -/
def cut : Option α → Reading α
  | some a => pure a
  | none => throw .offBoundary

/-- Goes on if nothing is wrong. -/
def check : Except Fault α → Reading α
  | .ok a => pure a
  | .error f => throw (.fault f)

/-- Makes a move of a window, which may be refused. -/
def made : Option (Cursor.Answer × Window) → Reading Window
  | none => throw .offBoundary
  | some (.refused cause, _) => throw (.fault (.malformed cause))
  | some (_, w) => pure w

/-- Notes what happened, and goes on if nothing is wrong. -/
def settle (x : List Event × Except Fault α) : Reading α := do
  note x.1
  check x.2

/-- Brings about what happened in a run. -/
def replay (t : Transcript) : Reading Unit := do
  note t.events
  match t.fault with
  | some f => throw (.fault f)
  | none => pure ()

@[simp] theorem cut_some (a : α) : cut (some a) = pure a := rfl

@[simp] theorem check_ok (a : α) : check (.ok a) = (pure a : Reading α) := rfl

@[simp] theorem check_error (f : Fault) : check (.error f) = (throw (.fault f) : Reading α) := rfl

/-- Nothing follows a stop. -/
@[simp] theorem throw_bind (h : Halt) (k : α → Reading β) : (throw h >>= k) = throw h := rfl

@[simp] theorem note_nil : note [] = pure () :=
  funext fun noted => congrArg (Prod.mk (Except.ok ())) (List.append_nil noted)

theorem note_append (es es' : List Event) : note (es ++ es') = (do note es; note es') :=
  funext fun noted => congrArg (Prod.mk (Except.ok ())) (List.append_assoc noted es es').symm

/-- **Runs one after the other are brought about one after the other.** -/
theorem replay_append (a b : Transcript) : replay (a ++ b) = (do replay a; replay b) := by
  rcases a with ⟨es, _ | f⟩
  · simp [replay, Transcript.append_def, Transcript.append, note_append]
  · simp [replay, Transcript.append_def, Transcript.append]

@[simp] theorem replay_empty : replay .empty = pure () := by simp [replay, Transcript.empty]

@[simp] theorem replay_event (e : Event) : replay (.event e) = note [e] := by
  simp [replay, Transcript.event]

@[simp] theorem replay_failed (f : Fault) : replay (.failed f) = throw (.fault f) := by
  simp [replay, Transcript.failed]

/-- What comes of a program that brings about a run. -/
theorem perform_replay (t : Transcript) :
    (replay t).perform = ((t.outcome.mapError .fault).map fun _ => (), t.events) := by
  rcases t with ⟨es, _ | f⟩
  · rfl
  · rfl

end Reading

/-! ### Statements and scripts, read move by move -/

open Reading

namespace Statement

/-- Reads a clause that declares a column, and adds it to the draft. -/
def columnByMoves (s : ParseSettings) (d : TableDraft) (clause : List Char) :
    Reading TableDraft := do
  let (name, w) ← cut (Window.ofText clause).readWord?
  let w ← cut w.trim?
  let (sqlType, _) ← cut w.readWord?
  settle (d.absorb s (.column name sqlType))

/-- Reads a clause that names the key, and adds it to the draft. -/
def keyByMoves (s : ParseSettings) (table : List Char) (d : TableDraft) (clause : List Char) :
    Reading TableDraft := do
  let w ← made ((Window.ofText clause).skip? Clause.keyWords)
  let w ← cut w.trim?
  let rest ← cut w.remaining?
  let c ← check (Clause.readKey table rest)
  settle (d.absorb s c)

/-- Reads a clause of a table, and adds it to the draft. -/
def clauseByMoves (s : ParseSettings) (table : List Char) (d : TableDraft)
    (clause : List Char) : Reading TableDraft :=
  if clause = [] then throw (.fault (.malformed (.emptyClause (String.ofList table))))
  else if (afterLiteral? Clause.keyWords clause).isSome then keyByMoves s table d clause
  else columnByMoves s d clause

/-- Narrows the window to the list of a table.  If there is none, the fault is one of the table. -/
def enterList (table : List Char) (w : Window) : Reading Window :=
  match w.enter? .round with
  | some (.refused (.unbalanced _ _ found), _) =>
    throw (.fault (.malformed (.unbalancedBody (String.ofList table) found)))
  | some (.refused (.unopened _ _), _) =>
    throw (.fault (.malformed (.unopenedBody (String.ofList table))))
  | reply => made reply

/-- Reads a statement that declares a table. -/
def declareByMoves (s : ParseSettings) (w : Window) : Reading Unit := do
  let w ← made (w.skip? createWords)
  let (name, w) ← cut w.readWord?
  if name = [] then throw (.fault (.malformed .missingTableName))
  else
    let w ← enterList name w
    let empty : TableDraft := ⟨String.ofList name, [], none⟩
    if w.isEmpty then note [.declared empty]
    else
      let (clauses, _) ← cut (Window.splitLoop? ',' .round (utf8Length w.input + 1) w)
      let d ← clauses.foldlM (clauseByMoves s name) empty
      note [.declared d]

/-- Reads a statement that alters a table. -/
def alterByMoves (w : Window) : Reading Unit := do
  let w ← made (w.skip? alterWords)
  let (table, _) ← cut w.readWord?
  note [.noticed (.alterSkipped (String.ofList table))]

/-- Reads what stands between two semicolons. -/
def pieceByMoves (s : ParseSettings) (piece : List Char) : Reading Unit := do
  let w := Window.ofText (trim piece)
  let rest ← cut w.remaining?
  if (afterLiteral? createWords rest).isSome then declareByMoves s w
  else if (afterLiteral? alterWords rest).isSome then alterByMoves w
  else if w.isEmpty then pure ()
  else
    let preview ← cut (Window.abbreviate? s.abbreviationLength rest)
    note [.noticed (.unsupported (String.ofList preview))]

end Statement

/-- Reads a script. -/
def Script.byMoves (s : ParseSettings) (t : List Char) : Reading Unit :=
  forM (splitAt ';' t) (Statement.pieceByMoves s)

/-! ### Moves that are made -/

theorem Text.Window.remaining?_ofText (t : List Char) : (Window.ofText t).remaining? = some t := by
  rw [← Cursor.window_ofText, Cursor.remaining?_window, Cursor.unread_ofText]

/-- **A literal that a text starts with is skipped**, and the rest is left. -/
theorem Reading.exists_made_skip? (lit r : List Char) :
    ∃ c : Cursor, c.unread = r ∧ made ((Window.ofText (lit ++ r)).skip? lit) = pure c.window := by
  refine ⟨(Cursor.ofText (lit ++ r)).advance lit.length, ?_, ?_⟩
  · rw [Cursor.unread_advance, Cursor.unread_ofText, List.drop_left]
  · rw [← Cursor.window_ofText, Window.skip?_window, Cursor.run, Cursor.unread_ofText,
      afterLiteral?_append]
    rfl

/-! ### Clauses -/

namespace Statement

variable {s : ParseSettings} {table : List Char} {d : TableDraft}

theorem columnByMoves_eq (t : List Char) :
    columnByMoves s d t = settle (d.absorb s (.column (word t) (word (afterWord t)))) := by
  obtain ⟨c, hc⟩ : ∃ c, c = Cursor.ofText t := ⟨_, rfl⟩
  have hword : word c.skipWord.trim.unread = word (afterWord t) := by
    rw [Cursor.unread_trim, Cursor.unread_skipWord, hc, Cursor.unread_ofText]
    exact word_trim isBlank_of_mem_head?_trimStart
  rw [columnByMoves, ← Cursor.window_ofText, ← hc]
  simp only [Window.readWord?_window, Window.trim?_window, cut_some, pure_bind, hword]
  rw [hc, Cursor.unread_ofText]

theorem keyByMoves_eq (r : List Char) :
    keyByMoves s table d (Clause.keyWords ++ r)
      = (do let c ← check (Clause.readKey table r); settle (d.absorb s c)) := by
  obtain ⟨c, hc, hskip⟩ := exists_made_skip? Clause.keyWords r
  have hrest : c.trim.unread = trim r := by rw [Cursor.unread_trim, hc]
  -- the columns of a key are told from a text without its outer blanks
  have hread : Clause.readKey table (trim r) = Clause.readKey table r := by
    rw [Clause.readKey, Clause.readKey, Clause.keyColumns, Clause.keyColumns, trim_trim]
  rw [keyByMoves, hskip]
  simp only [Window.trim?_window, Cursor.remaining?_window, cut_some, pure_bind, hrest, hread]

/-- A clause is read, and then added to the draft. -/
theorem clauseByMoves_eq (t : List Char) :
    clauseByMoves s table d t
      = (do let c ← check (Clause.read table t); settle (d.absorb s c)) := by
  rw [clauseByMoves, Clause.read]
  by_cases ht : t = []
  · rw [if_pos ht, if_pos ht, check_error, throw_bind]
  rw [if_neg ht, if_neg ht]
  cases hkey : afterLiteral? Clause.keyWords t with
  | some r =>
    rw [afterLiteral?_eq_some.mp hkey]
    exact keyByMoves_eq r
  | none => exact columnByMoves_eq t

/-- **Clauses that are read one by one bring about the run over them.** -/
theorem foldClauses_eq (ts : List (List Char)) :
    (do let d' ← ts.foldlM (clauseByMoves s table) d; note [.declared d'])
      = replay (clausesTranscript s table d ts) := by
  induction ts generalizing d with
  | nil => rw [List.foldlM_nil, pure_bind, clausesTranscript, replay_event]
  | cons t ts ih =>
    rw [List.foldlM_cons, bind_assoc, clauseByMoves_eq, clausesTranscript]
    cases Clause.read table t with
    | error f => rw [check_error, throw_bind, throw_bind, replay_failed]
    | ok c =>
      rw [check_ok, pure_bind]
      rcases hc : d.absorb s c with ⟨events, f | d'⟩
      · simp [settle, replay, hc]
      · simp only [settle, hc, check_ok, bind_assoc, pure_bind, ih, replay_append]
        simp [replay]

/-! ### Statements -/

/-- **The list of a table is entered, if there is one**, and else it is said what is missing. -/
theorem enterList_window (name : List Char) (c : Cursor) :
    (Brackets.round.inside? c.unread = none ∧
      enterList name c.window = throw (.fault (.malformed (listFault name c.unread)))) ∨
    ∃ (list : List Char) (d : Cursor), Brackets.round.inside? c.unread = some list ∧
      d.unread = trim list ∧ enterList name c.window = pure d.window := by
  rw [enterList, Window.enter?_window, listFault]
  rcases c.enter_cases .round with ⟨hclose, hrun⟩ | ⟨hclose, hinside, d, hrun⟩ |
    ⟨list, d, hinside, hrun, hd⟩
  · have hinside : Brackets.round.inside? c.unread = none := by
      rw [Brackets.inside?, hclose]
      rfl
    rw [hrun, if_pos hclose]
    exact .inl ⟨hinside, rfl⟩
  · rw [hrun, if_neg hclose]
    exact .inl ⟨hinside, rfl⟩
  · rw [hrun]
    exact .inr ⟨list, d, hinside, hd, rfl⟩

/-- **A declaration that is read move by move brings about the run over it.** -/
theorem declareByMoves_eq (rest : List Char) :
    declareByMoves s (Window.ofText (createWords ++ rest)) = replay (createTranscript s rest) := by
  obtain ⟨c, rfl, hskip⟩ := exists_made_skip? createWords rest
  rw [declareByMoves, hskip, createTranscript, ← Cursor.unread_skipWord]
  simp only [Window.readWord?_window, cut_some, pure_bind]
  by_cases hname : word c.unread = []
  · rw [if_pos hname, if_pos hname, replay_failed]
  rw [if_neg hname, if_neg hname]
  rcases enterList_window (word c.unread) c.skipWord with
    ⟨hnone, henter⟩ | ⟨list, d, hlist, hd, henter⟩
  · rw [henter, hnone, throw_bind, replay_failed]
  · rw [henter, hlist, pure_bind, ← foldClauses_eq, clausesOf, ← hd]
    have hempty := Window.isEmpty_iff d.remaining?_window
    by_cases hnil : d.unread = []
    · rw [if_pos (hempty.mpr hnil), if_pos hnil]
      rfl
    · rw [if_neg (mt hempty.mp hnil), if_neg hnil,
        Window.splitLoop?_window d _ _ (Window.length_split_le d _ _)]
      rfl

theorem alterByMoves_eq (rest : List Char) :
    alterByMoves (Window.ofText (alterWords ++ rest))
      = replay (.event (.noticed (.alterSkipped (String.ofList (word rest))))) := by
  obtain ⟨c, rfl, hskip⟩ := exists_made_skip? alterWords rest
  rw [alterByMoves, hskip]
  simp only [Window.readWord?_window, cut_some, pure_bind, replay_event]

/-- **What stands between two semicolons brings about the run over the statement that it is.** -/
theorem pieceByMoves_eq (piece : List Char) :
    pieceByMoves s piece
      = match ofPiece? (trim piece) with
        | some st => replay (st.transcript s)
        | none => pure () := by
  rw [pieceByMoves, ofPiece?]
  simp only [Window.remaining?_ofText, cut_some, pure_bind]
  cases hcreate : afterLiteral? createWords (trim piece) with
  | some rest =>
    rw [Option.isSome_some, if_pos rfl, afterLiteral?_eq_some.mp hcreate, declareByMoves_eq]
    rfl
  | none =>
    rw [Option.isSome_none, if_neg Bool.false_ne_true]
    cases halter : afterLiteral? alterWords (trim piece) with
    | some rest =>
      rw [Option.isSome_some, if_pos rfl, afterLiteral?_eq_some.mp halter, alterByMoves_eq]
      rfl
    | none =>
      have hempty := Window.isEmpty_iff (Window.remaining?_ofText (trim piece))
      rw [Option.isSome_none, if_neg Bool.false_ne_true]
      by_cases hnil : trim piece = []
      · rw [if_pos (hempty.mpr hnil), if_pos hnil]
      · rw [if_neg (mt hempty.mp hnil), if_neg hnil, Window.abbreviate?_eq, cut_some, pure_bind]
        exact (replay_event _).symm

end Statement

/-! ### Scripts -/

theorem Script.byMoves_eq (s : ParseSettings) (t : List Char) :
    byMoves s t = replay (transcript s t) := by
  rw [byMoves, transcript, statements]
  induction splitAt ';' t with
  | nil => simp
  | cons piece pieces ih =>
    rw [List.forM_cons, ih, Statement.pieceByMoves_eq, List.filterMap_cons]
    cases Statement.ofPiece? (trim piece) with
    | none => rw [pure_bind]
    | some st => rw [List.map_cons, Transcript.concat_cons, replay_append]

/-- **Reading a script move by move is the run over it**: the same events are noted, and it stops
for the faults of the run and for nothing else. -/
theorem Script.perform_byMoves (s : ParseSettings) (t : List Char) :
    (byMoves s t).perform = (((transcript s t).outcome.mapError .fault).map fun _ => (),
      (transcript s t).events) := by
  rw [byMoves_eq, perform_replay]

/-- Read move by move, a script stops for its fault and for nothing else. -/
theorem Script.perform_byMoves_eq_error_iff {s : ParseSettings} {t : List Char} {h : Halt} :
    (byMoves s t).perform.1 = .error h ↔
      ∃ f, h = .fault f ∧ (transcript s t).outcome = .error f := by
  rw [perform_byMoves]
  cases (transcript s t).outcome with
  | error f => simp [Except.mapError, Except.map, eq_comm]
  | ok tables => simp [Except.mapError, Except.map]

end TableSchema
