import TableSchema.Ddl.Clause

/-!
# Scripts

A script is a text of statements separated by semicolons.  `CREATE TABLE` statements declare tables;
`ALTER TABLE` statements and all others are left out with a notice; blank statements are nothing at
all.  The run over a script is the run over its statements, one after the other, and stops at the
first fault.

## Main definitions

* `Statement`, `Statement.ofPiece?` — a statement, told from its text.
* `Statement.transcript` — the run over one statement.
* `Script.statements`, `Script.transcript` — the statements of a script, and the run over them.
-/

namespace TableSchema

open Text

/-! ### Statements -/

/-- A statement that is not blank. -/
inductive Statement where
  /-- A table is declared; this is what follows `CREATE TABLE` and a blank. -/
  | createTable (rest : List Char)
  /-- A table is altered; this is what follows `ALTER TABLE` and a blank. -/
  | alterTable (rest : List Char)
  /-- Any other statement. -/
  | other (text : List Char)
  deriving DecidableEq, Repr

namespace Statement

/-- The words, with a blank behind them, that declare a table. -/
def createWords : List Char := "CREATE TABLE ".toList

/-- The words, with a blank behind them, that alter a table. -/
def alterWords : List Char := "ALTER TABLE ".toList

/-- The statement that a text without outer blanks is, unless it is blank. -/
def ofPiece? (t : List Char) : Option Statement :=
  match afterLiteral? createWords t with
  | some r => some (.createTable r)
  | none =>
    match afterLiteral? alterWords t with
    | some r => some (.alterTable r)
    | none => if t = [] then none else some (.other t)

/-! ### The run over a statement -/

/-- The run over the clauses of a table, which go into the draft one by one. -/
def clausesTranscript (s : ParseSettings) (table : List Char) :
    TableDraft → List (List Char) → Transcript
  | d, [] => .event (.declared d)
  | d, t :: ts =>
    match Clause.read table t with
    | .error f => .failed f
    | .ok clause =>
      match d.absorb s clause with
      | (events, .error f) => ⟨events, some f⟩
      | (events, .ok d') => Transcript.mk events none ++ clausesTranscript s table d' ts

/-- The clauses in the list of a table, without their outer blanks.  A blank list has none. -/
def clausesOf (list : List Char) : List (List Char) :=
  if trim list = [] then [] else (Brackets.round.split ',' (trim list)).map trim

/-- What is wrong with a table that has no list: there is no closing bracket to end it, or no
opening one to start it. -/
def listFault (table body : List Char) : Malformation :=
  if Brackets.round.close? body = none then
    .unbalancedBody (String.ofList table) (excerpt body)
  else .unopenedBody (String.ofList table)

/-- The run over the declaration of a table, from what follows the words `CREATE TABLE`. -/
def createTranscript (s : ParseSettings) (rest : List Char) : Transcript :=
  let name := word rest
  let body := afterWord rest
  if name = [] then .failed (.malformed .missingTableName)
  else
    match Brackets.round.inside? body with
    | none => .failed (.malformed (listFault name body))
    | some list => clausesTranscript s name ⟨String.ofList name, [], none⟩ (clausesOf list)

/-- The run over a statement. -/
def transcript (s : ParseSettings) : Statement → Transcript
  | .createTable rest => createTranscript s rest
  | .alterTable rest => .event (.noticed (.alterSkipped (String.ofList (word rest))))
  | .other t =>
    .event (.noticed (.unsupported (String.ofList (abbreviate s.abbreviationLength t))))

end Statement

/-! ### Scripts -/

namespace Script

/-- The statements of a script, in order. -/
def statements (t : List Char) : List Statement :=
  (splitAt ';' t).filterMap fun piece => Statement.ofPiece? (trim piece)

/-- The run over a script. -/
def transcript (s : ParseSettings) (t : List Char) : Transcript :=
  .concat ((statements t).map (Statement.transcript s))

end Script

end TableSchema
