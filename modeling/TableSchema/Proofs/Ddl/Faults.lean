import TableSchema.Proofs.Ddl.Accounting
import TableSchema.Proofs.Ddl.Malformation
import TableSchema.Proofs.Ddl.Names
import TableSchema.Proofs.Ddl.Steps

/-!
# What a script can be refused for

Only declarations of tables are refused, and there are few reasons: a missing name, a missing list,
an empty clause, an empty name of a key column, several key columns, and, where types have to be
listed, one that is not.  All but the first are told together with the table they are about.  The
refusals of single moves never reach the caller: none is made without a check that it succeeds,
except for the search for a list, and that is reported as a fault of the table.  What is missing of
a list is its closing bracket.  That its opening one is missing can be said among very many brackets
only.

## Main definitions

* `DeclarationFault strict table f` — what the declaration of a table with a name is refused for.

## Main results

* `Clause.read_eq_error_iff`, `TableDraft.absorb_eq_error_iff` — what a clause is refused for.
* `DeclarationFault.names_table` — the wording of a malformation has the name of the table.
* `Statement.faults_of_createTranscript` — what a declaration is refused for.
* `Statement.createTranscript_ne_unopened` — among few brackets, no opening bracket is missing.
* `Session.fails_only_for_declarations` — **what a script is refused for.**
-/

namespace TableSchema

open Text

/-! ### The faults of a declaration -/

/-- What the declaration of a table with a name is refused for. -/
inductive DeclarationFault (strict : Bool) (table : String) : Fault → Prop
  /-- No closing bracket behind the name ends a list. -/
  | unbalanced (found : String) :
    DeclarationFault strict table (.malformed (.unbalancedBody table found))
  /-- One does, and no opening bracket in front of it starts the list. -/
  | unopened : DeclarationFault strict table (.malformed (.unopenedBody table))
  /-- A clause is empty. -/
  | emptyClause : DeclarationFault strict table (.malformed (.emptyClause table))
  /-- A column of a key has no name. -/
  | emptyKeyColumn : DeclarationFault strict table (.malformed (.emptyKeyColumn table))
  /-- There are several key columns, all of them with a name. -/
  | severalKeys {columns : List String} (hmany : 2 ≤ columns.length)
    (hnames : ∀ column ∈ columns, IsKeyName column) :
    DeclarationFault strict table (.unsupportedKey table columns)
  /-- Types have to be listed, and one is not. -/
  | unlisted {type : List Char} (hstrict : strict = true) (htype : SqlType.lookup type = none) :
    DeclarationFault strict table (.unknownType (String.ofList type))

/-- **The wording of a malformation has the name of the table.** -/
theorem DeclarationFault.names_table {strict : Bool} {table : String} {cause : Malformation}
    (h : DeclarationFault strict table (.malformed cause)) :
    ("table '" ++ table ++ "'").toList <:+: cause.message.toList := by
  cases h with
  | unbalanced found =>
    have hwording : (Malformation.unbalancedBody table found).message
        = "table '" ++ table ++ "': no balanced '('...')' pair in '" ++ found ++ "'" := rfl
    refine ⟨[], (": no balanced '('...')' pair in '" ++ found ++ "'").toList, ?_⟩
    rw [hwording]
    simp
  | unopened =>
    have hwording : (Malformation.unopenedBody table).message
        = "table '" ++ table ++ "': missing '(' before ')'" := rfl
    refine ⟨[], ": missing '(' before ')'".toList, ?_⟩
    rw [hwording]
    simp
  | emptyClause =>
    have hwording : (Malformation.emptyClause table).message
        = "empty column clause in table '" ++ table ++ "'" := rfl
    refine ⟨"empty column clause in ".toList, [], ?_⟩
    rw [hwording]
    simp
  | emptyKeyColumn =>
    have hwording : (Malformation.emptyKeyColumn table).message
        = "empty column name in primary key of table '" ++ table ++ "'" := rfl
    refine ⟨"empty column name in primary key of ".toList, [], ?_⟩
    rw [hwording]
    simp

/-! ### Clauses -/

/-- **What a clause is refused for when it is read.** -/
theorem Clause.declarationFault_of_read {strict : Bool} {table t : List Char} {f : Fault}
    (hsemi : ';' ∉ t) (h : Clause.read table t = .error f) :
    DeclarationFault strict (String.ofList table) f := by
  rcases read_eq_error_iff.mp h with ⟨-, rfl⟩ | ⟨r, rfl, hkey⟩
  · exact .emptyClause
  rcases readKey_eq_error_iff.mp hkey with ⟨-, rfl⟩ | ⟨hnamed, hmany, rfl⟩
  · exact .emptyKeyColumn
  · refine .severalKeys (by rwa [List.length_map]) fun column hcolumn => ?_
    obtain ⟨column, hmem, rfl⟩ := List.mem_map.mp hcolumn
    have hne : column ≠ [] := by
      rintro rfl
      exact hnamed hmem
    exact isKeyName_of_mem_keyColumns (mt (List.mem_append_right _) hsemi) hmem hne

/-- **What a clause is refused for when it is added.** -/
theorem TableDraft.declarationFault_of_absorb {s : ParseSettings} {d : TableDraft} {c : Clause}
    {f : Fault} (hd : d.WellNamed) (hc : c.WellNamed) (h : (d.absorb s c).2 = .error f) :
    DeclarationFault s.strictTypes d.name f := by
  rcases absorb_eq_error_iff.mp h with
    ⟨name, type, rfl, hstrict, htype, rfl⟩ | ⟨column, key, rfl, hkey, rfl⟩
  · exact .unlisted hstrict htype
  · refine .severalKeys (Nat.le_refl 2) ?_
    simp only [List.mem_cons, List.not_mem_nil, or_false, forall_eq_or_imp, forall_eq]
    exact ⟨hd.key key hkey, hc⟩

/-! ### Declarations -/

namespace Statement

variable {s : ParseSettings} {f : Fault}

/-- **What the clauses of a table are refused for.** -/
theorem declarationFault_of_clausesTranscript {name : List Char} {parts : List (List Char)}
    (hname : IsName (String.ofList name)) (hsemi : ∀ p ∈ parts, ';' ∉ p)
    (h : (clausesTranscript s name ⟨String.ofList name, [], none⟩
      (parts.map trim)).outcome = .error f) :
    DeclarationFault s.strictTypes (String.ofList name) f := by
  obtain ⟨good, bad, more, cs, hts, hcs, -, hbad⟩ := clausesTranscript_outcome_eq_error_iff.mp h
  obtain ⟨good, rest, rfl, rfl, hrest⟩ := List.map_eq_append_iff.mp hts
  obtain ⟨bad, more, rfl, rfl, -⟩ := List.map_eq_cons_iff.mp hrest
  have hsemi_bad : ';' ∉ bad := hsemi bad (by simp)
  rcases hbad with hread | ⟨c, hread, habsorb⟩
  · exact Clause.declarationFault_of_read (mt mem_of_mem_trim hsemi_bad) hread
  · -- the names in the clauses before are such, so the draft is well named
    have hempty : (TableDraft.mk (String.ofList name) [] none).WellNamed :=
      ⟨hname, by simp, by simp⟩
    have hgood : ∀ c ∈ cs, c.WellNamed := by
      refine forall_mem_of_forall₂ (List.forall₂_map_left_iff.mp hcs) fun p hp c hc => ?_
      exact Clause.wellNamed_of_read (hsemi p (List.mem_append_left _ hp)) hc
    exact TableDraft.declarationFault_of_absorb (hempty.extend hgood)
      (Clause.wellNamed_of_read hsemi_bad hread) habsorb

/-- **What a declaration is refused for**: it has no name, or else one of the faults of a table with
this name. -/
theorem faults_of_createTranscript {rest : List Char} (hsemi : ';' ∉ rest)
    (h : (createTranscript s rest).outcome = .error f) :
    ∃ name behind, StartsWith rest name behind ∧
      ((name = [] ∧ f = .malformed .missingTableName) ∨
        (IsName (String.ofList name) ∧
          DeclarationFault s.strictTypes (String.ofList name) f)) := by
  obtain ⟨behind, hstart⟩ := startsWith_word rest
  refine ⟨word rest, behind, hstart, ?_⟩
  rw [createTranscript] at h
  by_cases hname : word rest = []
  · rw [if_pos hname] at h
    exact .inl ⟨hname, (Except.error.inj h).symm⟩
  rw [if_neg hname] at h
  refine .inr ⟨isName_word hname hsemi, ?_⟩
  cases hlist : Brackets.round.inside? (afterWord rest) with
  | none =>
    rw [hlist] at h
    obtain rfl := Except.error.inj h
    rw [listFault]
    split
    · exact .unbalanced _
    · exact .unopened
  | some list =>
    obtain ⟨parts, hparts, hmem⟩ := exists_clausesOf_eq hlist
    simp only [hlist, hparts] at h
    refine declarationFault_of_clausesTranscript (isName_word hname hsemi) (fun p hp => ?_) h
    exact fun hsemicolon => hsemi (hmem p hp _ hsemicolon)

/-- **Among few brackets, an opening one is never missing** in front of a closing one that is
found. -/
theorem createTranscript_ne_unopened {rest : List Char} (hfew : Brackets.round.Few rest)
    (table : String) :
    (createTranscript s rest).outcome ≠ .error (.malformed (.unopenedBody table)) := by
  intro h
  obtain ⟨-, hclose, hinside, -⟩ := createTranscript_unopened_iff.mp h
  exact hclose ((Brackets.inside?_eq_none_iff (few_afterWord hfew)).mp hinside)

end Statement

/-! ### Declarations with very many closing brackets -/

/-- What follows the words `CREATE TABLE` where nothing but closing brackets stands behind the
name. -/
def manyClosed (n : ℕ) : List Char := "t ".toList ++ List.replicate n ')'

/-- **Where the counter wraps, a closing bracket is found without an opening one.** -/
theorem createTranscript_manyClosed (s : ParseSettings) {n : ℕ} (hn : 0 < n)
    (h : Int32.ofInt (-n) = 0) : (Statement.createTranscript s (manyClosed n)).outcome
      = .error (.malformed (.unopenedBody "t")) := by
  have hstart : StartsWith (manyClosed n) "t".toList ([' '] ++ List.replicate n ')') := by
    refine ⟨rfl, by decide, fun c hc => ?_⟩
    obtain rfl : ' ' = c := Option.some.inj hc
    decide
  obtain ⟨i, hi⟩ : ∃ i, Brackets.round.close? (List.replicate n ')') = some i :=
    Brackets.exists_close?_replicate (by decide) hn h
  have hclose : Brackets.round.close? ([' '] ++ List.replicate n ')') = some (1 + i) := by
    have hbare : Brackets.round.Bare [' '] := by decide
    rw [Brackets.close?_append_of_bare hbare, hi]
    rfl
  have hopening : '(' ∉ [' '] ++ List.replicate n ')' := by simp [List.mem_replicate]
  rw [createTranscript_unopened_iff, hstart.word_eq, hstart.afterWord_eq, inside?_trimStart]
  refine ⟨by decide, fun hnone => ?_,
    Brackets.inside?_eq_none hclose (mt List.mem_of_mem_take hopening), by decide⟩
  rw [close?_trimStart_eq_none_iff, hclose] at hnone
  cases hnone

theorem declarations_manyClosed {n : ℕ} (hn : 0 < n) :
    declarations (Statement.createWords ++ manyClosed n) = [manyClosed n] := by
  obtain ⟨m, rfl⟩ := Nat.exists_eq_add_one_of_ne_zero (Nat.ne_of_gt hn)
  have htext : manyClosed (m + 1) = ("t ".toList ++ List.replicate m ')') ++ [')'] := by
    rw [manyClosed, List.replicate_succ', List.append_assoc]
  have hsemi : ';' ∉ manyClosed (m + 1) := by simp [manyClosed, List.mem_replicate]
  refine declarations_eq_singleton hsemi ?_
  rw [htext]
  exact trimmed_createWords_append _

/-! ### Scripts -/

/-- What is written in a script as a statement is one. -/
theorem exists_isWritten_of_mem {t p : List Char} (h : p ∈ writtenStatements t) :
    ∃ st : Statement, st.IsWritten p := by
  have hall : List.Forall₂ Statement.IsWritten (Script.statements t) (writtenStatements t) :=
    (forall₂_writtenStatements t).flip
  have hwritten : ∀ p ∈ writtenStatements t, ∃ st : Statement, st.IsWritten p :=
    forall_mem_of_forall₂ hall fun st _ p hp => ⟨st, hp⟩
  exact hwritten p h

/-- A statement of a script with few brackets has few. -/
theorem few_of_mem_writtenStatements {b : Brackets} {t p : List Char} (hfew : b.Few t)
    (h : p ∈ writtenStatements t) : b.Few p := by
  obtain ⟨piece, hpiece, rfl⟩ := List.mem_map.mp (List.mem_filter.mp h).1
  exact few_trim_of_mem_splitOn hfew hpiece

/-- A statement that declares no table can be read. -/
theorem Statement.alone_eq_ok {s : ParseSettings} {t p : List Char} (hp : p ∈ writtenStatements t)
    (hdecl : ¬ IsDeclaration p) : Statement.alone s p = .ok [] := by
  obtain ⟨st, hst⟩ := exists_isWritten_of_mem hp
  rw [hst.alone_eq s]
  rcases Statement.comes_to hst s with ⟨h, -⟩ | ⟨-, n, -, hrun⟩
  · exact absurd h hdecl
  · rw [hrun]
    rfl

/-- By itself, a declaration is read as what follows `CREATE TABLE`. -/
theorem Statement.alone_createWords_append {s : ParseSettings} {t rest : List Char}
    (h : createWords ++ rest ∈ writtenStatements t) :
    ';' ∉ rest ∧ Statement.alone s (createWords ++ rest) = (createTranscript s rest).outcome := by
  obtain ⟨st, hst⟩ := exists_isWritten_of_mem h
  have hread : some (.createTable rest) = some st := by
    rw [← hst.read, ofPiece?, afterLiteral?_append]
  obtain rfl := Option.some.inj hread
  exact ⟨mt (List.mem_append_right _) hst.semicolon, hst.alone_eq s⟩

namespace Session

/-- The fault of a script is that of a declaration. -/
theorem exists_declaration_of_read_eq_error {σ : Session} {script : String} {f : Fault}
    (hf : (σ.read script).1.outcome = .error f) :
    ∃ rest name behind, Statement.createWords ++ rest ∈ writtenStatements script.toList ∧
      Statement.alone σ.settings (Statement.createWords ++ rest) = .error f ∧
      StartsWith rest name behind ∧
      ((name = [] ∧ f = .malformed .missingTableName) ∨
        (IsName (String.ofList name) ∧
          DeclarationFault σ.settings.strictTypes (String.ofList name) f)) := by
  have hreports := σ.reports_read script
  rw [hf] at hreports
  obtain ⟨before, bad, after, _, hps, -, ⟨rest, rfl⟩, hbad⟩ := hreports.exists_refused
  have hmem : Statement.createWords ++ rest ∈ writtenStatements script.toList := by
    rw [hps]
    exact List.mem_append_right _ List.mem_cons_self
  obtain ⟨hsemi, halone⟩ := Statement.alone_createWords_append (s := σ.settings) hmem
  obtain ⟨name, behind, hstart, hfault⟩ :=
    Statement.faults_of_createTranscript hsemi (halone.symm.trans hbad)
  exact ⟨rest, name, behind, hmem, hbad, hstart, hfault⟩

/-- **What a script is refused for.**  Read move by move, it stops for its fault and for nothing
else.  So no literal is missing where one is skipped, and no cut misses a boundary.  If the script
has fewer than `2 ^ 31` brackets, an opening one stands in front of each closing one that is found.
The fault is that of a declaration, which has no name, or is refused for its list; then each
malformation tells the name of the table.  All other statements can be read. -/
theorem fails_only_for_declarations (σ : Session) (script : String) :
    let run := (Script.byMoves σ.settings script.toList).perform.1
    (∀ h, run = .error h ↔ ∃ f, h = .fault f ∧ (σ.read script).1.outcome = .error f) ∧
    (∀ literal found, run ≠ .error (.fault (.malformed (.expected literal found)))) ∧
    (∀ l r, run ≠ .error (.fault (.malformed (.unopened l r)))) ∧
    (Brackets.round.Few script.toList →
      ∀ table, run ≠ .error (.fault (.malformed (.unopenedBody table)))) ∧
    run ≠ .error .offBoundary ∧
    (∀ f, (σ.read script).1.outcome = .error f →
      ∃ rest name behind, Statement.createWords ++ rest ∈ writtenStatements script.toList ∧
        Statement.alone σ.settings (Statement.createWords ++ rest) = .error f ∧
        StartsWith rest name behind ∧
        ((name = [] ∧ f = .malformed .missingTableName) ∨
          (IsName (String.ofList name) ∧
            DeclarationFault σ.settings.strictTypes (String.ofList name) f ∧
            ∀ cause, f = .malformed cause →
              ("table '" ++ String.ofList name ++ "'").toList <:+: cause.message.toList))) ∧
    ∀ p ∈ writtenStatements script.toList, ¬ IsDeclaration p →
      Statement.alone σ.settings p = .ok [] := by
  intro run
  have hrun : ∀ h, run = .error h ↔ ∃ f, h = .fault f ∧ (σ.read script).1.outcome = .error f :=
    fun h => Script.perform_byMoves_eq_error_iff
  have hfault : ∀ f, run = .error (.fault f) → (σ.read script).1.outcome = .error f := by
    intro f h
    obtain ⟨g, hhalt, hg⟩ := (hrun _).mp h
    obtain rfl := Halt.fault.inj hhalt
    exact hg
  refine ⟨hrun, fun literal found hmissing => ?_, fun l r hmissing => ?_,
    fun hfew table hmissing => ?_, fun hoff => ?_, fun f hf => ?_,
    fun p hp hdecl => Statement.alone_eq_ok hp hdecl⟩
  · -- a missing literal is no fault of a declaration
    obtain ⟨_, _, _, -, -, -, ⟨-, hnone⟩ | ⟨-, hlist⟩⟩ :=
      exists_declaration_of_read_eq_error (hfault _ hmissing)
    · cases hnone
    · cases hlist
  · -- nor is a missing bracket of which no table is told
    obtain ⟨_, _, _, -, -, -, ⟨-, hnone⟩ | ⟨-, hlist⟩⟩ :=
      exists_declaration_of_read_eq_error (hfault _ hmissing)
    · cases hnone
    · cases hlist
  · obtain ⟨rest, _, _, hmem, halone, -⟩ :=
      exists_declaration_of_read_eq_error (hfault _ hmissing)
    obtain ⟨-, hrun⟩ := Statement.alone_createWords_append (s := σ.settings) hmem
    exact Statement.createTranscript_ne_unopened (few_of_mem_writtenStatements hfew hmem).right
      table (hrun.symm.trans halone)
  · obtain ⟨f, hhalt, -⟩ := (hrun _).mp hoff
    cases hhalt
  · obtain ⟨rest, name, behind, hmem, halone, hstart, hfault⟩ :=
      exists_declaration_of_read_eq_error hf
    refine ⟨rest, name, behind, hmem, halone, hstart, ?_⟩
    rcases hfault with hnone | ⟨hname, hfault⟩
    · exact .inl hnone
    · refine .inr ⟨hname, hfault, ?_⟩
      rintro cause rfl
      exact hfault.names_table

/-- A statement that is left out, and a table with two keys, one of them with a blank inside. -/
theorem fails_only_for_second_key :
    let σ : Session := ⟨⟨30, false⟩, []⟩
    let script := "DROP TABLE t; CREATE TABLE t (a INT, PRIMARY KEY a, PRIMARY KEY (b c))"
    let fault : Fault := .unsupportedKey "t" ["a", "b c"]
    (σ.read script).1.outcome = .error fault ∧ Brackets.round.Few script.toList ∧
      (∀ table, (Script.byMoves σ.settings script.toList).perform.1
        ≠ .error (.fault (.malformed (.unopenedBody table)))) ∧
      (Script.byMoves σ.settings script.toList).perform.1 = .error (.fault fault) ∧
      (∃ name, IsName name ∧ DeclarationFault false name fault) ∧
      Statement.alone σ.settings "DROP TABLE t".toList = .ok [] := by
  intro σ script fault
  have hfault : (σ.read script).1.outcome = .error fault := by decide
  obtain ⟨hhalt, -, -, hunopened, -, hcause, hothers⟩ := fails_only_for_declarations σ script
  have hfew : Brackets.round.Few script.toList := by decide
  refine ⟨hfault, hfew, hunopened hfew, (hhalt _).mpr ⟨fault, rfl, hfault⟩, ?_,
    hothers _ (by decide) (by decide)⟩
  obtain ⟨rest, name, behind, -, -, -, ⟨-, hnone⟩ | ⟨hname, hnamed, -⟩⟩ := hcause fault hfault
  · exact absurd hnone (by decide)
  · exact ⟨_, hname, hnamed⟩

/-- A script of such a declaration is refused as the declaration is. -/
theorem outcome_read_manyClosed (σ : Session) {n : ℕ} (hn : 0 < n) (h : Int32.ofInt (-n) = 0) :
    (σ.read (String.ofList (Statement.createWords ++ manyClosed n))).1.outcome
      = .error (.malformed (.unopenedBody "t")) := by
  have hdeclarations : declarations (Statement.createWords ++ manyClosed n)
      = [] ++ manyClosed n :: [] := declarations_manyClosed hn
  rw [← String.toList_ofList (l := Statement.createWords ++ manyClosed n)] at hdeclarations
  have hrun := Script.outcome_eq_map_outcome (s := σ.settings) hdeclarations .nil .nil
  rw [createTranscript_manyClosed σ.settings hn h] at hrun
  exact hrun

/-- Behind `2 ^ 32` closing brackets the counter has wrapped to zero, and the opening one is
missing. -/
theorem fails_for_missing_opening :
    let script := String.ofList (Statement.createWords ++ manyClosed (2 ^ 32))
    ((Session.mk {} []).read script).1.outcome = .error (.malformed (.unopenedBody "t")) ∧
      (Malformation.unopenedBody "t").message = "table 't': missing '(' before ')'" :=
  ⟨outcome_read_manyClosed _ (Nat.two_pow_pos 32) (by decide), by decide⟩

end Session

end TableSchema
