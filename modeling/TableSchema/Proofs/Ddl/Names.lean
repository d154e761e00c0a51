import TableSchema.Proofs.Ddl.Script
import TableSchema.Proofs.Schema.Report
import TableSchema.Proofs.Schema.Table

/-!
# Names of tables that are read

The name of a table and the names of its fields are words, and the key is an item of a list, so they
are never empty and have no blanks at their ends; words have none at all.  Being cut from a
statement, they have no semicolons.  So of the ways in which a draft can fail to be a table, two are
left for a draft that was read: a repeated field and a stray key.

## Main definitions

* `IsName name`, `IsKeyName name` — what names of tables and fields, and keys, are like.
* `TableDraft.WellNamed d` — all names of the draft are so.

## Main results

* `Clause.wellNamed_of_read`, `TableDraft.WellNamed.extend` — the names that a clause adds.
* `wellNamed_of_createTranscript` — the names of a declaration.
* `Session.wellNamed_of_read` — the names of all tables that a session reads.
* `Session.drafts_fail_only_for_flaws` — **which drafts that were read are no tables, and why.**
* `Session.report_determines_tables` — **reports on tables that were read are unambiguous.**
-/

namespace TableSchema

open Text

/-! ### Names -/

/-- The text is a name of a table or field. -/
structure IsName (name : String) : Prop where
  /-- It is not empty. -/
  ne_empty : name ≠ ""
  /-- It has no blanks. -/
  solid : Solid name.toList
  /-- It has no semicolons. -/
  semicolon : ';' ∉ name.toList

/-- The text can be the name of a key, which may have blanks between its words. -/
structure IsKeyName (name : String) : Prop where
  /-- It is not empty. -/
  ne_empty : name ≠ ""
  /-- It has no blanks at its ends. -/
  trimmed : Trimmed name.toList
  /-- It has no commas. -/
  comma : ',' ∉ name.toList
  /-- It has no semicolons. -/
  semicolon : ';' ∉ name.toList

theorem ofList_ne_empty {t : List Char} (h : t ≠ []) : String.ofList t ≠ "" := by
  intro he
  apply h
  rw [← String.toList_ofList (l := t), he]
  rfl

/-- The word at the start of a text is a name. -/
theorem isName_word {t : List Char} (hne : word t ≠ []) (hsemi : ';' ∉ t) :
    IsName (String.ofList (word t)) where
  ne_empty := ofList_ne_empty hne
  solid := by
    rw [String.toList_ofList]
    exact solid_word t
  semicolon := by
    rw [String.toList_ofList]
    intro hmem
    apply hsemi
    rw [← word_append_dropWhile t]
    exact List.mem_append_left _ hmem

/-! ### Clauses -/

/-- The names in a clause are such. -/
def Clause.WellNamed : Clause → Prop
  | .column name _ => IsName (String.ofList name)
  | .key name => IsKeyName (String.ofList name)

/-- A list in a key clause has no characters but those of the clause. -/
theorem Clause.Unbracketed.mem {t list : List Char} (h : Clause.Unbracketed t list) {c : Char}
    (hc : c ∈ list) : c ∈ t := by
  rcases h with rfl | ⟨-, rfl⟩
  · exact List.mem_cons_of_mem _ (List.mem_append_left _ hc)
  · exact hc

/-- A column that a key clause lists is named by an item of a list, unless it has no name. -/
theorem Clause.isKeyName_of_mem_keyColumns {t column : List Char} (hsemi : ';' ∉ t)
    (h : column ∈ keyColumns t) (hne : column ≠ []) : IsKeyName (String.ofList column) := by
  obtain ⟨item, hitem, rfl⟩ := List.mem_map.mp h
  have hlist : Unbracketed (trim t) (unbracket (trim t)) := unbracket_eq_iff.mp rfl
  have hcomma : ',' ∉ item := notMem_of_mem_splitAt hitem
  have hitem_semi : ';' ∉ item := by
    intro hmem
    have hin := mem_of_mem_splitAt hitem hmem
    exact hsemi (mem_of_mem_trim (hlist.mem (mem_of_mem_trim hin)))
  refine ⟨ofList_ne_empty hne, ?_, ?_, ?_⟩
  · rw [String.toList_ofList]
    exact trimmed_trim item
  · rw [String.toList_ofList]
    exact mt mem_of_mem_trim hcomma
  · rw [String.toList_ofList]
    exact mt mem_of_mem_trim hitem_semi

theorem Clause.NamesOne.isKeyName {t column : List Char} (h : Clause.NamesOne t column)
    (hsemi : ';' ∉ t) : IsKeyName (String.ofList column) := by
  have hcolumns : keyColumns t = [column] := keyColumns_eq_singleton_iff.mpr ⟨h.list, h.single⟩
  have hmem : column ∈ keyColumns t := by
    rw [hcolumns]
    exact List.mem_singleton_self column
  exact isKeyName_of_mem_keyColumns hsemi hmem h.named

/-- **The names in a clause that was read** are such if the clause has no semicolons. -/
theorem Clause.wellNamed_of_read {table p : List Char} {c : Clause} (hsemi : ';' ∉ p)
    (h : Clause.read table (trim p) = .ok c) : c.WellNamed := by
  rw [Clause.read_eq_ok_iff] at h
  have htrim : ';' ∉ trim p := mt mem_of_mem_trim hsemi
  obtain ⟨hne, ⟨r, column, hr, hnames, rfl⟩ | ⟨-, rfl⟩⟩ := h
  · apply hnames.isKeyName
    rw [hr] at htrim
    intro hmem
    exact htrim (List.mem_append_right _ hmem)
  · -- the clause is not empty and does not start with a blank, so it starts with a word
    exact isName_word (word_ne_nil hne (trimmed_trim p).head) htrim

/-! ### Drafts -/

/-- All names in the draft are such. -/
structure TableDraft.WellNamed (d : TableDraft) : Prop where
  /-- The table has a name. -/
  name : IsName d.name
  /-- So have all fields. -/
  fields : ∀ f ∈ d.fields, IsName f.name
  /-- And so has the key, if there is one. -/
  key : ∀ key ∈ d.key, IsKeyName key

/-- **What clauses say leaves a draft well named**, if they are so themselves. -/
theorem TableDraft.WellNamed.extend {d : TableDraft} {cs : List Clause} (hd : d.WellNamed)
    (hcs : ∀ c ∈ cs, c.WellNamed) : (d.extend cs).WellNamed where
  name := hd.name
  fields := by
    intro f hf
    rcases List.mem_append.mp hf with hf | hf
    · exact hd.fields f hf
    · obtain ⟨c, hc, hfield⟩ := List.mem_filterMap.mp hf
      cases c with
      | column name sqlType =>
        obtain rfl := Option.some.inj hfield
        exact hcs _ hc
      | key column => simp [Clause.field?] at hfield
  key := by
    intro key hkey
    cases hold : d.key with
    | some old =>
      have hsame : (d.extend cs).key = some old := by simp [TableDraft.extend, hold]
      rw [hsame, Option.mem_some_iff] at hkey
      rw [← hkey]
      exact hd.key old hold
    | none =>
      have hfirst : (d.extend cs).key = (cs.filterMap Clause.keyName?).head? := by
        simp [TableDraft.extend, hold]
      rw [hfirst] at hkey
      obtain ⟨c, hc, hname⟩ := List.mem_filterMap.mp (List.mem_of_mem_head? hkey)
      cases c with
      | column name sqlType => simp [Clause.keyName?] at hname
      | key column =>
        obtain rfl := Option.some.inj hname
        exact hcs _ hc

/-! ### Declarations -/

/-- What follows for all that is related to members of a list holds of a list related to it. -/
theorem forall_mem_of_forall₂ {α β : Type} {R : α → β → Prop} {P : β → Prop} {xs : List α}
    {ys : List β} (h : List.Forall₂ R xs ys) (hP : ∀ x ∈ xs, ∀ y, R x y → P y) : ∀ y ∈ ys, P y := by
  induction h with
  | nil => simp
  | cons hxy _ ih =>
    obtain ⟨hfirst, hrest⟩ := List.forall_mem_cons.mp hP
    exact List.forall_mem_cons.mpr ⟨hfirst _ hxy, ih hrest⟩

/-- **The names of a declaration** without semicolons. -/
theorem wellNamed_of_createTranscript {s : ParseSettings} {rest : List Char} {d : TableDraft}
    (hsemi : ';' ∉ rest) (h : (Statement.createTranscript s rest).outcome = .ok [d]) :
    d.WellNamed := by
  obtain ⟨hname, list, hlist, cs, hcs, -, hd⟩ :=
    createTranscript_outcome_eq_ok_iff_clausesOf.mp h
  obtain rfl := List.singleton_inj.mp hd
  obtain ⟨parts, hparts, hmem⟩ := exists_clausesOf_eq hlist
  rw [hparts, List.forall₂_map_left_iff] at hcs
  have hempty : (TableDraft.mk (String.ofList (word rest)) [] none).WellNamed :=
    ⟨isName_word hname hsemi, by simp, by simp⟩
  apply hempty.extend
  refine forall_mem_of_forall₂ hcs ?_
  intro p hp c hread
  exact Clause.wellNamed_of_read (fun h => hsemi (hmem p hp _ h)) hread

/-- A declaration of a script has no semicolons. -/
theorem semicolon_notMem_of_mem_declarations {t rest : List Char} (h : rest ∈ declarations t) :
    ';' ∉ rest := by
  obtain ⟨piece, hpiece, hrest⟩ := List.mem_filterMap.mp h
  rw [← splitAt_eq_splitOn] at hpiece
  split at hrest
  next =>
    obtain rfl := Option.some.inj hrest
    intro hmem
    exact notMem_of_mem_splitAt hpiece (mem_of_mem_trim (List.mem_of_mem_drop hmem))
  next => simp at hrest

/-! ### Scripts -/

namespace Session

/-- **The names of all tables that a session reads.** -/
theorem wellNamed_of_read {σ : Session} {script : String} {drafts : List TableDraft}
    (h : (σ.read script).1.outcome = .ok drafts) : ∀ d ∈ drafts, d.WellNamed := by
  refine forall_mem_of_forall₂ (Session.outcome_read_eq_ok_iff.mp h) ?_
  intro rest hrest d hd
  exact wellNamed_of_createTranscript (semicolon_notMem_of_mem_declarations hrest) hd

theorem name_ne_empty_of_read {σ : Session} {script : String} {drafts : List TableDraft}
    (h : (σ.read script).1.outcome = .ok drafts) : ∀ d ∈ drafts, d.name ≠ "" := by
  intro d hd
  exact (wellNamed_of_read h d hd).name.ne_empty

/-- **Drafts that were read are well named, so they fail to be tables only for their flaws**: a
repeated field, or else a stray key, in the first draft that has either.  Drafts without flaws
become the tables with their parts. -/
theorem drafts_fail_only_for_flaws {σ : Session} {script : String} {drafts : List TableDraft}
    (h : (σ.read script).1.outcome = .ok drafts) :
    (∀ d ∈ drafts, d.WellNamed) ∧
    (∀ f, tablesOfDrafts drafts = .error f ↔ ∃ before bad after cause,
      drafts = before ++ bad :: after ∧ (∀ d ∈ before, d.Consistent) ∧ bad.Flawed cause ∧
        f = .invalid cause) ∧
    ((∃ f, tablesOfDrafts drafts = .error f) ↔ ∃ d ∈ drafts,
      ¬ d.fieldNames.Nodup ∨ ∃ key, d.key = some key ∧ key ∉ d.fieldNames) ∧
    tablesOfDrafts drafts ≠ .error (.invalid .emptyTypeName) ∧
    ∀ tables, tablesOfDrafts drafts = .ok tables ↔
      (∀ d ∈ drafts, d.Consistent) ∧ tables = drafts.map TableDraft.asTable := by
  have hnames := name_ne_empty_of_read h
  have herror : ∀ f, tablesOfDrafts drafts = .error f ↔ _ :=
    fun f => tablesOfDrafts_eq_error_iff_flawed hnames
  refine ⟨wellNamed_of_read h, herror, exists_tablesOfDrafts_eq_error_iff hnames, ?_,
    fun tables => tablesOfDrafts_eq_ok_iff_consistent hnames⟩
  -- a repeated field and a stray key are the only flaws
  intro hempty
  obtain ⟨before, bad, after, cause, -, -, hflaw, hcause⟩ := (herror _).mp hempty
  obtain rfl := Fault.invalid.inj hcause
  cases hflaw

/-- The second table repeats a field and has a stray key as well. -/
theorem drafts_fail_only_for_first_flaw :
    let script := "CREATE TABLE t (a INT); CREATE TABLE u (b INT, b DATE, PRIMARY KEY c d)"
    let drafts : List TableDraft := [⟨"t", [⟨"a", .integer⟩], none⟩,
      ⟨"u", [⟨"b", .integer⟩, ⟨"b", .date⟩], some "c d"⟩]
    ((Session.mk ⟨30, false⟩ []).read script).1.outcome = .ok drafts ∧
      (∀ d ∈ drafts, d.WellNamed) ∧
      tablesOfDrafts drafts = .error (.invalid (.duplicateField "b" "u")) := by
  intro script drafts
  have hread : ((Session.mk ⟨30, false⟩ []).read script).1.outcome = .ok drafts := by
    decide +kernel
  obtain ⟨hwell, herror, -⟩ := drafts_fail_only_for_flaws hread
  have hnames : ["b", "b"] = ["b"] ++ "b" :: [] := rfl
  refine ⟨hread, hwell, (herror _).mpr ⟨drafts.take 1, _, [], _, rfl, by decide, ?_, rfl⟩⟩
  exact .duplicate hnames (by decide) (by decide)

/-! ### Reports -/

/-- Tables that are read have no names that could be taken for something else in a report.  For a
key, which may have blanks inside, this takes that it is one of the fields. -/
theorem plain_of_read {σ : Session} {script : String} {drafts : List TableDraft}
    {tables : List Table} (hread : (σ.read script).1.outcome = .ok drafts)
    (htables : tablesOfDrafts drafts = .ok tables) : ∀ t ∈ tables, t.Plain := by
  have hwell := wellNamed_of_read hread
  obtain ⟨hcons, rfl⟩ :=
    (tablesOfDrafts_eq_ok_iff_consistent (name_ne_empty_of_read hread)).mp htables
  intro t ht
  obtain ⟨d, hd, rfl⟩ := List.mem_map.mp ht
  refine ⟨(hwell d hd).name.solid.notMem (by decide), ?_, ?_⟩
  · intro f hf
    exact ((hwell d hd).fields f hf).solid
  · intro key hkey
    obtain ⟨f, hf, rfl⟩ := List.mem_map.mp ((hcons d hd).key_mem key hkey)
    exact ((hwell d hd).fields f hf).solid.notMem (by decide)

/-- **Reports on tables that were read are unambiguous**: if two scripts have the same report, then
they have the same tables. -/
theorem report_determines_tables {σ σ' : Session} {script script' : String}
    {drafts drafts' : List TableDraft} {tables tables' : List Table}
    (hread : (σ.read script).1.outcome = .ok drafts)
    (htables : tablesOfDrafts drafts = .ok tables)
    (hread' : (σ'.read script').1.outcome = .ok drafts')
    (htables' : tablesOfDrafts drafts' = .ok tables')
    (h : report tables = report tables') : tables = tables' :=
  eq_of_report_eq (plain_of_read hread htables) (plain_of_read hread' htables') h

/-- Two ways to declare one table. -/
theorem report_determines_one_table :
    let drafts : List TableDraft := [⟨"t", [⟨"a", .integer⟩, ⟨"b", .date⟩], some "a"⟩]
    let tables : List Table := [⟨"t", [⟨"a", .integer⟩, ⟨"b", .date⟩], some "a"⟩]
    ((Session.mk ⟨30, false⟩ []).read
        "CREATE TABLE t (a INT, b DATE, PRIMARY KEY a)").1.outcome = .ok drafts ∧
      ((Session.mk ⟨8, true⟩ []).read
        "DROP x; CREATE TABLE t\n(a INTEGER, PRIMARY KEY (a), b DATE)").1.outcome = .ok drafts ∧
      report tables = "Parsed types: 1\nType: t\n  Property: a [integer]\n" ++
        "  Property: b [date]\n  Primary key: a" ∧
      tables = drafts.map TableDraft.asTable := by
  intro drafts tables
  have hread : ((Session.mk ⟨30, false⟩ []).read
      "CREATE TABLE t (a INT, b DATE, PRIMARY KEY a)").1.outcome = .ok drafts := by
    decide +kernel
  have hread' : ((Session.mk ⟨8, true⟩ []).read
      "DROP x; CREATE TABLE t\n(a INTEGER, PRIMARY KEY (a), b DATE)").1.outcome = .ok drafts := by
    decide +kernel
  have htables : tablesOfDrafts drafts = .ok tables := by decide
  have htables' : tablesOfDrafts drafts = .ok (drafts.map TableDraft.asTable) := by decide
  exact ⟨hread, hread', by decide +kernel,
    report_determines_tables hread htables hread' htables' rfl⟩

end Session

end TableSchema
