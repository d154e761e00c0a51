import TableSchema.Proofs.Ddl.Acceptance

/-!
# The supported grammar

The texts that a `CREATE TABLE` statement is meant to be written as: a name, a list of clauses in
brackets with blanks around them at will, and arbitrary text in between and behind.  Types may have
nested arguments, with commas and blanks inside, and any words may follow a type.  Every such text
with fewer than `2 ^ 31` brackets is read as the table that it spells out, and leaves no notice.

## Main definitions

* `Grammar.ColumnClause`, `Grammar.KeyClause` — the two kinds of clauses.
* `Grammar.Declaration`, `Grammar.Declaration.text`, `Grammar.Declaration.table` — a whole
  statement, its text and the table it spells out.

## Main results

* `Grammar.Entry.readAs` — each clause is read as what it says.
* `Grammar.Declaration.layout` — the statement is laid out as it was put together.
* `Grammar.Declaration.read_text` — **every text of the grammar is read as its table.**
-/

namespace TableSchema.Grammar

open Text

/-! ### Parts of an entry -/

/-- The text may be part of an entry of a list: its brackets are balanced, no comma stands outside
them, and there is no semicolon. -/
@[mk_iff] structure Part (t : List Char) : Prop where
  /-- The brackets are balanced. -/
  balanced : Brackets.round.Balanced t
  /-- There is no comma outside the brackets. -/
  whole : Brackets.round.Whole ',' 0 t
  /-- There is no semicolon. -/
  one_statement : ';' ∉ t

/-- The text has no comma, bracket or semicolon. -/
@[mk_iff] structure Plain (t : List Char) : Prop where
  /-- There are no brackets. -/
  bare : Brackets.round.Bare t
  /-- There is no comma. -/
  no_comma : ',' ∉ t
  /-- There is no semicolon. -/
  no_semicolon : ';' ∉ t

theorem Plain.part {t : List Char} (h : Plain t) : Part t where
  balanced := h.bare.balanced
  whole := Brackets.whole_of_notMem h.no_comma
  one_statement := h.no_semicolon

theorem plain_of_blank {t : List Char} (h : Blank t) : Plain t where
  bare := (inert_of_blank h).1
  no_comma := (inert_of_blank h).2
  no_semicolon := h.notMem (by decide)

theorem Part.append {s t : List Char} (hs : Part s) (ht : Part t) : Part (s ++ t) where
  balanced := hs.balanced.append ht.balanced
  whole := hs.whole.append (by rw [hs.balanced.closed]; exact ht.whole)
  one_statement := by simp [hs.one_statement, ht.one_statement]

/-- Within brackets commas do no harm. -/
theorem part_wrap {t : List Char} (ht : Brackets.round.Balanced t) (hs : ';' ∉ t) :
    Part ('(' :: (t ++ [')'])) where
  balanced := ht.wrap (by decide)
  whole := ht.whole_wrap
  one_statement := by simp [hs]

instance : DecidablePred Part := fun t => decidable_of_iff' _ (part_iff t)

instance : DecidablePred Plain := fun t => decidable_of_iff' _ (plain_iff t)

/-! ### Clauses -/

/-- A name or a type: a word without commas, brackets and semicolons. -/
@[mk_iff] structure Token (t : List Char) : Prop where
  /-- The word is not empty. -/
  ne_nil : t ≠ []
  /-- There are no blanks. -/
  solid : Solid t
  /-- There are no commas, brackets and semicolons. -/
  plain : Plain t

/-- The blanks between two words, of which there is at least one. -/
@[mk_iff] structure Gap (t : List Char) : Prop where
  /-- There is at least one. -/
  ne_nil : t ≠ []
  /-- They are blanks. -/
  blank : Blank t

instance : DecidablePred Token := fun t => decidable_of_iff' _ (token_iff t)

instance : DecidablePred Gap := fun t => decidable_of_iff' _ (gap_iff t)

/-- A clause that declares a column: its name, its type, possibly with arguments in brackets, and
possibly more text behind a gap. -/
structure ColumnClause where
  /-- The name of the column. -/
  name : List Char
  /-- The blanks behind the name. -/
  gap : List Char
  /-- The type, without arguments. -/
  base : List Char
  /-- The text between the brackets behind the type, if there are any. -/
  arguments : Option (List Char)
  /-- The blanks behind the type, and the text behind them, if there is any. -/
  modifiers : Option (List Char × List Char)
  name_token : Token name
  name_ne : name ≠ "PRIMARY".toList
  gap_spec : Gap gap
  base_token : Token base
  arguments_spec : ∀ a ∈ arguments, Brackets.round.Balanced a ∧ ';' ∉ a
  modifiers_spec : ∀ m ∈ modifiers, Gap m.1 ∧ Part m.2

/-- A clause that names the key: the column stands behind the words `PRIMARY KEY`, alone or in
brackets. -/
structure KeyClause where
  /-- The blanks behind the words and the first blank behind them. -/
  gap : List Char
  /-- The blanks within the brackets on both sides of the column, if there are brackets. -/
  brackets : Option (List Char × List Char)
  /-- The column. -/
  column : List Char
  gap_blank : Blank gap
  brackets_blank : ∀ b ∈ brackets, Blank b.1 ∧ Blank b.2
  column_ne_nil : column ≠ []
  column_trimmed : Trimmed column
  column_plain : Plain column

namespace ColumnClause

/-- The arguments in their brackets. -/
def argumentsText (c : ColumnClause) : List Char :=
  match c.arguments with
  | none => []
  | some a => '(' :: (a ++ [')'])

/-- The text behind the type and its arguments. -/
def modifiersText (c : ColumnClause) : List Char :=
  match c.modifiers with
  | none => []
  | some (gap, text) => gap ++ text

/-- The text of the clause. -/
def text (c : ColumnClause) : List Char :=
  c.name ++ c.gap ++ (c.base ++ (c.argumentsText ++ c.modifiersText))

/-- The field that the clause declares. -/
def field (c : ColumnClause) : Field := ⟨String.ofList c.name, SqlType.resolve c.base⟩

end ColumnClause

namespace KeyClause

/-- The column with its brackets. -/
def list (k : KeyClause) : List Char :=
  match k.brackets with
  | none => k.column
  | some (l, r) => '(' :: (l ++ k.column ++ r ++ [')'])

/-- The text of the clause. -/
def text (k : KeyClause) : List Char := Clause.keyWords ++ (k.gap ++ k.list)

end KeyClause

/-- A clause of either kind. -/
inductive ClauseForm where
  /-- A column is declared. -/
  | column (c : ColumnClause)
  /-- The key is named. -/
  | key (k : KeyClause)

/-- The text of the clause. -/
def ClauseForm.text : ClauseForm → List Char
  | .column c => c.text
  | .key k => k.text

/-- The field that the clause declares. -/
def ClauseForm.field? : ClauseForm → Option Field
  | .column c => some c.field
  | .key _ => none

/-- The key that the clause names. -/
def ClauseForm.keyName? : ClauseForm → Option String
  | .column _ => none
  | .key k => some (String.ofList k.column)

/-- A clause with blanks around it. -/
structure Entry where
  /-- The blanks in front. -/
  lead : List Char
  /-- The clause. -/
  clause : ClauseForm
  /-- The blanks behind. -/
  trail : List Char
  lead_blank : Blank lead
  trail_blank : Blank trail

/-- The text of the entry. -/
def Entry.text (e : Entry) : List Char := e.lead ++ e.clause.text ++ e.trail

/-! ### Statements -/

/-- A statement of the grammar. -/
structure Declaration where
  /-- The blanks in front. -/
  lead : List Char
  /-- The name of the table. -/
  name : List Char
  /-- The blanks behind the name. -/
  gap : List Char
  /-- The text between these blanks and the list. -/
  filler : List Char
  /-- What stands between the brackets if there is no clause. -/
  hollow : List Char
  /-- The clauses. -/
  entries : List Entry
  /-- The text behind the list. -/
  suffix : List Char
  lead_blank : Blank lead
  name_ne_nil : name ≠ []
  name_solid : Solid name
  name_bare : Brackets.round.Bare name
  name_semicolon : ';' ∉ name
  gap_spec : Gap gap
  filler_bare : Brackets.round.Bare filler
  filler_semicolon : ';' ∉ filler
  hollow_blank : Blank hollow
  suffix_semicolon : ';' ∉ suffix
  one_key : (entries.filterMap (·.clause.keyName?)).length ≤ 1

namespace Declaration

/-- The text between the outer brackets. -/
def list (d : Declaration) : List Char :=
  match d.entries with
  | [] => d.hollow
  | es => [','].intercalate (es.map Entry.text)

/-- The text from the name to the end of the list. -/
def core (d : Declaration) : List Char :=
  d.name ++ (d.gap ++ (d.filler ++ '(' :: (d.list ++ [')'])))

/-- The text of the statement. -/
def text (d : Declaration) : List Char :=
  d.lead ++ (Statement.createWords ++ (d.core ++ d.suffix))

/-- The table that the statement spells out. -/
def table (d : Declaration) : TableDraft where
  name := String.ofList d.name
  fields := d.entries.filterMap (·.clause.field?)
  key := (d.entries.filterMap (·.clause.keyName?)).head?

end Declaration

/-! ### Column clauses -/

theorem Gap.head {t : List Char} (h : Gap t) (r : List Char) :
    ∀ c ∈ (t ++ r).head?, isBlank c = true := by
  intro c hc
  rw [List.head?_append_of_ne_nil t h.ne_nil] at hc
  exact h.blank c (List.mem_of_mem_head? hc)

namespace ColumnClause

variable (c : ColumnClause)

theorem part_argumentsText : Part c.argumentsText := by
  rw [argumentsText]
  cases h : c.arguments with
  | none => exact (plain_of_blank blank_nil).part
  | some a =>
    obtain ⟨hbalanced, hsemicolon⟩ := c.arguments_spec a h
    exact part_wrap hbalanced hsemicolon

theorem part_modifiersText : Part c.modifiersText := by
  rw [modifiersText]
  cases h : c.modifiers with
  | none => exact (plain_of_blank blank_nil).part
  | some m =>
    obtain ⟨hgap, htext⟩ := c.modifiers_spec m h
    exact (plain_of_blank hgap.blank).part.append htext

theorem part_text : Part c.text := by
  have hname : Part (c.name ++ c.gap) :=
    c.name_token.plain.part.append (plain_of_blank c.gap_spec.blank).part
  have hrest : Part (c.argumentsText ++ c.modifiersText) :=
    c.part_argumentsText.append c.part_modifiersText
  exact hname.append (c.base_token.plain.part.append hrest)

/-- What follows the type starts with a bracket or a blank. -/
theorem head_rest {trail : List Char} (htrail : Blank trail) :
    ∀ x ∈ (c.argumentsText ++ (c.modifiersText ++ trail)).head?, x = '(' ∨ isBlank x = true := by
  intro x hx
  rw [argumentsText] at hx
  cases ha : c.arguments with
  | some a =>
    rw [ha] at hx
    exact .inl (Option.some.inj hx).symm
  | none =>
    rw [ha, List.nil_append, modifiersText] at hx
    cases hm : c.modifiers with
    | some m =>
      rw [hm, List.append_assoc] at hx
      exact .inr ((c.modifiers_spec m hm).1.head _ x hx)
    | none =>
      rw [hm, List.nil_append] at hx
      exact .inr (htrail x (List.mem_of_mem_head? hx))

/-- **The words of the clause**: its name, then its type with whatever of its arguments comes up to
the first blank. -/
theorem words_text {lead trail : List Char} (hlead : Blank lead) (htrail : Blank trail) :
    ∃ arguments more, words (lead ++ c.text ++ trail) = c.name :: (c.base ++ arguments) :: more ∧
      ∀ x ∈ arguments.head?, x = '(' := by
  have hhead := c.head_rest htrail
  have htext : lead ++ c.text ++ trail = lead ++ (c.name ++ (c.gap ++
      (c.base ++ (c.argumentsText ++ (c.modifiersText ++ trail))))) := by
    simp [text]
  rw [htext]
  generalize c.argumentsText ++ (c.modifiersText ++ trail) = rest at hhead
  -- the gap parts the name from the type, and the type goes up to the first blank of the rest
  refine ⟨word rest, words (afterWord (c.base ++ rest)), ?_, ?_⟩
  · rw [words_append_of_blank hlead,
      words_append_gap c.name_token.solid c.name_token.ne_nil c.gap_spec.blank c.gap_spec.ne_nil,
      words_solid_append c.base_token.solid c.base_token.ne_nil]
  · intro x hx
    obtain ⟨hx, hsolid⟩ := mem_head?_word hx
    rcases hhead x hx with h | hblank
    · exact h
    · exact absurd (hsolid.symm.trans hblank) Bool.false_ne_true

/-- **A column clause is read as the column that it declares.** -/
theorem readAs {lead trail : List Char} (hlead : Blank lead) (htrail : Blank trail) :
    ∃ cl, ReadAs (lead ++ c.text ++ trail) cl ∧ cl.field? = some c.field ∧
      cl.keyName? = none := by
  obtain ⟨arguments, more, hwords, harguments⟩ := c.words_text hlead htrail
  have hfirst : firstWord (lead ++ c.text ++ trail) = c.name := by rw [firstWord, hwords]; rfl
  have hsecond : secondWord (lead ++ c.text ++ trail) = c.base ++ arguments := by
    rw [secondWord, hwords]
    rfl
  have hblank : ¬ Blank (lead ++ c.text ++ trail) := by
    intro h
    have := words_append_of_blank h []
    rw [List.append_nil, hwords] at this
    exact List.cons_ne_nil _ _ this
  have hkey : ¬ IsKeySegment (lead ++ c.text ++ trail) :=
    fun h => c.name_ne (hfirst.symm.trans h.firstWord_eq)
  refine ⟨_, .column hblank hkey, ?_, rfl⟩
  rw [hfirst, hsecond, TableSchema.Clause.field?, SqlType.resolve_append harguments, field]

end ColumnClause

/-! ### Key clauses -/

namespace KeyClause

variable (k : KeyClause)

theorem part_list : Part k.list := by
  rw [list]
  cases h : k.brackets with
  | none => exact k.column_plain.part
  | some b =>
    obtain ⟨hl, hr⟩ := k.brackets_blank b h
    have hinner : Part (b.1 ++ k.column ++ b.2) :=
      ((plain_of_blank hl).part.append k.column_plain.part).append (plain_of_blank hr).part
    exact part_wrap hinner.balanced hinner.one_statement

theorem part_text : Part k.text := by
  have hwords : Plain Clause.keyWords := by decide
  exact hwords.part.append ((plain_of_blank k.gap_blank).part.append k.part_list)

theorem list_ne_nil : k.list ≠ [] := by
  rw [list]
  cases k.brackets with
  | none => exact k.column_ne_nil
  | some b => exact List.cons_ne_nil _ _

theorem list_trimmed : Trimmed k.list := by
  rw [list]
  cases k.brackets with
  | none => exact k.column_trimmed
  | some b => exact Clause.trimmed_wrap _

theorem namesOne : Clause.NamesOne (k.gap ++ k.list) k.column where
  list := by
    have htrim : trim (k.gap ++ k.list) = k.list := by
      have hpad := trim_pad k.gap_blank blank_nil k.list
      rwa [List.append_nil, k.list_trimmed.trim_eq] at hpad
    rw [htrim, list]
    cases h : k.brackets with
    | none =>
      exact ⟨k.column, Clause.unbracketed_of_notMem k.column_plain.bare.1,
        k.column_trimmed.trim_eq.symm⟩
    | some b =>
      obtain ⟨hl, hr⟩ := k.brackets_blank b h
      exact ⟨_, .inl rfl, by rw [trim_pad hl hr, k.column_trimmed.trim_eq]⟩
  single := k.column_plain.no_comma
  named := k.column_ne_nil

theorem text_trimmed : Trimmed k.text := by
  have hwords : Trimmed "PRIMARY KEY".toList := by decide
  exact hwords.append_append (by decide) k.list_trimmed k.list_ne_nil (' ' :: k.gap)

/-- **A key clause is read as the key that it names.** -/
theorem readAs {lead trail : List Char} (hlead : Blank lead) (htrail : Blank trail) :
    ReadAs (lead ++ k.text ++ trail) (.key k.column) := by
  refine .key ⟨k.gap ++ k.list, ?_, k.namesOne⟩
  rw [trim_pad hlead htrail, k.text_trimmed.trim_eq, text]

end KeyClause

/-! ### Lists of clauses -/

theorem Entry.part_text (e : Entry) : Part e.text := by
  have hclause : Part e.clause.text := by
    cases h : e.clause with
    | column c => exact c.part_text
    | key k => exact k.part_text
  have hlead : Part (e.lead ++ e.clause.text) := (plain_of_blank e.lead_blank).part.append hclause
  exact hlead.append (plain_of_blank e.trail_blank).part

/-- **Every entry is read as what it says.** -/
theorem Entry.readAs (e : Entry) :
    ∃ cl, ReadAs e.text cl ∧ cl.field? = e.clause.field? ∧ cl.keyName? = e.clause.keyName? := by
  cases h : e.clause with
  | column c =>
    obtain ⟨cl, hread, hfield, hkey⟩ := c.readAs e.lead_blank e.trail_blank
    refine ⟨cl, ?_, hfield, hkey⟩
    rwa [Entry.text, h]
  | key k =>
    refine ⟨.key k.column, ?_, rfl, rfl⟩
    rw [Entry.text, h]
    exact k.readAs e.lead_blank e.trail_blank

theorem Entry.not_blank (e : Entry) : ¬ Blank e.text := by
  obtain ⟨cl, hread, -⟩ := e.readAs
  exact (exists_readAs_iff.mp ⟨cl, hread⟩).1

/-- The clauses that a list of entries is read as. -/
theorem exists_forall₂_readAs (es : List Entry) :
    ∃ cs, List.Forall₂ ReadAs (es.map Entry.text) cs ∧
      cs.filterMap TableSchema.Clause.field? = es.filterMap (·.clause.field?) ∧
      cs.filterMap TableSchema.Clause.keyName? = es.filterMap (·.clause.keyName?) := by
  induction es with
  | nil => exact ⟨[], .nil, rfl, rfl⟩
  | cons e es ih =>
    obtain ⟨cl, hread, hfield, hkey⟩ := e.readAs
    obtain ⟨cs, hcs, hfields, hkeys⟩ := ih
    refine ⟨cl :: cs, .cons hread hcs, ?_, ?_⟩
    · rw [List.filterMap_cons, List.filterMap_cons, hfield, hfields]
    · rw [List.filterMap_cons, List.filterMap_cons, hkey, hkeys]

namespace Declaration

variable (d : Declaration)

theorem list_balanced : Brackets.round.Balanced d.list := by
  rw [list]
  split
  · exact (plain_of_blank d.hollow_blank).part.balanced
  · refine Brackets.Balanced.intercalate ?_ fun t ht => ?_
    · exact Brackets.Bare.balanced ⟨by decide, by decide⟩
    · obtain ⟨e, -, rfl⟩ := List.mem_map.mp ht
      exact e.part_text.balanced

theorem list_semicolon : ';' ∉ d.list := by
  rw [list]
  split
  · exact (plain_of_blank d.hollow_blank).no_semicolon
  · refine notMem_intercalate (by decide) fun t ht => ?_
    obtain ⟨e, -, rfl⟩ := List.mem_map.mp ht
    exact e.part_text.one_statement

/-- **The list falls into its entries.** -/
theorem list_segments : Segments d.list (d.entries.map Entry.text) := by
  rw [list]
  split
  case h_1 hnil =>
    rw [hnil]
    exact .blank d.hollow_blank
  case h_2 hne =>
    cases hes : d.entries with
    | nil => exact absurd hes hne
    | cons e es =>
      have hparts : ∀ t ∈ (e :: es).map Entry.text,
          Brackets.round.Whole ',' 0 t ∧ Brackets.round.depth t = 0 := by
        intro t ht
        obtain ⟨e', -, rfl⟩ := List.mem_map.mp ht
        exact ⟨e'.part_text.whole, e'.part_text.balanced.closed⟩
      refine .pieces (fun hblank => ?_)
        (Brackets.pieces_intercalate (by decide) (by decide) (List.cons_ne_nil _ _) hparts)
      -- the first entry already is not blank
      exact e.not_blank fun c hc => hblank c (mem_intercalate List.mem_cons_self hc)

/-- **The statement is laid out as it was put together.** -/
theorem layout (rest : List Char) :
    Layout (d.core ++ rest) d.name (d.entries.map Entry.text) := by
  refine ⟨d.gap ++ (d.filler ++ '(' :: (d.list ++ ')' :: rest)), d.gap ++ d.filler, d.list, rest,
    ⟨?_, d.name_solid, d.gap_spec.head _⟩, ?_, d.list_segments⟩
  · simp [core]
  · have hbefore : Brackets.round.Bare (d.gap ++ d.filler) :=
      (plain_of_blank d.gap_spec.blank).bare.append d.filler_bare
    have hkeeps := Brackets.keeps_of_balanced (by decide) hbefore d.list_balanced rest
    rwa [List.append_assoc] at hkeeps

/-- **The run over the declaration yields the table that it spells out.** -/
theorem createTranscript_outcome {s : ParseSettings} (hs : s.strictTypes = false)
    {rest : List Char} (hfew : Brackets.round.Few (d.core ++ rest)) :
    (Statement.createTranscript s (d.core ++ rest)).outcome = .ok [d.table] := by
  obtain ⟨cs, hread, hfields, hkeys⟩ := exists_forall₂_readAs d.entries
  -- all that can go wrong is a second key, since types need not be listed
  refine (createTranscript_outcome_eq_ok_iff hfew).mpr ⟨d.name, d.entries.map Entry.text,
    d.layout rest, d.name_ne_nil, cs, hread.imp fun _ _ => read_trim_eq_ok_iff_readAs.mpr,
    ⟨?_, ?_⟩, ?_⟩
  · intro h
    exact absurd (hs.symm.trans h) Bool.false_ne_true
  · rw [hkeys]
    exact d.one_key
  · simp [TableDraft.extend, table, hfields, hkeys]

/-! ### Reading the statement -/

theorem semicolon_notMem_text : ';' ∉ d.text := by
  have hwords : ';' ∉ Statement.createWords := by decide
  have hlead := (plain_of_blank d.lead_blank).no_semicolon
  have hgap := (plain_of_blank d.gap_spec.blank).no_semicolon
  simp [text, core, hwords, hlead, hgap, d.name_semicolon, d.filler_semicolon, d.list_semicolon,
    d.suffix_semicolon]

/-- Trimming the statement leaves all from the words `CREATE TABLE` to the end of the list. -/
theorem trim_text : trim d.text = Statement.createWords ++ (d.core ++ trimEnd d.suffix) := by
  have hcore : d.core = d.name ++ (d.gap ++ (d.filler ++ '(' :: d.list)) ++ [')'] := by
    simp only [core, List.append_assoc, List.cons_append]
  have htrimmed : Trimmed (Statement.createWords ++ d.core) := by
    rw [hcore]
    exact trimmed_createWords_append _
  have hne : Statement.createWords ++ d.core ≠ [] :=
    List.append_ne_nil_of_left_ne_nil (by decide) _
  have hpad := trim_pad d.lead_blank blank_nil (Statement.createWords ++ d.core ++ d.suffix)
  rw [List.append_nil] at hpad
  rw [text, ← List.append_assoc Statement.createWords, hpad,
    htrimmed.trim_append hne, List.append_assoc]

theorem statements_text :
    Script.statements d.text = [.createTable (d.core ++ trimEnd d.suffix)] := by
  rw [Script.statements, splitAt_of_notMem d.semicolon_notMem_text, List.filterMap_cons,
    List.filterMap_nil, trim_text, Statement.ofPiece?, afterLiteral?_append]

theorem transcript_text (s : ParseSettings) :
    Script.transcript s d.text = Statement.createTranscript s (d.core ++ trimEnd d.suffix) := by
  rw [Script.transcript, statements_text, List.map_singleton, Transcript.concat_cons,
    Transcript.concat_nil, Transcript.append_empty, Statement.transcript]

/-- **Every statement of the grammar with few brackets is read as the table that it spells out**,
and leaves no notice. -/
theorem read_text (hfew : Brackets.round.Few d.text) (limit : ℕ) (earlier : List Notice) :
    ((Session.mk ⟨limit, false⟩ earlier).read (String.ofList d.text)).1.outcome = .ok [d.table] ∧
      ((Session.mk ⟨limit, false⟩ earlier).read (String.ofList d.text)).1.notices = [] := by
  have hrest : Brackets.round.Few (d.core ++ trimEnd d.suffix) := by
    have htrim := hfew.part (trim_isInfix d.text)
    rw [trim_text] at htrim
    exact htrim.right
  simp only [Session.read, String.toList_ofList, transcript_text]
  exact ⟨d.createTranscript_outcome rfl hrest, createTranscript_notices _ _⟩

/-- A column with nested arguments and a call behind them. -/
def price : ColumnClause where
  name := "price".toList
  gap := "\t".toList
  base := "DECIMAL".toList
  arguments := some "10, (2)".toList
  modifiers := some (" ".toList, "CHECK (f(price, 0))".toList)
  name_token := by decide
  name_ne := by decide
  gap_spec := by decide
  base_token := by decide
  arguments_spec := by decide
  modifiers_spec := by decide

/-- A key in brackets, with blanks inside. -/
def idKey : KeyClause where
  gap := " ".toList
  brackets := some (" ".toList, [])
  column := "id".toList
  gap_blank := by decide
  brackets_blank := by decide
  column_ne_nil := by decide
  column_trimmed := by decide
  column_plain := by decide

/-- A statement with text in all the gaps. -/
def orders : Declaration where
  lead := "\n".toList
  name := "orders".toList
  gap := " ".toList
  filler := "IN store ".toList
  hollow := []
  entries := [⟨[], .key idKey, " ".toList, by decide, by decide⟩,
    ⟨"\n".toList, .column price, [], by decide, by decide⟩]
  suffix := " ENGINE=(x".toList
  lead_blank := by decide
  name_ne_nil := by decide
  name_solid := by decide
  name_bare := by decide
  name_semicolon := by decide
  gap_spec := by decide
  filler_bare := by decide
  filler_semicolon := by decide
  hollow_blank := by decide
  suffix_semicolon := by decide
  one_key := by decide

theorem read_orders :
    orders.text = ("\nCREATE TABLE orders IN store (PRIMARY KEY  ( id) ,\n" ++
      "price\tDECIMAL(10, (2)) CHECK (f(price, 0))) ENGINE=(x").toList ∧
    Brackets.round.Few orders.text ∧
    ((Session.mk ⟨30, false⟩ []).read (String.ofList orders.text)).1.outcome =
      .ok [⟨"orders", [⟨"price", .decimal⟩], some "id"⟩] :=
  have hfew : Brackets.round.Few orders.text := by decide
  ⟨by decide, hfew, (orders.read_text hfew 30 []).1⟩

/-- A column with `n + 1` brackets around no arguments. -/
def nested (n : ℕ) : ColumnClause where
  name := "a".toList
  gap := " ".toList
  base := "INT".toList
  arguments := some (List.replicate n '(' ++ List.replicate n ')')
  modifiers := none
  name_token := by decide
  name_ne := by decide
  gap_spec := by decide
  base_token := by decide
  arguments_spec := by
    intro a ha
    obtain rfl := Option.some.inj ha
    exact ⟨Brackets.balanced_replicate (by decide) n, by simp [List.mem_replicate]⟩
  modifiers_spec := by simp

/-- A column without arguments. -/
def plain : ColumnClause where
  name := "b".toList
  gap := " ".toList
  base := "INT".toList
  arguments := none
  modifiers := none
  name_token := by decide
  name_ne := by decide
  gap_spec := by decide
  base_token := by decide
  arguments_spec := by simp
  modifiers_spec := by simp

/-- A statement with both columns. -/
def deep (n : ℕ) : Declaration where
  lead := []
  name := "t".toList
  gap := " ".toList
  filler := []
  hollow := []
  entries := [⟨[], .column (nested n), [], by decide, by decide⟩,
    ⟨" ".toList, .column plain, [], by decide, by decide⟩]
  suffix := []
  lead_blank := by decide
  name_ne_nil := by decide
  name_solid := by decide
  name_bare := by decide
  name_semicolon := by decide
  gap_spec := by decide
  filler_bare := by decide
  filler_semicolon := by decide
  hollow_blank := by decide
  suffix_semicolon := by decide
  one_key := Nat.zero_le 1

theorem text_nested (n : ℕ) :
    (nested n).text = openedColumn (n + 1) ++ List.replicate (n + 1) ')' := by
  have hopened : openedColumn (n + 1) = "a INT(".toList ++ List.replicate n '(' := rfl
  rw [hopened, List.replicate_succ']
  simp [ColumnClause.text, ColumnClause.argumentsText, ColumnClause.modifiersText, nested]

theorem core_deep (n : ℕ) : (deep n).core ++ trimEnd (deep n).suffix
    = manyOpened (n + 1) (List.replicate n ')' ++ ", b INT)".toList) := by
  have hlist : (deep n).list = [','].intercalate [(nested n).text ++ [], " b INT".toList] := rfl
  have hcore : (deep n).core = "t (".toList ++ ((deep n).list ++ [')']) := rfl
  have hsuffix : trimEnd (deep n).suffix = [] := trimEnd_nil
  rw [hcore, hsuffix, hlist, List.intercalate_cons_cons, List.intercalate_singleton, text_nested,
    manyOpened]
  simp [List.replicate_succ]

theorem table_deep (n : ℕ) :
    (deep n).table = ⟨"t", [⟨"a", .integer⟩, ⟨"b", .integer⟩], none⟩ := by
  have hinteger : SqlType.resolve "INT".toList = .integer := by decide
  have htable : (deep n).table = ⟨"t", [⟨"a", SqlType.resolve "INT".toList⟩,
      ⟨"b", SqlType.resolve "INT".toList⟩], none⟩ := rfl
  rw [htable, hinteger]

/-- Where the counter wraps, the first closing bracket ends the list. -/
theorem outcome_read_deep {n : ℕ} (h : Int32.ofInt (n + 1 : ℕ) = 0) :
    ((Session.mk ⟨30, false⟩ []).read (String.ofList (deep n).text)).1.outcome
      = .ok [⟨"t", [⟨"a", .integer⟩], none⟩] := by
  simp only [Session.read, String.toList_ofList, transcript_text, core_deep]
  exact createTranscript_manyOpened _ h _

/-- With `2 ^ 32` brackets open in the list the counter has wrapped, the first closing bracket ends
the list, and the second column is lost. -/
theorem read_deep :
    let d := deep (2 ^ 32 - 1)
    let outcome := ((Session.mk ⟨30, false⟩ []).read (String.ofList d.text)).1.outcome
    outcome = .ok [⟨"t", [⟨"a", .integer⟩], none⟩] ∧
      d.table = ⟨"t", [⟨"a", .integer⟩, ⟨"b", .integer⟩], none⟩ ∧ outcome ≠ .ok [d.table] := by
  intro d outcome
  have hread : outcome = .ok [⟨"t", [⟨"a", .integer⟩], none⟩] := outcome_read_deep (by decide)
  refine ⟨hread, table_deep _, ?_⟩
  rw [hread, table_deep]
  decide

end Declaration

end TableSchema.Grammar
