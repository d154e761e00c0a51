import TableSchema.Proofs.Ddl.Grammar

/-!
# Keys of several columns

A key clause that lists several columns should never go unnoticed.  It is recognised by the words
`PRIMARY KEY` and a space, though, and a list that follows the words in another way is taken for a
column called `PRIMARY`.  A list that follows the table's name without a blank is not found at all.
So such a clause is refused exactly where neither happens.

## Main definitions

* `CompositeKey gap t` — the clause `t` lists several columns, behind `gap`.
* `DeclaresComposite script head gap` — a statement of the script has such a clause in the list
  behind `head`.
* `unnoticed head gap` — a script of this kind whose other clauses cause no refusal.

## Main results

* `CompositeKey.not_acceptable` — where the clause is recognised, or types have to be listed.
* `acceptable_unnoticed_of_solid`, `acceptable_unnoticed_of_blank` — where it goes unnoticed.
* `Session.refuses_composite_iff` — **when all scripts with such a clause are refused.**
-/

namespace TableSchema

open Text

/-- The clause has the words `PRIMARY KEY`, a gap, and a list of two or more names in brackets. -/
def CompositeKey (gap t : List Char) : Prop :=
  ∃ names : List (List Char), 2 ≤ names.length ∧ (∀ n ∈ names, ¬ Blank n ∧ ',' ∉ n) ∧
    t = "PRIMARY KEY".toList ++ (gap ++ '(' :: ([','].intercalate names ++ [')']))

/-- A statement of the script declares a table by `head` and a list in brackets, one of whose
clauses is a key of several columns. -/
def DeclaresComposite (script : String) (head gap : List Char) : Prop :=
  ∃ piece ∈ script.toList.splitOn ';', ∃ list behind segments,
    trim piece = Statement.createWords ++ (head ++ '(' :: (list ++ ')' :: behind)) ∧
    Brackets.round.Balanced list ∧ Brackets.round.Pieces ',' [] list segments ∧
    ∃ p ∈ segments, CompositeKey gap (trim p)

/-! ### How the clause is read -/

section Reading

variable {gap rest p : List Char}

/-- The clause is recognised exactly if the gap starts with a space. -/
theorem isKeySegment_iff_of_trim (hp : trim p = "PRIMARY KEY".toList ++ (gap ++ '(' :: rest)) :
    IsKeySegment p ↔ gap.head? = some ' ' := by
  have hwords : Clause.keyWords = "PRIMARY KEY".toList ++ [' '] := by decide
  rw [IsKeySegment, hp, hwords, List.prefix_append_right_inj]
  cases gap with
  | nil => simp
  | cons c gap => simp [eq_comm]

/-- Read as a column, the clause has the type `KEY`. -/
theorem exists_secondWord_of_trim (hgap : Blank gap)
    (hp : trim p = "PRIMARY KEY".toList ++ (gap ++ '(' :: rest)) :
    ∃ arguments, secondWord p = "KEY".toList ++ arguments ∧ ∀ c ∈ arguments.head?, c = '(' := by
  have hwords : "PRIMARY KEY".toList = "PRIMARY".toList ++ ([' '] ++ "KEY".toList) := by decide
  have hfirst : Solid "PRIMARY".toList := by decide
  have hsecond : Solid "KEY".toList := by decide
  have hspace : Blank [' '] := by decide
  refine ⟨word (gap ++ '(' :: rest), ?_, fun c hc => ?_⟩
  · rw [secondWord, ← words_trim, hp, hwords, List.append_assoc, List.append_assoc,
      words_append_gap hfirst (by decide) hspace (List.cons_ne_nil _ _),
      words_solid_append hsecond (by decide)]
    rfl
  · obtain ⟨hc, hsolid⟩ := mem_head?_word hc
    cases gap with
    | nil => exact (Option.some.inj hc).symm
    | cons d gap =>
      -- a gap ends the word
      obtain rfl := Option.some.inj hc
      exact absurd (hsolid.symm.trans (hgap _ List.mem_cons_self)) Bool.false_ne_true

/-- `KEY` is no type. -/
theorem not_listedSegment_of_trim (hgap : Blank gap)
    (hp : trim p = "PRIMARY KEY".toList ++ (gap ++ '(' :: rest)) : ¬ ListedSegment p := by
  obtain ⟨arguments, hsecond, harguments⟩ := exists_secondWord_of_trim hgap hp
  rw [ListedSegment, ← SqlType.lookup_ne_none_iff, hsecond, SqlType.lookup_append harguments]
  decide

/-- Recognised as a key clause, it does not name one column. -/
theorem CompositeKey.not_namesKey (hgap : Blank gap) (hp : CompositeKey gap (trim p))
    (hspace : gap.head? = some ' ') (column : List Char) : ¬ NamesKey p column := by
  rintro ⟨r, hr, hnames⟩
  obtain ⟨names, hlength, -, ht⟩ := hp
  obtain ⟨gap, rfl⟩ : ∃ gap', gap = ' ' :: gap' := by
    cases gap with
    | nil => simp at hspace
    | cons c gap => exact ⟨gap, by simpa using hspace⟩
  obtain ⟨a, b, more, rfl⟩ : ∃ a b more, names = a :: b :: more := by
    match names, hlength with
    | a :: b :: more, _ => exact ⟨a, b, more, rfl⟩
  generalize hlist : [','].intercalate (a :: b :: more) = list at ht
  have hcomma : ',' ∈ list := by
    rw [← hlist, List.intercalate_cons_cons]
    simp
  have hrest : r = gap ++ '(' :: (list ++ [')']) := by
    have h : Clause.keyWords ++ r = Clause.keyWords ++ (gap ++ '(' :: (list ++ [')'])) := by
      rw [← hr, ht]
      rfl
    exact List.append_cancel_left h
  have htrim : trim r = '(' :: (list ++ [')']) := by
    have hpad := trim_pad (fun c hc => hgap c (List.mem_cons_of_mem _ hc)) blank_nil
      ('(' :: (list ++ [')']))
    rwa [List.append_nil, ← hrest, (Clause.trimmed_wrap list).trim_eq] at hpad
  -- the brackets are taken off, and the comma stays
  obtain ⟨list', hunbracketed, rfl⟩ := hnames.list
  rw [htrim] at hunbracketed
  rcases hunbracketed with h | ⟨h, -⟩
  · obtain rfl : list = list' := by simpa using h
    exact hnames.single (mem_trim hcomma (by decide))
  · exact h list rfl

/-- **Segments with such a clause are not acceptable** where the clause is recognised, or types have
to be listed. -/
theorem CompositeKey.not_acceptable {strict : Bool} {segments : List (List Char)} (hgap : Blank gap)
    (hmem : p ∈ segments) (hp : CompositeKey gap (trim p))
    (h : strict = true ∨ gap.head? = some ' ') : ¬ AcceptableSegments strict segments := by
  intro hsegments
  have ⟨names, _, _, ht⟩ := hp
  have hkey := isKeySegment_iff_of_trim ht
  by_cases hspace : gap.head? = some ' '
  · obtain ⟨column, hnames⟩ := hsegments.key_named p hmem (hkey.mpr hspace)
    exact hp.not_namesKey hgap hspace column hnames
  · have hstrict := h.resolve_right hspace
    exact not_listedSegment_of_trim hgap ht (hsegments.listed hstrict p hmem (mt hkey.mp hspace))

end Reading

/-! ### Declarations with such a clause -/

/-- The name ends within a head that has a blank, and the list behind the head is found. -/
theorem layout_of_head {head list behind : List Char} {segments : List (List Char)}
    (hhead : Brackets.round.Bare head) (hblank : ∃ c ∈ head, isBlank c = true)
    (hlist : Brackets.round.Balanced list) (hsegments : Segments list segments) :
    Layout (head ++ '(' :: (list ++ ')' :: behind)) (word head) segments := by
  obtain ⟨gap, hgap, hmaximal⟩ := exists_eq_word_append head
  have hgne : gap ≠ [] := by
    rintro rfl
    obtain ⟨c, hc, hcb⟩ := hblank
    rw [hgap, List.append_nil] at hc
    exact Bool.false_ne_true ((solid_word head c hc).symm.trans hcb)
  have hbare : Brackets.round.Bare gap := by
    rw [hgap] at hhead
    exact ⟨fun h => hhead.1 (List.mem_append_right _ h),
      fun h => hhead.2 (List.mem_append_right _ h)⟩
  refine ⟨gap ++ '(' :: (list ++ ')' :: behind), gap, list, behind, ⟨?_, solid_word head, ?_⟩,
    Brackets.keeps_of_balanced (by decide) hbare hlist behind, hsegments⟩
  · rw [← List.append_assoc, ← hgap]
  · rw [List.head?_append_of_ne_nil gap hgne]
    exact hmaximal

/-- A declaration whose name is missing is not acceptable. -/
theorem not_acceptable_of_blank_start {strict : Bool} {rest : List Char}
    (h : ∃ c ∈ rest.head?, isBlank c = true) : ¬ Acceptable strict rest := by
  rintro ⟨⟨name, behind, hstart, hne, -⟩, -⟩
  obtain ⟨c, hc, hcb⟩ := h
  refine hne ?_
  rw [← hstart.word_eq]
  cases rest with
  | nil => rfl
  | cons d rest =>
    obtain rfl := Option.some.inj hc
    rw [word_cons, hcb, if_pos rfl]

/-! ### Scripts in which such a clause goes unnoticed -/

/-- The clause that may go unnoticed, with a blank in front. -/
def unnoticedClause (gap : List Char) : List Char :=
  " PRIMARY KEY".toList ++ (gap ++ "(a, b)".toList)

/-- The clauses of a list in which it stands. -/
def unnoticedClauses (gap : List Char) : List (List Char) :=
  ["a T(c INT)".toList, " b INT".toList, unnoticedClause gap]

/-- What follows the words `CREATE TABLE` in a script with that list. -/
def unnoticedRest (head gap : List Char) : List Char :=
  head ++ '(' :: ([','].intercalate (unnoticedClauses gap) ++ [')'])

/-- A script in which a key of several columns may go unnoticed. -/
def unnoticed (head gap : List Char) : String :=
  String.ofList (Statement.createWords ++ unnoticedRest head gap)

section Unnoticed

variable {head gap : List Char}

theorem part_of_mem_unnoticedClauses (hgap : Blank gap) :
    ∀ t ∈ unnoticedClauses gap, Grammar.Part t := by
  have hwords : Grammar.Part " PRIMARY KEY".toList := by decide
  have hnames : Grammar.Part "(a, b)".toList := by decide
  have hclause := hwords.append ((Grammar.plain_of_blank hgap).part.append hnames)
  simp only [unnoticedClauses, List.forall_mem_cons]
  exact ⟨by decide, by decide, hclause, fun t ht => absurd ht List.not_mem_nil⟩

theorem balanced_unnoticed (hgap : Blank gap) :
    Brackets.round.Balanced ([','].intercalate (unnoticedClauses gap)) :=
  Brackets.Balanced.intercalate (by decide) fun t ht =>
    (part_of_mem_unnoticedClauses hgap t ht).balanced

theorem pieces_unnoticed (hgap : Blank gap) :
    Brackets.round.Pieces ',' [] ([','].intercalate (unnoticedClauses gap))
      (unnoticedClauses gap) := by
  have hparts : ∀ t ∈ unnoticedClauses gap,
      Brackets.round.Whole ',' 0 t ∧ Brackets.round.depth t = 0 := by
    intro t ht
    have hpart := part_of_mem_unnoticedClauses hgap t ht
    exact ⟨hpart.whole, hpart.balanced.closed⟩
  exact Brackets.pieces_intercalate (by decide) (by decide) (List.cons_ne_nil _ _) hparts

theorem trim_unnoticedClause :
    trim (unnoticedClause gap) = "PRIMARY KEY".toList ++ (gap ++ "(a, b)".toList) := by
  have hwords : Trimmed "PRIMARY KEY".toList := by decide
  have hnames : Trimmed "(a, b)".toList := by decide
  have hpad := trim_pad (l := " ".toList) (by decide) blank_nil
    ("PRIMARY KEY".toList ++ (gap ++ "(a, b)".toList))
  rw [(hwords.append_append (by decide) hnames (by decide) gap).trim_eq, List.append_nil] at hpad
  exact hpad

theorem semicolon_notMem_unnoticed (hsemicolon : ';' ∉ head) (hgap : Blank gap) :
    ';' ∉ Statement.createWords ++ unnoticedRest head gap := by
  have hlist : ';' ∉ [','].intercalate (unnoticedClauses gap) :=
    notMem_intercalate (by decide) fun t ht =>
      (part_of_mem_unnoticedClauses hgap t ht).one_statement
  have hwords : ';' ∉ Statement.createWords := by decide
  simp [unnoticedRest, hwords, hsemicolon, hlist]

theorem trimmed_unnoticed : Trimmed (Statement.createWords ++ unnoticedRest head gap) := by
  have h := trimmed_createWords_append (head ++ '(' :: [','].intercalate (unnoticedClauses gap))
  rwa [List.append_assoc] at h

/-- The script has six brackets. -/
theorem few_unnoticed (hhead : Brackets.round.Bare head) (hgap : Blank gap) :
    Brackets.round.Few (Statement.createWords ++ unnoticedRest head gap) := by
  have hopen : ∀ t, Brackets.round.bracketCount ('(' :: t)
      = 1 + Brackets.round.bracketCount t := Brackets.bracketCount_append ['(']
  have hclause : unnoticedClause gap = " PRIMARY KEY".toList ++ (gap ++ "(a, b)".toList) := rfl
  have hcount :
      Brackets.round.bracketCount (Statement.createWords ++ unnoticedRest head gap) = 6 := by
    rw [unnoticedRest, unnoticedClauses, hclause, List.intercalate_cons_cons,
      List.intercalate_cons_cons, List.intercalate_singleton]
    simp only [Brackets.bracketCount_append, hopen, hhead.bracketCount,
      (inert_of_blank hgap).1.bracketCount]
    decide
  rw [Brackets.Few, hcount]
  decide

/-- The script has such a clause. -/
theorem declaresComposite_unnoticed (hsemicolon : ';' ∉ head) (hgap : Blank gap) :
    DeclaresComposite (unnoticed head gap) head gap := by
  refine ⟨Statement.createWords ++ unnoticedRest head gap, ?_, _, [], _, trimmed_unnoticed.trim_eq,
    balanced_unnoticed hgap, pieces_unnoticed hgap, unnoticedClause gap, ?_, ?_⟩
  · rw [unnoticed, String.toList_ofList,
      List.splitOn_eq_singleton (semicolon_notMem_unnoticed hsemicolon hgap)]
    exact List.mem_singleton_self _
  · exact List.mem_cons_of_mem _ (List.mem_cons_of_mem _ List.mem_cons_self)
  · rw [trim_unnoticedClause]
    exact ⟨["a".toList, " b".toList], Nat.le_refl 2, by decide, rfl⟩

theorem declarations_unnoticed (hsemicolon : ';' ∉ head) (hgap : Blank gap) :
    declarations (unnoticed head gap).toList = [unnoticedRest head gap] := by
  have hrest := (not_or.mp (mt List.mem_append.mpr (semicolon_notMem_unnoticed hsemicolon hgap))).2
  rw [unnoticed, String.toList_ofList, declarations_eq_singleton hrest trimmed_unnoticed]

/-- **Glued to the name, the list is not found**: what is read is the list within the type of the
first column. -/
theorem acceptable_unnoticed_of_solid {strict : Bool} (hhead : Solid head)
    (hbare : Brackets.round.Bare head) (hgap : Blank gap) :
    Acceptable strict (unnoticedRest head gap) := by
  let behind := ", b INT, PRIMARY KEY".toList ++ (gap ++ "(a, b)".toList ++ [')'])
  have htext : unnoticedRest head gap
      = (head ++ "(a".toList) ++ (" T".toList ++ '(' :: ("c INT".toList ++ ')' :: behind)) := by
    rw [unnoticedRest, unnoticedClauses, List.intercalate_cons_cons, List.intercalate_cons_cons,
      List.intercalate_singleton, List.append_assoc head]
    rfl
  have hlayout : Layout (unnoticedRest head gap) (head ++ "(a".toList) ["c INT".toList] := by
    refine ⟨_, " T".toList, "c INT".toList, behind, ⟨htext, ?_, ?_⟩,
      Brackets.keeps_of_balanced (by decide) (by decide) (by decide) behind,
      .pieces (by decide) (.last (by decide))⟩
    · exact solid_append.mpr ⟨hhead, by decide⟩
    · intro c hc
      obtain rfl := Option.some.inj hc
      rfl
  refine (acceptable_iff (few_unnoticed hbare hgap).right).mpr
    ⟨_, _, hlayout, List.append_ne_nil_of_right_ne_nil _ (by decide), ?_⟩
  refine ⟨by decide, by decide, fun p hp hkey => ?_, fun _ p hp _ => ?_⟩
  · obtain rfl := List.mem_singleton.mp hp
    exact absurd hkey (by decide)
  · obtain rfl := List.mem_singleton.mp hp
    exact ⟨.integer, by decide⟩

/-- **Not recognised as a key, the clause is a column**, whose type lenient settings accept. -/
theorem acceptable_unnoticed_of_blank (hhead : Brackets.round.Bare head)
    (hstart : ∀ c ∈ head.head?, isBlank c = false) (hblank : ∃ c ∈ head, isBlank c = true)
    (hgap : Blank gap) (hspace : gap.head? ≠ some ' ') :
    Acceptable false (unnoticedRest head gap) := by
  have hname : word head ≠ [] := by
    obtain ⟨c, hc, -⟩ := hblank
    exact word_ne_nil (List.ne_nil_of_mem hc) hstart
  have hnotblank : ∀ p ∈ unnoticedClauses gap, ¬ Blank p := by
    simp only [unnoticedClauses, List.forall_mem_cons]
    refine ⟨by decide, by decide, ?_, fun t ht => absurd ht List.not_mem_nil⟩
    rw [← trim_eq_nil_iff, trim_unnoticedClause]
    simp
  have hnokey : ∀ p ∈ unnoticedClauses gap, ¬ IsKeySegment p := by
    simp only [unnoticedClauses, List.forall_mem_cons]
    refine ⟨by decide, by decide, ?_, fun t ht => absurd ht List.not_mem_nil⟩
    exact mt (isKeySegment_iff_of_trim trim_unnoticedClause).mp hspace
  have hlist : ¬ Blank ([','].intercalate (unnoticedClauses gap)) :=
    fun h => hnotblank _ List.mem_cons_self fun c hc => h c (mem_intercalate List.mem_cons_self hc)
  refine (acceptable_iff (few_unnoticed hhead hgap).right).mpr ⟨word head, unnoticedClauses gap,
    layout_of_head hhead hblank (balanced_unnoticed hgap) (.pieces hlist (pieces_unnoticed hgap)),
    hname, hnotblank, ?_, fun p hp hkey => absurd hkey (hnokey p hp), fun h => ?_⟩
  · rw [List.countP_eq_zero.mpr fun p hp => by simpa using hnokey p hp]
    exact Nat.zero_le 1
  · exact absurd h Bool.false_ne_true

end Unnoticed

/-- **When all scripts with few brackets and a key of several columns are refused**: if the name of
the table is missing, or if a blank stands between it and the list, and types have to be listed or
the gap starts with a space. -/
theorem Session.refuses_composite_iff {σ : Session} {head gap : List Char}
    (hhead : Brackets.round.Bare head) (hsemicolon : ';' ∉ head) (hgap : Blank gap) :
    (∀ script, Brackets.round.Few script.toList → DeclaresComposite script head gap →
        ∀ tables, (σ.read script).1.outcome ≠ .ok tables) ↔
      (∃ c ∈ head.head?, isBlank c = true) ∨
        ((∃ c ∈ head, isBlank c = true) ∧
          (σ.settings.strictTypes = true ∨ gap.head? = some ' ')) := by
  constructor
  · intro h
    by_contra hc
    rw [not_or, not_and_or] at hc
    obtain ⟨hstart, hc⟩ := hc
    have hacc : Acceptable σ.settings.strictTypes (unnoticedRest head gap) := by
      by_cases hblank : ∃ c ∈ head, isBlank c = true
      · obtain ⟨hstrict, hspace⟩ := not_or.mp (hc.resolve_left (not_not.mpr hblank))
        rw [eq_false_of_ne_true hstrict]
        refine acceptable_unnoticed_of_blank hhead (fun c hc => ?_) hblank hgap hspace
        exact eq_false_of_ne_true fun hcb => hstart ⟨c, hc, hcb⟩
      · refine acceptable_unnoticed_of_solid (fun c hc => ?_) hhead hgap
        exact eq_false_of_ne_true fun hcb => hblank ⟨c, hc, hcb⟩
    have hfew : Brackets.round.Few (unnoticed head gap).toList := by
      rw [unnoticed, String.toList_ofList]
      exact few_unnoticed hhead hgap
    have hok : ∃ tables, (σ.read (unnoticed head gap)).1.outcome = .ok tables := by
      rw [exists_outcome_read_eq_ok_iff hfew, declarations_unnoticed hsemicolon hgap]
      intro rest hrest
      rwa [List.mem_singleton.mp hrest]
    obtain ⟨tables, hok⟩ := hok
    exact h _ hfew (declaresComposite_unnoticed hsemicolon hgap) tables hok
  · rintro h script hfew ⟨piece, hpiece, list, behind, segments, htrim, hlist, hpieces, p, hp, hkey⟩
      tables hok
    have hrest : head ++ '(' :: (list ++ ')' :: behind) ∈ declarations script.toList := by
      refine List.mem_filterMap.mpr ⟨piece, hpiece, ?_⟩
      rw [htrim, if_pos (List.prefix_append _ _), List.drop_left]
    have hacc := (exists_outcome_read_eq_ok_iff hfew).mp ⟨tables, hok⟩ _ hrest
    rcases h with ⟨c, hc, hcb⟩ | ⟨hblank, h⟩
    · refine not_acceptable_of_blank_start ⟨c, ?_, hcb⟩ hacc
      rw [List.head?_append, Option.mem_def.mp hc]
      rfl
    · have hnotblank : ¬ Blank list := by
        intro hb
        have hopen : '(' ∈ p := by
          obtain ⟨names, -, -, ht⟩ := hkey
          refine mem_of_mem_trim ?_
          rw [ht]
          simp
        exact hb.notMem (by decide) (hpieces.mem hp hopen)
      have hlayout : Layout (head ++ '(' :: (list ++ ')' :: behind)) (word head) segments :=
        layout_of_head hhead hblank hlist (.pieces hnotblank hpieces)
      exact hkey.not_acceptable hgap hp h (hacc.segments _ _ hlayout)

/-- With a blank behind the name and a space behind the words, all of them are refused. -/
theorem Session.refuses_composite_behind_space :
    Brackets.round.Bare "t ".toList ∧ ';' ∉ "t ".toList ∧ Blank " ".toList ∧
      ∀ script, Brackets.round.Few script.toList →
        DeclaresComposite script "t ".toList " ".toList →
        ∀ tables, ((Session.mk {} []).read script).1.outcome ≠ .ok tables :=
  ⟨by decide, by decide, by decide,
    (Session.refuses_composite_iff (by decide) (by decide) (by decide)).mpr
      (.inr ⟨⟨' ', by decide, by decide⟩, .inr rfl⟩)⟩

/-- Without a space, a key of two columns is taken for a column. -/
theorem Session.accepts_composite_without_space :
    DeclaresComposite "CREATE TABLE t (a INT, b INT, PRIMARY KEY(a, b))" "t ".toList [] ∧
      ((Session.mk {} []).read "CREATE TABLE t (a INT, b INT, PRIMARY KEY(a, b))").1.outcome =
        .ok [⟨"t", [⟨"a", .integer⟩, ⟨"b", .integer⟩, ⟨"PRIMARY", .text⟩], none⟩] := by
  let script := "CREATE TABLE t (a INT, b INT, PRIMARY KEY(a, b))".toList
  let segments := ["a INT".toList, " b INT".toList, " PRIMARY KEY(a, b)".toList]
  have hkey : CompositeKey [] (trim " PRIMARY KEY(a, b)".toList) :=
    ⟨["a".toList, " b".toList], Nat.le_refl 2, by decide, by decide⟩
  refine ⟨⟨script, by decide, "a INT, b INT, PRIMARY KEY(a, b)".toList, [], segments, by decide,
    by decide, Brackets.pieces_iff.mpr (by decide), _, by decide, hkey⟩, by decide⟩

end TableSchema
