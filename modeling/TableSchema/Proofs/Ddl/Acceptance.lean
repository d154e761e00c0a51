import TableSchema.Proofs.Ddl.Script
import TableSchema.Proofs.Schema.SqlType

/-!
# What is accepted, and what becomes of it

The conditions under which a script is accepted, in terms of its texts alone: every declaration has
a name and a list in brackets, no segment of the list is blank, at most one names the key, and that
one names a single column; strict settings moreover ask for listed types.  No segment is lost: each
is a field of the table, in order, or names its key.

## Main definitions

* `IsKeySegment`, `NamesKey`, `ListedSegment` — what a segment may be.
* `AcceptableSegments`, `Acceptable` — the conditions on the segments and on the declaration.
* `Describes segments name d` — the table `d` has all that the segments say, and nothing else.

## Main results

* `exists_clauses_iff` — acceptable segments are those that can be read and added to a table.
* `createTranscript_outcome_eq_ok_iff_acceptable` — the run over a declaration.
* `Session.accepts_iff_acceptable` — **the scripts that are accepted, and the tables they yield.**
-/

namespace TableSchema

open Text

/-! ### Segments -/

/-- The segment starts, outer blanks aside, with the words of a key clause. -/
def IsKeySegment (p : List Char) : Prop := Clause.keyWords <+: trim p

instance : DecidablePred IsKeySegment := fun p =>
  inferInstanceAs (Decidable (Clause.keyWords <+: trim p))

/-- The segment is a key clause that names this column and no other. -/
def NamesKey (p column : List Char) : Prop :=
  ∃ r, trim p = Clause.keyWords ++ r ∧ Clause.NamesOne r column

/-- The second word of the segment is a listed type, arguments aside. -/
def ListedSegment (p : List Char) : Prop :=
  ∃ type, (String.ofList ((secondWord p).takeWhile (· ≠ '(')), type) ∈ SqlType.known

/-- The field that the segment declares unless it names the key. -/
def fieldOf (p : List Char) : Field :=
  ⟨String.ofList (firstWord p), SqlType.resolve (secondWord p)⟩

/-- What a segment is read as. -/
inductive ReadAs (p : List Char) : Clause → Prop
  /-- A key clause names the key. -/
  | key {column : List Char} (h : NamesKey p column) : ReadAs p (.key column)
  /-- Any other that is not blank declares a column by its first two words. -/
  | column (hb : ¬ Blank p) (hk : ¬ IsKeySegment p) :
    ReadAs p (.column (firstWord p) (secondWord p))

theorem NamesKey.isKeySegment {p column : List Char} (h : NamesKey p column) : IsKeySegment p := by
  obtain ⟨r, hr, -⟩ := h
  exact ⟨r, hr.symm⟩

/-- The words of a key clause are not blank. -/
theorem IsKeySegment.not_blank {p : List Char} (h : IsKeySegment p) : ¬ Blank p := by
  intro hb
  rw [IsKeySegment, trim_of_blank hb, List.prefix_nil] at h
  exact absurd h (by decide)

/-- A key clause starts with the word `PRIMARY`. -/
theorem IsKeySegment.firstWord_eq {p : List Char} (h : IsKeySegment p) :
    firstWord p = "PRIMARY".toList := by
  obtain ⟨r, hr⟩ := h
  have hsolid : Solid "PRIMARY".toList := by decide
  have hwords : words p = "PRIMARY".toList :: words ("KEY ".toList ++ r) := by
    have hgap : Blank [' '] := by decide
    rw [← words_trim, ← hr, ← words_append_gap hsolid (by decide) hgap (List.cons_ne_nil _ _)]
    rfl
  rw [firstWord, hwords, List.headD_cons]

/-- A key clause names one column only. -/
theorem NamesKey.unique {p column column' : List Char} (h : NamesKey p column)
    (h' : NamesKey p column') : column = column' := by
  obtain ⟨r, hr, hn⟩ := h
  obtain ⟨r', hr', hn'⟩ := h'
  obtain rfl : r = r' := List.append_cancel_left (hr.symm.trans hr')
  have hk := Clause.keyColumns_eq_singleton_iff.mpr ⟨hn.list, hn.single⟩
  have hk' := Clause.keyColumns_eq_singleton_iff.mpr ⟨hn'.list, hn'.single⟩
  exact (List.cons.inj (hk.symm.trans hk')).1

/-- **What a segment is read as**, said of the segment itself. -/
theorem read_trim_eq_ok_iff_readAs {table p : List Char} {c : Clause} :
    Clause.read table (trim p) = .ok c ↔ ReadAs p c := by
  rw [Clause.read_trim_eq_ok_iff]
  constructor
  · rintro ⟨hb, ⟨r, column, hr, hn, rfl⟩ | ⟨hk, rfl⟩⟩
    · exact .key ⟨r, hr, hn⟩
    · exact .column hb hk
  · rintro (⟨r, hr, hn⟩ | ⟨hb, hk⟩)
    · exact ⟨IsKeySegment.not_blank ⟨r, hr.symm⟩, .inl ⟨r, _, hr, hn, rfl⟩⟩
    · exact ⟨hb, .inr ⟨hk, rfl⟩⟩

/-- A segment can be read exactly if it is not blank and, being a key clause, names a column. -/
theorem exists_readAs_iff {p : List Char} :
    (∃ c, ReadAs p c) ↔ ¬ Blank p ∧ (IsKeySegment p → ∃ column, NamesKey p column) := by
  constructor
  · rintro ⟨_, h | ⟨hb, hk⟩⟩
    · exact ⟨h.isKeySegment.not_blank, fun _ => ⟨_, h⟩⟩
    · exact ⟨hb, fun h => absurd h hk⟩
  · rintro ⟨hb, hkey⟩
    by_cases hk : IsKeySegment p
    · obtain ⟨column, h⟩ := hkey hk
      exact ⟨_, .key h⟩
    · exact ⟨_, .column hb hk⟩

/-! ### All segments of a list -/

/-- All elements are related to something exactly if there is a list they are related to. -/
theorem exists_forall₂_iff {α β : Type} {R : α → β → Prop} {xs : List α} :
    (∃ ys, List.Forall₂ R xs ys) ↔ ∀ x ∈ xs, ∃ y, R x y := by
  induction xs with
  | nil => simp
  | cons x xs ih =>
    rw [List.forall_mem_cons, ← ih]
    constructor
    · rintro ⟨_, _ | ⟨hx, hxs⟩⟩
      exact ⟨⟨_, hx⟩, _, hxs⟩
    · rintro ⟨⟨y, hy⟩, ys, hys⟩
      exact ⟨y :: ys, .cons hy hys⟩

/-- Relations that agree on the members of a list relate it to the same lists. -/
theorem forall₂_congr_of_mem {α β : Type} {R S : α → β → Prop} {xs : List α} {ys : List β}
    (h : ∀ x ∈ xs, ∀ y, R x y ↔ S x y) : List.Forall₂ R xs ys ↔ List.Forall₂ S xs ys := by
  induction xs generalizing ys with
  | nil => simp
  | cons x xs ih =>
    obtain ⟨hx, hxs⟩ := List.forall_mem_cons.mp h
    cases ys with
    | nil => simp
    | cons y ys => rw [List.forall₂_cons, List.forall₂_cons, hx, ih hxs]

section Clauses

variable {ps : List (List Char)} {cs : List Clause}

/-- The fields are those of the segments that do not name the key, in order. -/
theorem filterMap_field?_of_readAs (h : List.Forall₂ ReadAs ps cs) :
    cs.filterMap Clause.field? = (ps.filter (¬ IsKeySegment ·)).map fieldOf := by
  induction h with
  | nil => rfl
  | @cons p c ps cs hp _ ih =>
    cases hp with
    | key hkey => simpa [List.filterMap_cons, Clause.field?, hkey.isKeySegment] using ih
    | column hb hk => simpa [List.filterMap_cons, Clause.field?, hk, fieldOf] using ih

/-- The keys are the columns that the key clauses name, in order. -/
theorem forall₂_keyName?_of_readAs (h : List.Forall₂ ReadAs ps cs) :
    List.Forall₂ (fun p key => ∃ column, NamesKey p column ∧ key = String.ofList column)
      (ps.filter (IsKeySegment ·)) (cs.filterMap Clause.keyName?) := by
  induction h with
  | nil => exact .nil
  | @cons p c ps cs hp _ ih =>
    cases hp with
    | key hkey =>
      have hcons := List.Forall₂.cons ⟨_, hkey, rfl⟩ ih
      simpa [List.filterMap_cons, Clause.keyName?, hkey.isKeySegment] using hcons
    | column hb hk => simpa [List.filterMap_cons, Clause.keyName?, hk] using ih

/-- The types of the columns are listed exactly if those of the segments are. -/
theorem listed_iff_of_readAs (h : List.Forall₂ ReadAs ps cs) :
    (∀ name sqlType, Clause.column name sqlType ∈ cs → SqlType.lookup sqlType ≠ none) ↔
      ∀ p ∈ ps, ¬ IsKeySegment p → ListedSegment p := by
  induction h with
  | nil => simp
  | @cons p c ps cs hp _ ih =>
    rw [List.forall_mem_cons, ← ih]
    cases hp with
    | key hkey => simp [hkey.isKeySegment]
    | column hb hk =>
      rw [ListedSegment, ← SqlType.lookup_ne_none_iff]
      constructor
      · intro hl
        exact ⟨fun _ => hl _ _ List.mem_cons_self,
          fun name sqlType hm => hl name sqlType (List.mem_cons_of_mem _ hm)⟩
      · rintro ⟨hp, hl⟩ name sqlType hm
        rcases List.mem_cons.mp hm with he | hm
        · obtain ⟨-, rfl⟩ := Clause.column.inj he
          exact hp hk
        · exact hl name sqlType hm

end Clauses

/-- The conditions on the segments of a list. -/
structure AcceptableSegments (strict : Bool) (segments : List (List Char)) : Prop where
  /-- No segment is blank. -/
  not_blank : ∀ p ∈ segments, ¬ Blank p
  /-- At most one segment is a key clause. -/
  one_key : segments.countP (IsKeySegment ·) ≤ 1
  /-- A key clause names one column. -/
  key_named : ∀ p ∈ segments, IsKeySegment p → ∃ column, NamesKey p column
  /-- In strict mode, the types of all other segments are listed. -/
  listed : strict = true → ∀ p ∈ segments, ¬ IsKeySegment p → ListedSegment p

/-- The table has all that the segments say, and nothing else. -/
structure Describes (segments : List (List Char)) (name : List Char) (d : TableDraft) : Prop where
  /-- The table has its name. -/
  name : d.name = String.ofList name
  /-- There is one field for each segment that does not name the key, in order. -/
  fields : d.fields = (segments.filter (¬ IsKeySegment ·)).map fieldOf
  /-- There is a key exactly if there is a key clause. -/
  has_key : d.key.isSome ↔ ∃ p ∈ segments, IsKeySegment p
  /-- The key is the column that the key clause names. -/
  key : ∀ p ∈ segments, ∀ column, NamesKey p column → d.key = some (String.ofList column)

/-- **Acceptable segments are those that can be read and added to a table.** -/
theorem exists_clauses_iff {s : ParseSettings} {name : String} {segments : List (List Char)} :
    (∃ cs, List.Forall₂ ReadAs segments cs ∧ AllAdmissible s ⟨name, [], none⟩ cs) ↔
      AcceptableSegments s.strictTypes segments := by
  constructor
  · rintro ⟨cs, hcs, hlisted, hone⟩
    have hread : ∀ p ∈ segments, ¬ Blank p ∧ (IsKeySegment p → ∃ column, NamesKey p column) :=
      fun p hp => exists_readAs_iff.mp (exists_forall₂_iff.mp ⟨cs, hcs⟩ p hp)
    refine ⟨fun p hp => (hread p hp).1, ?_, fun p hp => (hread p hp).2,
      fun hs => (listed_iff_of_readAs hcs).mp (hlisted hs)⟩
    -- there are as many key clauses as keys
    rw [List.countP_eq_length_filter, (forall₂_keyName?_of_readAs hcs).length_eq]
    simpa using hone
  · intro h
    obtain ⟨cs, hcs⟩ : ∃ cs, List.Forall₂ ReadAs segments cs :=
      exists_forall₂_iff.mpr fun p hp =>
        exists_readAs_iff.mpr ⟨h.not_blank p hp, h.key_named p hp⟩
    refine ⟨cs, hcs, fun hs => (listed_iff_of_readAs hcs).mpr (h.listed hs), ?_⟩
    have hone := h.one_key
    rw [List.countP_eq_length_filter, (forall₂_keyName?_of_readAs hcs).length_eq] at hone
    simpa using hone

/-- **No segment is lost**: the clauses make the table that the segments describe. -/
theorem describes_extend {s : ParseSettings} {name : List Char} {segments : List (List Char)}
    {cs : List Clause} (hcs : List.Forall₂ ReadAs segments cs)
    (hadm : AllAdmissible s ⟨String.ofList name, [], none⟩ cs) :
    Describes segments name (TableDraft.extend ⟨String.ofList name, [], none⟩ cs) := by
  have hkeys := forall₂_keyName?_of_readAs hcs
  have hone : (cs.filterMap Clause.keyName?).length ≤ 1 := by simpa using hadm.one_key
  have hkey : (TableDraft.extend ⟨String.ofList name, [], none⟩ cs).key
      = (cs.filterMap Clause.keyName?).head? := by simp [TableDraft.extend]
  have hmem : ∀ p ∈ segments, IsKeySegment p → p ∈ segments.filter (IsKeySegment ·) :=
    fun p hp hk => List.mem_filter.mpr ⟨hp, decide_eq_true hk⟩
  refine ⟨rfl, filterMap_field?_of_readAs hcs, ?_, ?_⟩
  · rw [hkey, List.isSome_head?, ne_eq, ← List.length_eq_zero_iff, ← hkeys.length_eq,
      List.length_eq_zero_iff, List.filter_eq_nil_iff]
    simp
  · intro p hp column hnames
    have hp' := hmem p hp hnames.isKeySegment
    rw [hkey]
    -- there is one key clause and one key
    generalize segments.filter (IsKeySegment ·) = keys at hkeys hp'
    generalize cs.filterMap Clause.keyName? = names at hkeys hone ⊢
    cases hkeys with
    | nil => exact absurd hp' List.not_mem_nil
    | @cons q key keys names hq hkeys =>
      obtain rfl : names = [] := List.length_eq_zero_iff.mp (by simpa using hone)
      cases hkeys
      obtain rfl : p = q := List.mem_singleton.mp hp'
      obtain ⟨column', hnames', rfl⟩ := hq
      rw [hnames.unique hnames', List.head?_cons]

/-! ### Declarations -/

theorem Segments.unique {list : List Char} {segments segments' : List (List Char)}
    (h : Segments list segments) (h' : Segments list segments') : segments = segments' := by
  cases h with
  | blank h =>
    cases h' with
    | blank => rfl
    | pieces hn => exact absurd h hn
  | pieces hn hp =>
    cases h' with
    | blank h => exact absurd h hn
    | pieces _ hp' => rw [Brackets.pieces_iff.mp hp, Brackets.pieces_iff.mp hp']

theorem Layout.unique {rest name name' : List Char} {segments segments' : List (List Char)}
    (hfew : Brackets.round.Few rest) (h : Layout rest name segments)
    (h' : Layout rest name' segments') : name = name' ∧ segments = segments' := by
  obtain ⟨rfl, list, hlist, hseg⟩ := (layout_iff hfew).mp h
  obtain ⟨rfl, list', hlist', hseg'⟩ := (layout_iff hfew).mp h'
  obtain rfl : list = list' := Option.some.inj (hlist.symm.trans hlist')
  exact ⟨rfl, hseg.unique hseg'⟩

/-- **There is a layout exactly if some closing bracket behind the name is reached with as many
opening brackets as closing ones.** -/
theorem exists_layout_iff {rest : List Char} (hfew : Brackets.round.Few rest) :
    (∃ name segments, Layout rest name segments ∧ name ≠ []) ↔
      ∃ name behind, StartsWith rest name behind ∧ name ≠ [] ∧
        ∃ u v, behind = u ++ ')' :: v ∧ (u ++ [')']).count '(' = (u ++ [')']).count ')' := by
  have hclose : ∀ {behind}, Brackets.round.Few behind →
      ((∃ list, Brackets.round.inside? behind = some list) ↔
        ∃ u v, behind = u ++ ')' :: v ∧ (u ++ [')']).count '(' = (u ++ [')']).count ')') := by
    intro behind hb
    simp only [Brackets.exists_inside?_iff hb, Brackets.round_closing, Brackets.depth_round,
      Int.sub_eq_zero, Int.natCast_inj]
  constructor
  · rintro ⟨name, segments, ⟨behind, before, list, after, hstart, hkeeps, -⟩, hne⟩
    have hb := few_of_startsWith hfew hstart
    exact ⟨name, behind, hstart, hne, (hclose hb).mp ⟨list,
      (Brackets.inside?_eq_some_iff hb).mpr ⟨before, after, hkeeps⟩⟩⟩
  · rintro ⟨name, behind, hstart, hne, hlevel⟩
    have hb := few_of_startsWith hfew hstart
    obtain ⟨list, hlist⟩ := (hclose hb).mpr hlevel
    obtain ⟨before, after, hkeeps⟩ := (Brackets.inside?_eq_some_iff hb).mp hlist
    obtain ⟨segments, hseg⟩ := exists_segments list
    exact ⟨name, segments, ⟨behind, before, list, after, hstart, hkeeps, hseg⟩, hne⟩

/-- The conditions on what follows the words `CREATE TABLE`. -/
structure Acceptable (strict : Bool) (rest : List Char) : Prop where
  /-- It starts with a name, and behind the name some closing bracket is reached with as many
  opening brackets as closing ones. -/
  complete : ∃ name behind, StartsWith rest name behind ∧ name ≠ [] ∧
    ∃ u v, behind = u ++ ')' :: v ∧ (u ++ [')']).count '(' = (u ++ [')']).count ')'
  /-- The segments of its list are acceptable. -/
  segments : ∀ name segments, Layout rest name segments → AcceptableSegments strict segments

/-- The table is what the declaration says. -/
def Declares (rest : List Char) (d : TableDraft) : Prop :=
  ∃ name segments, Layout rest name segments ∧ Describes segments name d

theorem acceptable_iff {strict : Bool} {rest : List Char} (hfew : Brackets.round.Few rest) :
    Acceptable strict rest ↔ ∃ name segments, Layout rest name segments ∧ name ≠ [] ∧
      AcceptableSegments strict segments := by
  constructor
  · rintro ⟨hcomplete, hsegments⟩
    obtain ⟨name, segments, hlayout, hne⟩ := (exists_layout_iff hfew).mpr hcomplete
    exact ⟨name, segments, hlayout, hne, hsegments name segments hlayout⟩
  · rintro ⟨name, segments, hlayout, hne, hsegments⟩
    refine ⟨(exists_layout_iff hfew).mp ⟨name, segments, hlayout, hne⟩,
      fun name' segments' hlayout' => ?_⟩
    rwa [← (hlayout.unique hfew hlayout').2]

/-- The segments leave no choice of the table. -/
theorem Describes.unique {strict : Bool} {segments : List (List Char)} {name : List Char}
    {d d' : TableDraft} (hs : AcceptableSegments strict segments) (h : Describes segments name d)
    (h' : Describes segments name d') : d = d' := by
  have hkey : d.key = d'.key := by
    by_cases hk : ∃ p ∈ segments, IsKeySegment p
    · obtain ⟨p, hp, hkp⟩ := hk
      obtain ⟨column, hnames⟩ := hs.key_named p hp hkp
      rw [h.key p hp column hnames, h'.key p hp column hnames]
    · have hnone := mt h.has_key.mp hk
      have hnone' := mt h'.has_key.mp hk
      rw [Option.not_isSome_iff_eq_none] at hnone hnone'
      rw [hnone, hnone']
  have hname := h.name.trans h'.name.symm
  have hfields := h.fields.trans h'.fields.symm
  cases d
  cases d'
  simp_all

/-- **Among few brackets, the run over a declaration** succeeds exactly if the declaration is
acceptable, and yields the table that it declares. -/
theorem createTranscript_outcome_eq_ok_iff_acceptable {s : ParseSettings} {rest : List Char}
    {d : TableDraft} (hfew : Brackets.round.Few rest) :
    (Statement.createTranscript s rest).outcome = .ok [d] ↔
      Acceptable s.strictTypes rest ∧ Declares rest d := by
  simp only [createTranscript_outcome_eq_ok_iff hfew, read_trim_eq_ok_iff_readAs]
  constructor
  · rintro ⟨name, segments, hlayout, hne, cs, hcs, hadm, hd⟩
    obtain rfl := List.singleton_inj.mp hd
    have hsegments := exists_clauses_iff.mp ⟨cs, hcs, hadm⟩
    exact ⟨(acceptable_iff hfew).mpr ⟨name, segments, hlayout, hne, hsegments⟩,
      name, segments, hlayout, describes_extend hcs hadm⟩
  · rintro ⟨hacc, name, segments, hlayout, hdesc⟩
    obtain ⟨name', segments', hlayout', hne, hsegments⟩ := (acceptable_iff hfew).mp hacc
    obtain ⟨rfl, rfl⟩ := hlayout.unique hfew hlayout'
    obtain ⟨cs, hcs, hadm⟩ := (@exists_clauses_iff s (String.ofList name) segments).mpr hsegments
    refine ⟨name, segments, hlayout, hne, cs, hcs, hadm, ?_⟩
    rw [hdesc.unique hsegments (describes_extend hcs hadm)]

/-- An acceptable declaration declares a table. -/
theorem Acceptable.exists_declares {strict : Bool} {rest : List Char}
    (hfew : Brackets.round.Few rest) (h : Acceptable strict rest) : ∃ d, Declares rest d := by
  obtain ⟨name, segments, hlayout, -, hsegments⟩ := (acceptable_iff hfew).mp h
  obtain ⟨cs, hcs, hadm⟩ :=
    (@exists_clauses_iff ⟨0, strict⟩ (String.ofList name) segments).mpr hsegments
  exact ⟨_, name, segments, hlayout, describes_extend hcs hadm⟩

/-! ### Declarations with very many brackets -/

section ManyOpened

/-- A column whose type opens `n` brackets and closes none. -/
def openedColumn (n : ℕ) : List Char := "a INT".toList ++ List.replicate n '('

/-- What follows the words `CREATE TABLE` where such a column is the first of a list, with a closing
bracket behind it. -/
def manyOpened (n : ℕ) (behind : List Char) : List Char :=
  ("t (".toList ++ openedColumn n) ++ ')' :: behind

theorem semicolon_notMem_manyOpened (n : ℕ) : ';' ∉ manyOpened n [] := by
  simp [manyOpened, openedColumn, List.mem_replicate]

theorem readAs_openedColumn (n : ℕ) : ∃ arguments,
    ReadAs (openedColumn n) (.column "a".toList ("INT".toList ++ arguments)) ∧
      ∀ c ∈ arguments.head?, c = '(' := by
  have ha : Solid "a".toList := by decide
  have hint : Solid "INT".toList := by decide
  have htext : openedColumn n
      = "a".toList ++ ([' '] ++ ("INT".toList ++ List.replicate n '(')) := by
    rw [openedColumn, ← List.append_assoc, ← List.append_assoc]
    rfl
  have hwords : words (openedColumn n) = "a".toList ::
      ("INT".toList ++ word (List.replicate n '(')) ::
        words (afterWord ("INT".toList ++ List.replicate n '(')) := by
    rw [htext, words_append_gap ha (by decide) (by decide) (by decide),
      words_solid_append hint (by decide)]
  have hfirst : firstWord (openedColumn n) = "a".toList := by rw [firstWord, hwords]; rfl
  have hsecond : secondWord (openedColumn n) = "INT".toList ++ word (List.replicate n '(') := by
    rw [secondWord, hwords]
    rfl
  have hblank : ¬ Blank (openedColumn n) := fun h => by
    have hmem : 'a' ∈ openedColumn n := by simp [htext]
    exact h.notMem (by decide) hmem
  have hkey : ¬ IsKeySegment (openedColumn n) := fun h =>
    absurd (hfirst.symm.trans h.firstWord_eq) (by decide)
  refine ⟨word (List.replicate n '('), ?_, fun c hc => ?_⟩
  · have hread := ReadAs.column hblank hkey
    rwa [hfirst, hsecond] at hread
  · exact List.eq_of_mem_replicate (List.mem_of_mem_head? (mem_head?_word hc).1)

theorem startsWith_manyOpened (n : ℕ) (behind : List Char) : StartsWith (manyOpened n behind)
    "t".toList (([' '] ++ '(' :: openedColumn n) ++ ')' :: behind) where
  text := rfl
  solid := by decide
  maximal := by
    intro c hc
    obtain rfl : ' ' = c := Option.some.inj hc
    decide

/-- Where the counter wraps, the first closing bracket ends the list. -/
theorem inside?_manyOpened {n : ℕ} (h : Int32.ofInt n = 0) (behind : List Char) :
    Brackets.round.inside? (afterWord (manyOpened n behind)) = some (openedColumn n) := by
  have hdepth : Brackets.round.depth (([' '] ++ '(' :: openedColumn n) ++ [')']) = n := by
    have hopened : Brackets.round.depth (List.replicate n '(') = n :=
      Brackets.depth_replicate_opening .round n
    have hint : Brackets.round.depth "a INT".toList = 0 := by decide
    have hblank : Brackets.round.step ' ' = 0 := by decide
    have hopen : Brackets.round.step '(' = 1 := by decide
    have hclose : Brackets.round.step ')' = -1 := by decide
    simp only [openedColumn, Brackets.depth_append, Brackets.depth_cons, Brackets.depth_nil,
      hopened, hint, hblank, hopen, hclose]
    omega
  have hclosing : ')' ∉ [' '] ++ '(' :: openedColumn n := by
    simp [openedColumn, List.mem_replicate]
  rw [(startsWith_manyOpened n behind).afterWord_eq, inside?_trimStart]
  exact Brackets.inside?_of_closing_notMem (by decide) (by decide) hclosing
    ((congrArg Int32.ofInt hdepth).trans h) behind

/-- **Where the counter wraps, what stands behind the first closing bracket is ignored**, however
many brackets are still open. -/
theorem createTranscript_manyOpened (s : ParseSettings) {n : ℕ} (h : Int32.ofInt n = 0)
    (behind : List Char) : (Statement.createTranscript s (manyOpened n behind)).outcome
      = .ok [⟨"t", [⟨"a", .integer⟩], none⟩] := by
  obtain ⟨arguments, hread, harguments⟩ := readAs_openedColumn n
  have hcomma : ',' ∉ trim (openedColumn n) := by
    refine mt mem_of_mem_trim ?_
    simp [openedColumn, List.mem_replicate]
  have hclauses : Statement.clausesOf (openedColumn n) = [trim (openedColumn n)] := by
    have hne : trim (openedColumn n) ≠ [] :=
      mt trim_eq_nil_iff.mp (exists_readAs_iff.mp ⟨_, hread⟩).1
    rw [Statement.clausesOf, if_neg hne, Brackets.split, Brackets.splitFrom_of_notMem hcomma,
      List.map_singleton, trim_trim]
  have hname := (startsWith_manyOpened n behind).word_eq
  rw [createTranscript_outcome_eq_ok_iff_clausesOf, hname]
  refine ⟨by decide, _, inside?_manyOpened h behind,
    [.column "a".toList ("INT".toList ++ arguments)], ?_, ⟨?_, ?_⟩, ?_⟩
  · rw [hclauses]
    exact .cons (read_trim_eq_ok_iff_readAs.mpr hread) .nil
  · intro _ name sqlType hmem
    obtain ⟨-, rfl⟩ := Clause.column.inj (List.mem_singleton.mp hmem)
    rw [SqlType.lookup_append harguments]
    decide
  · exact Nat.zero_le 1
  · rw [TableDraft.extend_column, SqlType.resolve_append harguments]
    decide

/-- Of all the brackets that are open only one is closed. -/
theorem not_acceptable_manyOpened {n : ℕ} (hn : 0 < n) (strict : Bool) :
    ¬ Acceptable strict (manyOpened n []) := by
  rintro ⟨⟨name, behind, hstart, -, u, v, hu, hlevel⟩, -⟩
  obtain rfl : "t".toList = name := (startsWith_manyOpened n []).word_eq.symm.trans hstart.word_eq
  obtain rfl : ([' '] ++ '(' :: openedColumn n) ++ [')'] = behind :=
    List.append_cancel_left ((startsWith_manyOpened n []).text.symm.trans hstart.text)
  have hclosing : ')' ∉ [' '] ++ '(' :: openedColumn n := by
    simp [openedColumn, List.mem_replicate]
  -- the only closing bracket is the last character
  obtain ⟨rfl, -, -⟩ := (List.append_cons_inj_of_notMem hclosing List.not_mem_nil).mp hu
  have hopened : (([' '] ++ '(' :: openedColumn n) ++ [')']).count '(' = n + 1 := by
    simp [openedColumn]
  have hclosed : (([' '] ++ '(' :: openedColumn n) ++ [')']).count ')' = 1 := by
    rw [List.count_append, List.count_eq_zero_of_not_mem hclosing]
    rfl
  omega

end ManyOpened

/-! ### Scripts -/

namespace Session

variable {σ : Session} {script : String}

theorem outcome_read_eq_ok_iff_declares (hfew : Brackets.round.Few script.toList)
    {tables : List TableDraft} : (σ.read script).1.outcome = .ok tables ↔
      List.Forall₂ (fun rest d => Acceptable σ.settings.strictTypes rest ∧ Declares rest d)
        (declarations script.toList) tables := by
  rw [outcome_read_eq_ok_iff]
  exact forall₂_congr_of_mem fun rest hrest d =>
    createTranscript_outcome_eq_ok_iff_acceptable (few_of_mem_declarations hfew hrest)

theorem exists_outcome_read_eq_ok_iff (hfew : Brackets.round.Few script.toList) :
    (∃ tables, (σ.read script).1.outcome = .ok tables) ↔
      ∀ rest ∈ declarations script.toList, Acceptable σ.settings.strictTypes rest := by
  simp only [outcome_read_eq_ok_iff_declares hfew, exists_forall₂_iff]
  constructor
  · intro h rest hrest
    obtain ⟨d, hacc, -⟩ := h rest hrest
    exact hacc
  · intro h rest hrest
    obtain ⟨d, hd⟩ := (h rest hrest).exists_declares (few_of_mem_declarations hfew hrest)
    exact ⟨d, h rest hrest, hd⟩

/-- **A script with few brackets is accepted exactly if all its declarations are acceptable**, and
then yields the tables that they declare, in order. -/
theorem accepts_iff_acceptable (σ : Session) (hfew : Brackets.round.Few script.toList) :
    ((∃ tables, (σ.read script).1.outcome = .ok tables) ↔
      ∀ rest ∈ declarations script.toList, Acceptable σ.settings.strictTypes rest) ∧
    ∀ tables, (σ.read script).1.outcome = .ok tables ↔
      List.Forall₂ (fun rest d => Acceptable σ.settings.strictTypes rest ∧ Declares rest d)
        (declarations script.toList) tables :=
  ⟨exists_outcome_read_eq_ok_iff hfew, fun _ => outcome_read_eq_ok_iff_declares hfew⟩

/-- Two declarations, the second one with a key, and a statement that is left out. -/
theorem accepts_two_declarations :
    let script := "CREATE TABLE t (a INT); DROP TABLE s; CREATE TABLE u (b TEXT, PRIMARY KEY (b)) x"
    Brackets.round.Few script.toList ∧
      List.Forall₂ (fun rest d => Acceptable true rest ∧ Declares rest d)
        (declarations script.toList)
        [⟨"t", [⟨"a", .integer⟩], none⟩, ⟨"u", [⟨"b", .text⟩], some "b"⟩] := by
  intro script
  have hfew : Brackets.round.Few script.toList := by decide
  exact ⟨hfew, ((accepts_iff_acceptable ⟨⟨30, true⟩, []⟩ hfew).2 _).mp (by decide)⟩

/-- With `2 ^ 32` brackets open in a list the counter has wrapped, and the first closing bracket
ends the list of a declaration in which no closing bracket leaves the depth zero. -/
theorem accepts_unclosed_list :
    let script := String.ofList (Statement.createWords ++ manyOpened (2 ^ 32) [])
    ((Session.mk {} []).read script).1.outcome = .ok [⟨"t", [⟨"a", .integer⟩], none⟩] ∧
      declarations script.toList = [manyOpened (2 ^ 32) []] ∧
      ¬ Acceptable false (manyOpened (2 ^ 32) []) := by
  intro script
  have hzero : Int32.ofInt (2 ^ 32 : ℕ) = 0 := by decide
  have hdeclarations : declarations script.toList = [manyOpened (2 ^ 32) []] := by
    rw [String.toList_ofList]
    exact declarations_eq_singleton (semicolon_notMem_manyOpened _) (trimmed_createWords_append _)
  refine ⟨?_, hdeclarations, not_acceptable_manyOpened (Nat.two_pow_pos 32) false⟩
  rw [outcome_read_eq_ok_iff, hdeclarations]
  exact .cons (createTranscript_manyOpened _ hzero []) .nil

end Session

end TableSchema
