import TableSchema.Proofs.Ddl.Acceptance

/-!
# Where a declaration breaks off

The clauses of a declaration are read in order, and the first that cannot be read, or cannot be
added to the table, decides what the fault is.  Here this first clause is pointed out, and all
faults of a single clause are listed.  Then those faults of a declaration are described that call it
malformed.

## Main definitions

* `NamesBlank p` — the segment is a key clause with a blank among its names.
* `BreaksOff strict segments` — the first segment at fault is malformed.

## Main results

* `clausesTranscript_outcome_eq_error_iff` — the first clause at fault decides.
* `Clause.read_eq_error_iff`, `TableDraft.absorb_eq_error_iff` — what a clause is refused for.
* `createTranscript_malformed_iff` — **when a declaration is refused as malformed.**
* `createTranscript_unopened_iff` — when an opening bracket is missing.
-/

namespace TableSchema

open Text

/-! ### The first clause at fault -/

/-- **The first clause at fault decides**: those before it can be read and added, and it cannot. -/
theorem clausesTranscript_outcome_eq_error_iff {s : ParseSettings} {table : List Char}
    {d : TableDraft} {ts : List (List Char)} {f : Fault} :
    (Statement.clausesTranscript s table d ts).outcome = .error f ↔
      ∃ good bad more cs, ts = good ++ bad :: more ∧
        List.Forall₂ (fun t c => Clause.read table t = .ok c) good cs ∧ AllAdmissible s d cs ∧
        (Clause.read table bad = .error f ∨
          ∃ c, Clause.read table bad = .ok c ∧ ((d.extend cs).absorb s c).2 = .error f) := by
  induction ts generalizing d with
  | nil => simp [Statement.clausesTranscript]
  | cons t ts ih =>
    rw [Statement.clausesTranscript]
    cases hread : Clause.read table t with
    | error g =>
      rw [Transcript.outcome_failed]
      constructor
      · intro h
        obtain rfl := Except.error.inj h
        exact ⟨[], t, ts, [], rfl, .nil, allAdmissible_nil, .inl hread⟩
      · rintro ⟨good, bad, more, cs, hts, hgood, -, hbad⟩
        cases hgood with
        | nil =>
          obtain ⟨rfl, -⟩ := List.cons.inj hts
          rcases hbad with hbad | ⟨c, hbad, -⟩
          · obtain rfl := Except.error.inj (hread.symm.trans hbad)
            rfl
          · simp [hread] at hbad
        | cons hfirst hgood =>
          obtain ⟨rfl, -⟩ := List.cons.inj hts
          simp [hread] at hfirst
    | ok c =>
      rcases d.absorb_cases s c with ⟨hadm, events, habs, hev⟩ | ⟨hadm, g, habs⟩
      · have htables : ∀ e ∈ events, e.table? = none := by
          intro e he
          obtain ⟨name, sqlType, -, rfl⟩ := hev e he
          rfl
        simp only [habs, Transcript.outcome_mk_append htables, ih]
        constructor
        · rintro ⟨good, bad, more, cs, rfl, hgood, hcs, hbad⟩
          rw [TableDraft.extend_extend] at hbad
          exact ⟨t :: good, bad, more, c :: cs, rfl, .cons hread hgood,
            allAdmissible_cons.mpr ⟨hadm, hcs⟩, hbad⟩
        · rintro ⟨good, bad, more, cs, hts, hgood, hcs, hbad⟩
          cases hgood with
          | nil =>
            -- the first clause was read and added, so it is not the one at fault
            obtain ⟨rfl, -⟩ := List.cons.inj hts
            rw [TableDraft.extend_nil] at hbad
            simp [hread, habs] at hbad
          | @cons _ c' good cs hfirst hgood =>
            obtain ⟨rfl, rfl⟩ := List.cons.inj hts
            obtain rfl : c = c' := Except.ok.inj (hread.symm.trans hfirst)
            refine ⟨good, bad, more, cs, rfl, hgood, (allAdmissible_cons.mp hcs).2, ?_⟩
            rwa [TableDraft.extend_extend]
      · have hrun : (Transcript.mk [] (some g)).outcome = .error g := rfl
        simp only [habs, hrun]
        constructor
        · intro h
          obtain rfl := Except.error.inj h
          refine ⟨[], t, ts, [], rfl, .nil, allAdmissible_nil, .inr ⟨c, hread, ?_⟩⟩
          rw [TableDraft.extend_nil, habs]
        · rintro ⟨good, bad, more, cs, hts, hgood, hcs, hbad⟩
          cases hgood with
          | nil =>
            obtain ⟨rfl, -⟩ := List.cons.inj hts
            rw [TableDraft.extend_nil] at hbad
            simpa [hread, habs] using hbad
          | @cons _ c' good cs hfirst hgood =>
            -- a clause that cannot be added is not among those before the one at fault
            obtain ⟨rfl, -⟩ := List.cons.inj hts
            obtain rfl : c = c' := Except.ok.inj (hread.symm.trans hfirst)
            exact absurd (allAdmissible_cons.mp hcs).1 hadm

/-! ### Clauses at fault -/

/-- **A key clause is at fault** if one of its names is blank, or else if there are several. -/
theorem Clause.readKey_eq_error_iff {table r : List Char} {f : Fault} :
    readKey table r = .error f ↔
      ([] ∈ keyColumns r ∧ f = .malformed (.emptyKeyColumn (String.ofList table))) ∨
      ([] ∉ keyColumns r ∧ 2 ≤ (keyColumns r).length ∧
        f = .unsupportedKey (String.ofList table) ((keyColumns r).map String.ofList)) := by
  rw [readKey]
  cases hk : keyColumns r with
  | nil => exact absurd (List.map_eq_nil_iff.mp hk) (splitAt_ne_nil _ _)
  | cons first more =>
    by_cases hblank : [] ∈ first :: more
    · simp [hblank, eq_comm]
    · cases more with
      | nil => simp [hblank]
      | cons second more => simp [hblank, eq_comm]

/-- **A clause is at fault** if it is empty, or a key clause that is. -/
theorem Clause.read_eq_error_iff {table t : List Char} {f : Fault} :
    Clause.read table t = .error f ↔
      (t = [] ∧ f = .malformed (.emptyClause (String.ofList table))) ∨
      ∃ r, t = keyWords ++ r ∧ readKey table r = .error f := by
  by_cases ht : t = []
  · have hwords : keyWords ≠ [] := by decide
    simp [Clause.read, ht, hwords, eq_comm]
  rw [Clause.read, if_neg ht]
  cases h : afterLiteral? keyWords t with
  | none =>
    have hno : ∀ r, t ≠ keyWords ++ r :=
      fun r hr => afterLiteral?_eq_none_iff.mp h ⟨r, hr.symm⟩
    simp [ht, hno]
  | some r =>
    obtain rfl := afterLiteral?_eq_some.mp h
    simp [ht]

/-- **A clause cannot be added** if its type is not listed where types have to be, or if it names a
second key. -/
theorem TableDraft.absorb_eq_error_iff {s : ParseSettings} {d : TableDraft} {c : Clause}
    {f : Fault} : (d.absorb s c).2 = .error f ↔
      (∃ name type, c = .column name type ∧ s.strictTypes = true ∧ SqlType.lookup type = none ∧
        f = .unknownType (String.ofList type)) ∨
      ∃ column key, c = .key column ∧ d.key = some key ∧
        f = .unsupportedKey d.name [key, String.ofList column] := by
  cases c with
  | column name type =>
    rw [absorb]
    cases hl : SqlType.lookup type with
    | some listed => simp [hl]
    | none => cases hs : s.strictTypes <;> simp [hl, eq_comm]
  | key column =>
    rw [absorb]
    cases hk : d.key with
    | none => simp
    | some key =>
      constructor
      · intro h
        exact .inr ⟨column, key, rfl, rfl, (Except.error.inj h).symm⟩
      · rintro (⟨name, type, hc, -⟩ | ⟨column', key', hc, hkey, rfl⟩)
        · cases hc
        · cases hc
          cases hkey
          rfl

/-! ### Malformed clauses -/

/-- The segment is a key clause, and one of the names it lists is blank. -/
def NamesBlank (p : List Char) : Prop :=
  ∃ r list, trim p = Clause.keyWords ++ r ∧ Clause.Unbracketed (trim r) list ∧
    ∃ name ∈ (trim list).splitOn ',', Blank name

theorem Clause.nil_mem_keyColumns_iff {r : List Char} :
    [] ∈ keyColumns r ↔ ∃ list, Unbracketed (trim r) list ∧
      ∃ name ∈ (trim list).splitOn ',', Blank name := by
  have hlist : ∀ list, Unbracketed (trim r) list ↔ list = unbracket (trim r) := fun list => by
    rw [← unbracket_eq_iff, eq_comm]
  simp only [hlist, exists_eq_left, keyColumns, List.mem_map, trim_eq_nil_iff, splitAt_eq_splitOn]

/-- **A clause is malformed** if it is empty or a key clause with a blank name, however many there
are. -/
theorem Clause.read_malformed_iff {table t : List Char} :
    (∃ cause, Clause.read table t = .error (.malformed cause)) ↔
      t = [] ∨ ∃ r, t = keyWords ++ r ∧ [] ∈ keyColumns r := by
  constructor
  · rintro ⟨cause, h⟩
    rcases read_eq_error_iff.mp h with ⟨ht, -⟩ | ⟨r, hr, hkey⟩
    · exact .inl ht
    · rcases readKey_eq_error_iff.mp hkey with ⟨hblank, -⟩ | ⟨-, -, hf⟩
      · exact .inr ⟨r, hr, hblank⟩
      · cases hf
  · rintro (ht | ⟨r, hr, hblank⟩)
    · exact ⟨_, read_eq_error_iff.mpr (.inl ⟨ht, rfl⟩)⟩
    · exact ⟨_, read_eq_error_iff.mpr (.inr ⟨r, hr, readKey_eq_error_iff.mpr (.inl ⟨hblank, rfl⟩)⟩)⟩

/-- Adding a clause never fails for its form. -/
theorem TableDraft.absorb_ne_malformed (s : ParseSettings) (d : TableDraft) (c : Clause)
    (cause : Malformation) : (d.absorb s c).2 ≠ .error (.malformed cause) := by
  simp [absorb_eq_error_iff]

/-! ### Malformed declarations -/

/-- Of the segments, those before some place are acceptable, and the one at that place is blank or a
key clause with a blank name. -/
def BreaksOff (strict : Bool) (segments : List (List Char)) : Prop :=
  ∃ good bad more, segments = good ++ bad :: more ∧ AcceptableSegments strict good ∧
    (Blank bad ∨ NamesBlank bad)

theorem clausesTranscript_malformed_iff {s : ParseSettings} {name : List Char}
    {segments : List (List Char)} :
    (∃ cause, (Statement.clausesTranscript s name ⟨String.ofList name, [], none⟩
      (segments.map trim)).outcome = .error (.malformed cause)) ↔
        BreaksOff s.strictTypes segments := by
  have hbad : ∀ p, (Blank p ∨ NamesBlank p) ↔
      ∃ cause, Clause.read name (trim p) = .error (.malformed cause) := fun p => by
    simp only [Clause.read_malformed_iff, trim_eq_nil_iff, NamesBlank,
      Clause.nil_mem_keyColumns_iff, exists_and_left]
  have hgood : ∀ good, AcceptableSegments s.strictTypes good ↔
      ∃ cs, List.Forall₂ (fun t c => Clause.read name t = .ok c) (good.map trim) cs ∧
        AllAdmissible s ⟨String.ofList name, [], none⟩ cs := fun good => by
    simp only [← @exists_clauses_iff s (String.ofList name),
      List.forall₂_map_left_iff, read_trim_eq_ok_iff_readAs]
  constructor
  · rintro ⟨cause, h⟩
    obtain ⟨good, bad, more, cs, hts, hcs, hadm, h⟩ :=
      clausesTranscript_outcome_eq_error_iff.mp h
    obtain ⟨good, rest, rfl, rfl, hrest⟩ := List.map_eq_append_iff.mp hts
    obtain ⟨bad, more, rfl, rfl, -⟩ := List.map_eq_cons_iff.mp hrest
    refine ⟨good, bad, more, rfl, (hgood good).mpr ⟨cs, hcs, hadm⟩, (hbad bad).mpr ⟨cause, ?_⟩⟩
    rcases h with h | ⟨c, -, h⟩
    · exact h
    · exact absurd h (TableDraft.absorb_ne_malformed s _ c cause)
  · rintro ⟨good, bad, more, rfl, hacc, h⟩
    obtain ⟨cs, hcs, hadm⟩ := (hgood good).mp hacc
    obtain ⟨cause, h⟩ := (hbad bad).mp h
    refine ⟨cause, clausesTranscript_outcome_eq_error_iff.mpr
      ⟨good.map trim, trim bad, more.map trim, cs, by simp, hcs, hadm, .inl h⟩⟩

/-- **Among few brackets, a declaration is refused as malformed** exactly if it has no name, or no
list, or its segments break off at one that is malformed. -/
theorem createTranscript_malformed_iff {s : ParseSettings} {rest : List Char}
    (hfew : Brackets.round.Few rest) :
    (∃ cause, (Statement.createTranscript s rest).outcome = .error (.malformed cause)) ↔
      ∀ name segments, Layout rest name segments → name ≠ [] →
        BreaksOff s.strictTypes segments := by
  rw [Statement.createTranscript]
  by_cases hname : word rest = []
  · rw [if_pos hname]
    refine iff_of_true ⟨_, rfl⟩ fun name segments hlayout hne => ?_
    exact absurd (((layout_iff hfew).mp hlayout).1.symm.trans hname) hne
  rw [if_neg hname]
  cases hlist : Brackets.round.inside? (afterWord rest) with
  | none =>
    refine iff_of_true ⟨_, rfl⟩ fun name segments hlayout _ => ?_
    obtain ⟨-, list, hlist', -⟩ := (layout_iff hfew).mp hlayout
    simp [hlist] at hlist'
  | some list =>
    obtain ⟨segments, hseg⟩ := exists_segments list
    have hlayout : Layout rest (word rest) segments :=
      (layout_iff hfew).mpr ⟨rfl, list, hlist, hseg⟩
    simp only [clausesOf_eq (few_of_inside? hfew hlist) hseg, clausesTranscript_malformed_iff]
    constructor
    · intro h name segments' hlayout' _
      rwa [← (hlayout.unique hfew hlayout').2]
    · intro h
      exact h _ segments hlayout hname

/-- **A declaration is refused for a missing opening bracket** exactly if a closing one is found
behind its name and nothing is enclosed. -/
theorem createTranscript_unopened_iff {s : ParseSettings} {rest : List Char} {table : String} :
    (Statement.createTranscript s rest).outcome = .error (.malformed (.unopenedBody table)) ↔
      word rest ≠ [] ∧ Brackets.round.close? (afterWord rest) ≠ none ∧
        Brackets.round.inside? (afterWord rest) = none ∧ table = String.ofList (word rest) := by
  rw [Statement.createTranscript]
  by_cases hname : word rest = []
  · simp [hname]
  rw [if_neg hname]
  cases hlist : Brackets.round.inside? (afterWord rest) with
  | none =>
    simp only [Statement.listFault]
    split
    case isTrue hclose => simp [hclose]
    case isFalse hclose => simp [hname, hclose, eq_comm]
  | some list =>
    refine iff_of_false (fun h => ?_) (by simp)
    -- no clause is refused for a bracket
    obtain ⟨_, _, _, _, -, -, -, hbad⟩ := clausesTranscript_outcome_eq_error_iff.mp h
    rcases hbad with hread | ⟨c, -, habsorb⟩
    · simp [Clause.read_eq_error_iff, Clause.readKey_eq_error_iff] at hread
    · exact TableDraft.absorb_ne_malformed _ _ _ _ habsorb

end TableSchema
