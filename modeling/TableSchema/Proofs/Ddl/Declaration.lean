import TableSchema.Ddl.Script
import TableSchema.Proofs.Ddl.Clause
import TableSchema.Proofs.Ddl.Transcript
import TableSchema.Proofs.Text.Enclosing
import TableSchema.Proofs.Text.Pieces

/-!
# When a declaration can be read

What follows the words `CREATE TABLE` is laid out as a name, a text that is passed over, a list in
brackets, and a text that is ignored; the list falls into segments.  Among few brackets, the run
over a declaration succeeds exactly if there is such a layout, every segment can be read as a
clause, and the clauses can be added to one table, which then has all that they say.

## Main definitions

* `Segments list segments` — the pieces of a list at its commas outside brackets.
* `Layout rest name segments` — what the text behind `CREATE TABLE` consists of.
* `AllAdmissible s d cs` — the clauses can be added to the draft, one after the other.

## Main results

* `exists_clausesOf_eq`, `clausesOf_eq` — the clauses of a list are parts of the declaration, and
  among few brackets its segments.
* `clausesTranscript_outcome_eq_ok_iff` — the run over the clauses of a table.
* `mem_events_createTranscript` — what can happen on the way.
* `createTranscript_notices` — a declaration leaves no notice.
* `createTranscript_outcome_eq_ok_iff_clausesOf`, `createTranscript_outcome_eq_ok_iff` — the run
  over a declaration.
-/

namespace TableSchema

open Text

/-- A blank text has neither round brackets nor commas. -/
theorem inert_of_blank {t : List Char} (h : Blank t) : Brackets.round.Inert ',' t :=
  ⟨⟨h.notMem (by decide), h.notMem (by decide)⟩, h.notMem (by decide)⟩

/-! ### The parts of a declaration -/

/-- The pieces of a list at its commas outside brackets.  A blank list has none. -/
inductive Segments (list : List Char) : List (List Char) → Prop
  /-- A blank list has no segments. -/
  | blank (h : Blank list) : Segments list []
  /-- Any other list is cut at every comma outside brackets. -/
  | pieces {segments : List (List Char)} (h : ¬ Blank list)
    (hp : Brackets.round.Pieces ',' [] list segments) : Segments list segments

theorem exists_segments (list : List Char) : ∃ segments, Segments list segments := by
  by_cases h : Blank list
  · exact ⟨[], .blank h⟩
  · exact ⟨_, .pieces h (Brackets.pieces_iff.mpr rfl)⟩

/-- The clauses of a declaration are parts of it, trimmed. -/
theorem exists_clausesOf_eq {rest list : List Char}
    (h : Brackets.round.inside? (afterWord rest) = some list) :
    ∃ parts : List (List Char), Statement.clausesOf list = parts.map trim ∧
      ∀ p ∈ parts, ∀ c ∈ p, c ∈ rest := by
  have hlist : list <:+: rest :=
    (Brackets.infix_of_inside? h).trans (afterWord_suffix rest).isInfix
  rw [Statement.clausesOf]
  split
  · exact ⟨[], rfl, by simp⟩
  · refine ⟨_, rfl, fun p hp c hc => hlist.subset ?_⟩
    exact mem_of_mem_trim (Brackets.mem_of_mem_splitFrom hp hc)

/-- **The clauses of a list are its segments, trimmed**, among few brackets. -/
theorem clausesOf_eq {list : List Char} {segments : List (List Char)}
    (hfew : Brackets.round.Few list) (h : Segments list segments) :
    Statement.clausesOf list = segments.map trim := by
  cases h with
  | blank h => rw [Statement.clausesOf, if_pos (trim_of_blank h), List.map_nil]
  | pieces h hp =>
    obtain ⟨l, r, hl, hr, hlr⟩ := exists_eq_pad_trim list
    rw [Statement.clausesOf, if_neg (mt trim_eq_nil_iff.mp h), Brackets.pieces_iff.mp hp,
      Brackets.split_eq_splitFrom (hfew.part (trim_isInfix list)),
      ← Brackets.map_trim_splitFrom_pad hl hr (inert_of_blank hl) (inert_of_blank hr), ← hlr]
    rfl

/-- The text behind the words `CREATE TABLE` starts with this name; the list in the first top-level
pair of brackets behind it has these segments. -/
def Layout (rest name : List Char) (segments : List (List Char)) : Prop :=
  ∃ behind before list after, StartsWith rest name behind ∧
    Brackets.round.Keeps behind before list after ∧ Segments list segments

/-- Blanks in front of a list play no part. -/
theorem inside?_trimStart (t : List Char) :
    Brackets.round.inside? (trimStart t) = Brackets.round.inside? t := by
  obtain ⟨l, hl, hlt⟩ := exists_eq_append_trimStart t
  conv_rhs => rw [hlt, Brackets.inside?_append_of_bare (inert_of_blank hl).1]

theorem close?_trimStart_eq_none_iff {t : List Char} :
    Brackets.round.close? (trimStart t) = none ↔ Brackets.round.close? t = none := by
  obtain ⟨l, hl, hlt⟩ := exists_eq_append_trimStart t
  conv_rhs => rw [hlt, Brackets.close?_append_of_bare (inert_of_blank hl).1]
  rw [Option.map_eq_none_iff]

/-- What stands behind the name has few brackets if the declaration has. -/
theorem few_afterWord {rest : List Char} (hfew : Brackets.round.Few rest) :
    Brackets.round.Few (afterWord rest) :=
  hfew.part (afterWord_suffix rest).isInfix

theorem few_of_startsWith {rest name behind : List Char} (hfew : Brackets.round.Few rest)
    (h : StartsWith rest name behind) : Brackets.round.Few behind := by
  rw [h.text] at hfew
  exact hfew.right

/-- The list of a declaration has few brackets if the declaration has. -/
theorem few_of_inside? {rest list : List Char} (hfew : Brackets.round.Few rest)
    (h : Brackets.round.inside? (afterWord rest) = some list) : Brackets.round.Few list :=
  (few_afterWord hfew).part (Brackets.infix_of_inside? h)

theorem layout_iff {rest name : List Char} {segments : List (List Char)}
    (hfew : Brackets.round.Few rest) : Layout rest name segments ↔ word rest = name ∧
      ∃ list, Brackets.round.inside? (afterWord rest) = some list ∧ Segments list segments := by
  constructor
  · rintro ⟨behind, before, list, after, hstart, hkeeps, hseg⟩
    refine ⟨hstart.word_eq, list, ?_, hseg⟩
    rw [hstart.afterWord_eq, inside?_trimStart]
    have hbehind := few_of_startsWith hfew hstart
    exact (Brackets.inside?_eq_some_iff hbehind).mpr ⟨before, after, hkeeps⟩
  · rintro ⟨rfl, list, hlist, hseg⟩
    obtain ⟨behind, hstart⟩ := startsWith_word rest
    rw [hstart.afterWord_eq, inside?_trimStart] at hlist
    have hbehind := few_of_startsWith hfew hstart
    obtain ⟨before, after, hkeeps⟩ := (Brackets.inside?_eq_some_iff hbehind).mp hlist
    exact ⟨behind, before, list, after, hstart, hkeeps, hseg⟩

/-! ### Adding all clauses -/

/-- The settings accept the types of all the clauses, and together with the draft's key there is at
most one key. -/
structure AllAdmissible (s : ParseSettings) (d : TableDraft) (cs : List Clause) : Prop where
  /-- If the settings are strict, the types are listed. -/
  listed : s.strictTypes = true → ∀ name sqlType, Clause.column name sqlType ∈ cs →
    SqlType.lookup sqlType ≠ none
  /-- There is at most one key. -/
  one_key : (d.key.toList ++ cs.filterMap Clause.keyName?).length ≤ 1

theorem allAdmissible_nil {s : ParseSettings} {d : TableDraft} : AllAdmissible s d [] :=
  ⟨fun _ _ _ hm => absurd hm List.not_mem_nil, by cases d.key <;> simp⟩

/-- Clauses can be added if the first can, and then the others to what it makes of the draft. -/
theorem allAdmissible_cons {s : ParseSettings} {d : TableDraft} {c : Clause} {cs : List Clause} :
    AllAdmissible s d (c :: cs) ↔ c.Admissible s d ∧ AllAdmissible s (d.extend [c]) cs := by
  cases c with
  | column name sqlType =>
    rw [TableDraft.extend_column]
    constructor
    · intro h
      exact ⟨fun hs => h.listed hs name sqlType List.mem_cons_self,
        fun hs n t hm => h.listed hs n t (List.mem_cons_of_mem _ hm), h.one_key⟩
    · rintro ⟨hc, hlisted, hone⟩
      refine ⟨fun hs n t hm => ?_, hone⟩
      rcases List.mem_cons.mp hm with he | hm
      · obtain ⟨rfl, rfl⟩ := Clause.column.inj he
        exact hc hs
      · exact hlisted hs n t hm
  | key column =>
    constructor
    · intro h
      have hkey : d.key = none := by
        cases hk : d.key with
        | none => rfl
        | some key =>
          have hone := h.one_key
          simp [hk, Clause.keyName?] at hone
      refine ⟨hkey, fun hs n t hm => h.listed hs n t (List.mem_cons_of_mem _ hm), ?_⟩
      rw [TableDraft.extend_key hkey]
      simpa [hkey, Clause.keyName?, TableDraft.setKey] using h.one_key
    · rintro ⟨hkey, hlisted, hone⟩
      rw [TableDraft.extend_key hkey] at hone
      refine ⟨fun hs n t hm => hlisted hs n t (by simpa using hm), ?_⟩
      rw [hkey]
      simpa [Clause.keyName?, TableDraft.setKey] using hone

/-- **The run over the clauses of a table** succeeds exactly if each can be read and all can be
added; the table then has all that they say. -/
theorem clausesTranscript_outcome_eq_ok_iff {s : ParseSettings} {table : List Char} {d : TableDraft}
    {ts : List (List Char)} {tables : List TableDraft} :
    (Statement.clausesTranscript s table d ts).outcome = .ok tables ↔
      ∃ cs, List.Forall₂ (fun t c => Clause.read table t = .ok c) ts cs ∧
        AllAdmissible s d cs ∧ tables = [d.extend cs] := by
  induction ts generalizing d with
  | nil => simp [Statement.clausesTranscript, Event.table?, allAdmissible_nil, eq_comm]
  | cons t ts ih =>
    rw [Statement.clausesTranscript]
    cases hread : Clause.read table t with
    | error f =>
      simp only [Transcript.outcome_failed, reduceCtorEq, false_iff]
      rintro ⟨cs, hcs, -⟩
      cases hcs with
      | cons h _ => simp [hread] at h
    | ok c =>
      -- the first clause is read in one way only, so the choice is among the others
      have hcons : ∀ P : List Clause → Prop,
          (∃ cs, List.Forall₂ (fun t c => Clause.read table t = .ok c) (t :: ts) cs ∧ P cs) ↔
            ∃ cs, List.Forall₂ (fun t c => Clause.read table t = .ok c) ts cs ∧ P (c :: cs) := by
        intro P
        constructor
        · rintro ⟨cs, hcs, hP⟩
          cases hcs with
          | @cons _ c' _ cs h hcs =>
            obtain rfl : c = c' := Except.ok.inj (hread.symm.trans h)
            exact ⟨cs, hcs, hP⟩
        · rintro ⟨cs, hcs, hP⟩
          exact ⟨c :: cs, .cons hread hcs, hP⟩
      rw [hcons]
      rcases d.absorb_cases s c with ⟨hadm, events, habs, hev⟩ | ⟨hadm, f, habs⟩
      · have htables : ∀ e ∈ events, e.table? = none := by
          intro e he
          obtain ⟨name, sqlType, -, rfl⟩ := hev e he
          rfl
        simp only [habs, Transcript.outcome_mk_append htables, ih, allAdmissible_cons, hadm,
          true_and, TableDraft.extend_extend, List.singleton_append]
      · simp only [habs, Transcript.outcome, reduceCtorEq, allAdmissible_cons, hadm, false_and,
          and_false, exists_false]

/-- **What can happen while clauses are read**: types are found unlisted, which are words of the
clauses, and in the end the table is declared. -/
theorem mem_events_clausesTranscript {s : ParseSettings} {table : List Char} {d : TableDraft}
    {ts : List (List Char)} {e : Event}
    (h : e ∈ (Statement.clausesTranscript s table d ts).events) :
    (∃ d', e = .declared d') ∨ ∃ t name, e = .unrecognized (String.ofList (word t)) name := by
  induction ts generalizing d with
  | nil => exact .inl ⟨d, List.mem_singleton.mp h⟩
  | cons t ts ih =>
    rw [Statement.clausesTranscript] at h
    cases hread : Clause.read table t with
    | error f => simp [hread] at h
    | ok c =>
      rcases d.absorb_cases s c with ⟨-, events, habs, hev⟩ | ⟨-, f, habs⟩
      · simp only [hread, habs] at h
        rcases Transcript.mem_events_append h with h | h
        · obtain ⟨name, sqlType, rfl, rfl⟩ := hev e h
          -- a clause that declares a column was read by its words
          rcases (Clause.read_eq_ok_iff.mp hread).2 with ⟨_, _, _, _, hc⟩ | ⟨_, hc⟩
          · exact absurd hc (by simp)
          · obtain ⟨-, rfl⟩ := Clause.column.inj hc
            exact .inr ⟨_, _, rfl⟩
        · exact ih h
      · simp [hread, habs] at h

theorem mem_events_createTranscript {s : ParseSettings} {rest : List Char} {e : Event}
    (h : e ∈ (Statement.createTranscript s rest).events) :
    (∃ d, e = .declared d) ∨ ∃ t name, e = .unrecognized (String.ofList (word t)) name := by
  rw [Statement.createTranscript] at h
  by_cases hname : word rest = []
  · simp [hname] at h
  · rw [if_neg hname] at h
    cases hlist : Brackets.round.inside? (afterWord rest) with
    | none => simp [hlist] at h
    | some list =>
      rw [hlist] at h
      exact mem_events_clausesTranscript h

/-- **Reading a declaration leaves no notice**, whether it succeeds or not. -/
theorem createTranscript_notices (s : ParseSettings) (rest : List Char) :
    (Statement.createTranscript s rest).notices = [] := by
  rw [Transcript.notices, List.filterMap_eq_nil_iff]
  intro e he
  rcases mem_events_createTranscript he with ⟨d, rfl⟩ | ⟨t, name, rfl⟩
  · rfl
  · rfl

/-- **The run over a declaration** succeeds exactly if there are a name and a list, each clause of
the list can be read and all that they say fits into one table. -/
theorem createTranscript_outcome_eq_ok_iff_clausesOf {s : ParseSettings} {rest : List Char}
    {tables : List TableDraft} :
    (Statement.createTranscript s rest).outcome = .ok tables ↔
      word rest ≠ [] ∧ ∃ list, Brackets.round.inside? (afterWord rest) = some list ∧
        ∃ cs, List.Forall₂ (fun t c => Clause.read (word rest) t = .ok c)
            (Statement.clausesOf list) cs ∧
          AllAdmissible s ⟨String.ofList (word rest), [], none⟩ cs ∧
          tables = [TableDraft.extend ⟨String.ofList (word rest), [], none⟩ cs] := by
  rw [Statement.createTranscript]
  by_cases hname : word rest = []
  · simp [hname]
  rw [if_neg hname]
  cases hlist : Brackets.round.inside? (afterWord rest) with
  | none => simp
  | some list => simp [hname, clausesTranscript_outcome_eq_ok_iff]

/-- **Among few brackets, the run over a declaration** succeeds exactly if it is laid out as it
should, each segment can be read and all that they say fits into one table. -/
theorem createTranscript_outcome_eq_ok_iff {s : ParseSettings} {rest : List Char}
    {tables : List TableDraft} (hfew : Brackets.round.Few rest) :
    (Statement.createTranscript s rest).outcome = .ok tables ↔
      ∃ name segments, Layout rest name segments ∧ name ≠ [] ∧
        ∃ cs, List.Forall₂ (fun p c => Clause.read name (trim p) = .ok c) segments cs ∧
          AllAdmissible s ⟨String.ofList name, [], none⟩ cs ∧
          tables = [TableDraft.extend ⟨String.ofList name, [], none⟩ cs] := by
  simp only [createTranscript_outcome_eq_ok_iff_clausesOf, layout_iff hfew]
  constructor
  · rintro ⟨hname, list, hlist, cs, hcs, hadm, rfl⟩
    obtain ⟨segments, hseg⟩ := exists_segments list
    rw [clausesOf_eq (few_of_inside? hfew hlist) hseg, List.forall₂_map_left_iff] at hcs
    exact ⟨word rest, segments, ⟨rfl, list, hlist, hseg⟩, hname, cs, hcs, hadm, rfl⟩
  · rintro ⟨_, segments, ⟨rfl, list, hlist, hseg⟩, hname, cs, hcs, hadm, rfl⟩
    refine ⟨hname, list, hlist, cs, ?_, hadm, rfl⟩
    rwa [clausesOf_eq (few_of_inside? hfew hlist) hseg, List.forall₂_map_left_iff]

end TableSchema
