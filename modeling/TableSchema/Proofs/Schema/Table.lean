import Mathlib.Data.List.Forall2
import Mathlib.Data.List.Nodup
import Mathlib.Tactic.Common
import TableSchema.Schema.Table

/-!
# Which drafts are tables

A draft with a name is a table exactly if its fields have different names and its key is one of
them; the table then has the parts of the draft.  If that is not so, a name that occurs twice is
reported before a stray key, and of several drafts the first that is no table decides.

## Main definitions

* `TableDraft.Consistent d` — the parts of the draft fit together.
* `TableDraft.asTable d` — the table with the parts of the draft.
* `TableDraft.Flawed d cause` — why the parts of the draft do not fit together.

## Main results

* `TableDraft.firstRepeated_eq_none_iff`, `TableDraft.firstRepeated_eq_some_iff` — the first name
  that occurs twice.
* `TableDraft.toTable_eq_ok_iff`, `TableDraft.toTable_eq_error_iff` — what becomes of a draft.
* `tablesOfDrafts_eq_ok_iff_consistent`, `tablesOfDrafts_eq_error_iff_flawed` — what becomes of
  several.
-/

namespace TableSchema

namespace TableDraft

/-! ### Repeated names -/

/-- There is no repeated name exactly if the names differ from each other and from those seen. -/
theorem firstRepeated_eq_none_iff {seen names : List String} :
    firstRepeated seen names = none ↔ names.Nodup ∧ ∀ n ∈ names, n ∉ seen := by
  induction names generalizing seen with
  | nil => simp [firstRepeated]
  | cons n names ih =>
    unfold firstRepeated
    by_cases hn : n ∈ seen
    · simp [hn]
    · rw [if_neg hn, ih, List.nodup_cons, List.forall_mem_cons]
      constructor
      · rintro ⟨hnodup, hnames⟩
        refine ⟨⟨?_, hnodup⟩, hn, ?_⟩
        · intro hmem
          exact hnames n hmem List.mem_cons_self
        · intro m hm hseen
          exact hnames m hm (List.mem_cons_of_mem n hseen)
      · rintro ⟨⟨hnot, hnodup⟩, -, hnames⟩
        refine ⟨hnodup, ?_⟩
        intro m hm hseen
        rcases List.mem_cons.mp hseen with rfl | hseen
        · exact hnot hm
        · exact hnames m hm hseen

/-- **The first repeated name** stands behind names that differ from each other and from those seen,
and is one of these or those. -/
theorem firstRepeated_eq_some_iff {seen names : List String} {n : String} :
    firstRepeated seen names = some n ↔ ∃ before after, names = before ++ n :: after ∧
      firstRepeated seen before = none ∧ n ∈ before ++ seen := by
  induction names generalizing seen with
  | nil => simp [firstRepeated]
  | cons m names ih =>
    rw [firstRepeated]
    by_cases hm : m ∈ seen
    · rw [if_pos hm]
      constructor
      · intro h
        obtain rfl := Option.some.inj h
        exact ⟨[], names, rfl, rfl, hm⟩
      · rintro ⟨before, after, hnames, hnone, hmem⟩
        cases before with
        | nil =>
          obtain ⟨rfl, -⟩ := List.cons.inj hnames
          rfl
        | cons x before =>
          -- the name in front would be found before this one
          obtain ⟨rfl, -⟩ := List.cons.inj hnames
          simp [firstRepeated, hm] at hnone
    · rw [if_neg hm, ih]
      constructor
      · rintro ⟨before, after, rfl, hnone, hmem⟩
        refine ⟨m :: before, after, rfl, ?_, ?_⟩
        · rw [firstRepeated, if_neg hm, hnone]
        · simp only [List.mem_append, List.mem_cons] at hmem ⊢
          rcases hmem with hmem | rfl | hmem
          · exact .inl (.inr hmem)
          · exact .inl (.inl rfl)
          · exact .inr hmem
      · rintro ⟨before, after, hnames, hnone, hmem⟩
        cases before with
        | nil =>
          obtain ⟨rfl, -⟩ := List.cons.inj hnames
          exact absurd hmem hm
        | cons x before =>
          obtain ⟨rfl, rfl⟩ := List.cons.inj hnames
          rw [firstRepeated, if_neg hm] at hnone
          refine ⟨before, after, rfl, hnone, ?_⟩
          simp only [List.mem_append, List.mem_cons] at hmem ⊢
          rcases hmem with (rfl | hmem) | hmem
          · exact .inr (.inl rfl)
          · exact .inl hmem
          · exact .inr (.inr hmem)

/-! ### One draft -/

/-- The parts of the draft fit together. -/
structure Consistent (d : TableDraft) : Prop where
  /-- The fields have different names. -/
  nodup : d.fieldNames.Nodup
  /-- The key is one of the fields. -/
  key_mem : ∀ key ∈ d.key, key ∈ d.fieldNames

instance (d : TableDraft) : Decidable d.Consistent :=
  decidable_of_iff (d.fieldNames.Nodup ∧ ∀ key ∈ d.key, key ∈ d.fieldNames)
    ⟨fun h => ⟨h.1, h.2⟩, fun h => ⟨h.nodup, h.key_mem⟩⟩

/-- **The parts of a draft do not fit together** if a field is repeated or the key is stray. -/
theorem not_consistent_iff {d : TableDraft} :
    ¬ d.Consistent ↔ ¬ d.fieldNames.Nodup ∨ ∃ key, d.key = some key ∧ key ∉ d.fieldNames := by
  constructor
  · intro h
    by_contra hnone
    rw [not_or, not_not, not_exists] at hnone
    obtain ⟨hnodup, hkey⟩ := hnone
    apply h
    refine ⟨hnodup, ?_⟩
    intro key hmem
    by_contra hstray
    exact hkey key ⟨hmem, hstray⟩
  · rintro (hdup | ⟨key, hkey, hstray⟩) hcons
    · exact hdup hcons.nodup
    · exact hstray (hcons.key_mem key hkey)

/-- The table with the parts of the draft. -/
def asTable (d : TableDraft) : Table := ⟨d.name, d.fields, d.key⟩

/-- Why the parts of the draft do not fit together.  A stray key is looked for only where the fields
have different names. -/
inductive Flawed (d : TableDraft) : Invalidity → Prop
  /-- A field has the name of one before it, and is the first that has. -/
  | duplicate {before after : List String} {field : String}
    (names : d.fieldNames = before ++ field :: after) (nodup : before.Nodup)
    (mem : field ∈ before) : d.Flawed (.duplicateField field d.name)
  /-- The key is none of the fields. -/
  | stray {key : String} (nodup : d.fieldNames.Nodup) (hkey : d.key = some key)
    (notMem : key ∉ d.fieldNames) : d.Flawed (.strayKey key d.name)

variable {d : TableDraft} {t : Table} {cause : Invalidity}

theorem firstRepeated_nil_eq_none_iff {names : List String} :
    firstRepeated [] names = none ↔ names.Nodup := by
  simp [firstRepeated_eq_none_iff]

/-- **A draft with a name is a table exactly if its parts fit together.** -/
theorem toTable_eq_ok_iff (hname : d.name ≠ "") :
    d.toTable = .ok t ↔ d.Consistent ∧ t = d.asTable := by
  unfold toTable
  rw [if_neg hname]
  cases hrep : firstRepeated [] d.fieldNames with
  | some field =>
    have hdup : ¬ d.fieldNames.Nodup := by
      rw [← firstRepeated_nil_eq_none_iff, hrep]
      exact Option.some_ne_none field
    simp only [reduceCtorEq, false_iff]
    rintro ⟨hcons, -⟩
    exact hdup hcons.nodup
  | none =>
    have hnodup := firstRepeated_nil_eq_none_iff.mp hrep
    cases hkey : d.key with
    | none =>
      have hcons : d.Consistent := ⟨hnodup, by simp [hkey]⟩
      simp only [Except.ok.injEq, hcons, true_and, asTable, hkey]
      exact eq_comm
    | some key =>
      by_cases hmem : key ∈ d.fieldNames
      · have hcons : d.Consistent := by
          refine ⟨hnodup, ?_⟩
          intro key' hkey'
          rw [hkey, Option.mem_some_iff] at hkey'
          rwa [← hkey']
        simp only [hmem, if_true, Except.ok.injEq, hcons, true_and, asTable, hkey]
        exact eq_comm
      · simp only [hmem, if_false, reduceCtorEq, false_iff]
        rintro ⟨hcons, -⟩
        exact hmem (hcons.key_mem key hkey)

/-- **A draft with a name is no table exactly for a flaw of its parts.** -/
theorem toTable_eq_error_iff (hname : d.name ≠ "") :
    d.toTable = .error cause ↔ d.Flawed cause := by
  unfold toTable
  rw [if_neg hname]
  constructor
  · intro h
    cases hrep : firstRepeated [] d.fieldNames with
    | some field =>
      rw [hrep] at h
      obtain rfl := Except.error.inj h
      obtain ⟨before, after, hnames, hnone, hmem⟩ := firstRepeated_eq_some_iff.mp hrep
      rw [List.append_nil] at hmem
      exact .duplicate hnames (firstRepeated_nil_eq_none_iff.mp hnone) hmem
    | none =>
      cases hkey : d.key with
      | none => simp [hrep, hkey] at h
      | some key =>
        by_cases hmem : key ∈ d.fieldNames
        · simp [hrep, hkey, hmem] at h
        · simp only [hrep, hkey, hmem, if_false] at h
          obtain rfl := Except.error.inj h
          exact .stray (firstRepeated_nil_eq_none_iff.mp hrep) hkey hmem
  · rintro (⟨hnames, hnodup, hmem⟩ | ⟨hnodup, hkey, hmem⟩)
    · have hrep := firstRepeated_eq_some_iff.mpr
        ⟨_, _, hnames, firstRepeated_nil_eq_none_iff.mpr hnodup, List.mem_append_left [] hmem⟩
      rw [hrep]
    · rw [firstRepeated_nil_eq_none_iff.mpr hnodup, hkey]
      simp only [hmem, if_false]

end TableDraft

/-! ### Several drafts -/

/-- **Drafts are tables exactly if each of them is one.** -/
theorem tablesOfDrafts_eq_ok_iff {ds : List TableDraft} {ts : List Table} :
    tablesOfDrafts ds = .ok ts ↔ List.Forall₂ (fun d t => d.toTable = .ok t) ds ts := by
  induction ds generalizing ts with
  | nil => simp [tablesOfDrafts, eq_comm]
  | cons d ds ih =>
    unfold tablesOfDrafts
    cases hd : d.toTable with
    | error cause =>
      simp only [reduceCtorEq, false_iff]
      intro h
      cases h with
      | cons hfirst _ => simp [hd] at hfirst
    | ok t =>
      cases hds : tablesOfDrafts ds with
      | error f =>
        simp only [reduceCtorEq, false_iff]
        intro h
        cases h with
        | cons _ hrest => simp [ih.mpr hrest] at hds
      | ok us =>
        have hus := ih.mp hds
        constructor
        · intro h
          obtain rfl := Except.ok.inj h
          exact .cons hd hus
        · intro h
          cases h with
          | cons hfirst hrest =>
            obtain rfl := Except.ok.inj (hd.symm.trans hfirst)
            obtain rfl := Except.ok.inj (hds.symm.trans (ih.mpr hrest))
            rfl

/-- **The first draft that is no table decides** why several are none. -/
theorem tablesOfDrafts_eq_error_iff {ds : List TableDraft} {f : Fault} :
    tablesOfDrafts ds = .error f ↔ ∃ before bad after cause, ds = before ++ bad :: after ∧
      (∀ d ∈ before, ∃ t, d.toTable = .ok t) ∧ bad.toTable = .error cause ∧
      f = .invalid cause := by
  induction ds with
  | nil => simp [tablesOfDrafts]
  | cons d ds ih =>
    unfold tablesOfDrafts
    cases hd : d.toTable with
    | error cause =>
      constructor
      · intro h
        exact ⟨[], d, ds, cause, rfl, by simp, hd, (Except.error.inj h).symm⟩
      · rintro ⟨before, bad, after, cause', hds, hbefore, hbad, rfl⟩
        cases before with
        | nil =>
          obtain ⟨rfl, -⟩ := List.cons.inj hds
          obtain rfl := Except.error.inj (hd.symm.trans hbad)
          rfl
        | cons x before =>
          obtain ⟨rfl, -⟩ := List.cons.inj hds
          obtain ⟨t, ht⟩ := hbefore d List.mem_cons_self
          simp [hd] at ht
    | ok t =>
      -- the first draft is a table, so the one that decides stands among the others
      have hrest : (∃ before bad after cause, d :: ds = before ++ bad :: after ∧
          (∀ d ∈ before, ∃ t, d.toTable = .ok t) ∧ bad.toTable = .error cause ∧
          f = .invalid cause) ↔ tablesOfDrafts ds = .error f := by
        rw [ih]
        constructor
        · rintro ⟨before, bad, after, cause, hds, hbefore, hbad, hf⟩
          cases before with
          | nil =>
            obtain ⟨rfl, -⟩ := List.cons.inj hds
            simp [hd] at hbad
          | cons x before =>
            obtain ⟨-, hds⟩ := List.cons.inj hds
            exact ⟨before, bad, after, cause, hds, (List.forall_mem_cons.mp hbefore).2, hbad, hf⟩
        · rintro ⟨before, bad, after, cause, rfl, hbefore, hbad, hf⟩
          exact ⟨d :: before, bad, after, cause, rfl,
            List.forall_mem_cons.mpr ⟨⟨t, hd⟩, hbefore⟩, hbad, hf⟩
      rw [hrest]
      cases tablesOfDrafts ds <;> simp

/-! ### Several drafts with names -/

/-- **Drafts with names are tables exactly if the parts of each fit together**; the tables are those
with their parts. -/
theorem tablesOfDrafts_eq_ok_iff_consistent {ds : List TableDraft} {ts : List Table}
    (hnames : ∀ d ∈ ds, d.name ≠ "") :
    tablesOfDrafts ds = .ok ts ↔
      (∀ d ∈ ds, d.Consistent) ∧ ts = ds.map TableDraft.asTable := by
  rw [tablesOfDrafts_eq_ok_iff]
  induction ds generalizing ts with
  | nil => simp
  | cons d ds ih =>
    obtain ⟨hname, hnames⟩ := List.forall_mem_cons.mp hnames
    rw [List.forall_mem_cons, List.map_cons]
    constructor
    · intro h
      cases h with
      | cons hd hds =>
        obtain ⟨hcons, rfl⟩ := (TableDraft.toTable_eq_ok_iff hname).mp hd
        obtain ⟨hrest, rfl⟩ := (ih hnames).mp hds
        exact ⟨⟨hcons, hrest⟩, rfl⟩
    · rintro ⟨⟨hcons, hrest⟩, rfl⟩
      apply List.Forall₂.cons
      · exact (TableDraft.toTable_eq_ok_iff hname).mpr ⟨hcons, rfl⟩
      · exact (ih hnames).mpr ⟨hrest, rfl⟩

/-- **Drafts with names are no tables exactly if the parts of one do not fit together**; the first
such draft decides. -/
theorem tablesOfDrafts_eq_error_iff_flawed {ds : List TableDraft} {f : Fault}
    (hnames : ∀ d ∈ ds, d.name ≠ "") :
    tablesOfDrafts ds = .error f ↔ ∃ before bad after cause, ds = before ++ bad :: after ∧
      (∀ d ∈ before, d.Consistent) ∧ bad.Flawed cause ∧ f = .invalid cause := by
  rw [tablesOfDrafts_eq_error_iff]
  constructor
  · rintro ⟨before, bad, after, cause, rfl, hbefore, hbad, hf⟩
    refine ⟨before, bad, after, cause, rfl, ?_, ?_, hf⟩
    · intro d hd
      obtain ⟨t, ht⟩ := hbefore d hd
      have hname := hnames d (List.mem_append_left _ hd)
      exact ((TableDraft.toTable_eq_ok_iff hname).mp ht).1
    · have hname := hnames bad (by simp)
      exact (TableDraft.toTable_eq_error_iff hname).mp hbad
  · rintro ⟨before, bad, after, cause, rfl, hbefore, hbad, hf⟩
    refine ⟨before, bad, after, cause, rfl, ?_, ?_, hf⟩
    · intro d hd
      have hname := hnames d (List.mem_append_left _ hd)
      exact ⟨d.asTable, (TableDraft.toTable_eq_ok_iff hname).mpr ⟨hbefore d hd, rfl⟩⟩
    · have hname := hnames bad (by simp)
      exact (TableDraft.toTable_eq_error_iff hname).mpr hbad

/-- Drafts with names are no tables exactly if one of them repeats a field or has a stray key. -/
theorem exists_tablesOfDrafts_eq_error_iff {ds : List TableDraft}
    (hnames : ∀ d ∈ ds, d.name ≠ "") :
    (∃ f, tablesOfDrafts ds = .error f) ↔ ∃ d ∈ ds,
      ¬ d.fieldNames.Nodup ∨ ∃ key, d.key = some key ∧ key ∉ d.fieldNames := by
  have hfails : (∃ f, tablesOfDrafts ds = .error f) ↔ ¬ ∀ d ∈ ds, d.Consistent := by
    cases htables : tablesOfDrafts ds with
    | ok tables =>
      have hcons := ((tablesOfDrafts_eq_ok_iff_consistent hnames).mp htables).1
      simpa using hcons
    | error f =>
      simp only [Except.error.injEq, exists_eq', true_iff]
      intro hcons
      have hgood := (tablesOfDrafts_eq_ok_iff_consistent hnames).mpr ⟨hcons, rfl⟩
      simp [htables] at hgood
  rw [hfails, not_forall]
  apply exists_congr
  intro d
  rw [Classical.not_imp, TableDraft.not_consistent_iff]

end TableSchema
