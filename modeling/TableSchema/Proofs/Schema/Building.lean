import Mathlib.Data.Finset.Basic
import Mathlib.Data.Finset.Dedup
import Mathlib.Data.Finset.Lattice.Lemmas
import TableSchema.Proofs.Schema.Table

/-!
# Building tables step by step

Whatever is done with a draft, it has the fields that were added, in order, and the key that was set
last; asking for its table changes nothing.  So the steps alone decide whether there is a table, and
why there is none.  In the table, the first field of a name is the only one.

The names of the fields can be checked against a set that grows while they are passed: this gives
the same table or the same refusal.

## Main definitions

* `TableDraft.Step.field?`, `TableDraft.Step.key?` — what a step adds or sets.
* `TableDraft.gather`, `TableDraft.toTableBySet` — the check with a growing set.

## Main results

* `TableDraft.run_eq` — what any steps leave.
* `Table.field?_getElem_name`, `Table.field?_eq_none_iff` — looking fields up by name.
* `TableDraft.toTableBySet_eq` — the check with a growing set is the check.
* `TableDraft.builds_from_steps` — **which steps make a table, and why others make none.**
-/

namespace TableSchema

/-! ### Looking fields up -/

namespace Table

variable {t : Table}

/-- **A field is found under its name** if no other has that name. -/
theorem field?_getElem_name (h : (t.fields.map Field.name).Nodup) {i : ℕ}
    (hi : i < t.fields.length) : t.field? t.fields[i].name = some t.fields[i] := by
  unfold field?
  rw [List.find?_eq_some_iff_getElem]
  refine ⟨beq_self_eq_true _, i, hi, rfl, ?_⟩
  intro j hj
  -- a field in front has another name
  have hne : t.fields[j].name ≠ t.fields[i].name := by
    have hlen : i < (t.fields.map Field.name).length := by rwa [List.length_map]
    have hlt := List.pairwise_iff_getElem.mp h j i (Nat.lt_trans hj hlen) hlen hj
    rwa [List.getElem_map, List.getElem_map] at hlt
  simpa using hne

theorem field?_eq_none_iff {name : String} :
    t.field? name = none ↔ name ∉ t.fields.map Field.name := by
  unfold field?
  rw [List.find?_eq_none, List.mem_map]
  simp

/-- A name of the fields leads to a field of that name. -/
theorem exists_field?_eq_some {name : String} (h : name ∈ t.fields.map Field.name) :
    ∃ f ∈ t.fields, t.field? name = some f ∧ f.name = name := by
  cases hfind : t.field? name with
  | none => exact absurd h (field?_eq_none_iff.mp hfind)
  | some f =>
    unfold field? at hfind
    have hname := List.find?_some hfind
    exact ⟨f, List.mem_of_find?_eq_some hfind, rfl, beq_iff_eq.mp hname⟩

end Table

namespace TableDraft

/-! ### Checking with a set -/

/-- Puts names into a set one by one, up to the first that is in it already. -/
def gather (seen : Finset String) : List String → Except String (Finset String)
  | [] => .ok seen
  | name :: names => if name ∈ seen then .error name else gather (insert name seen) names

/-- The table of a consistent draft, where the names of the fields go into a set in which the key is
looked for at the end. -/
def toTableBySet (d : TableDraft) : Except Invalidity Table :=
  if d.name = "" then .error .emptyTypeName
  else
    match gather ∅ d.fieldNames with
    | .error field => .error (.duplicateField field d.name)
    | .ok seen =>
      match d.key with
      | none => .ok ⟨d.name, d.fields, none⟩
      | some key =>
        if key ∈ seen then .ok ⟨d.name, d.fields, some key⟩
        else .error (.strayKey key d.name)

/-- The set stops at the first repeated name, and otherwise has all names in the end. -/
theorem gather_toFinset (seen names : List String) :
    gather seen.toFinset names = match firstRepeated seen names with
      | some name => .error name
      | none => .ok (seen.toFinset ∪ names.toFinset) := by
  induction names generalizing seen with
  | nil => simp [gather, firstRepeated]
  | cons name names ih =>
    rw [gather, firstRepeated]
    by_cases h : name ∈ seen
    · rw [if_pos h, if_pos (List.mem_toFinset.mpr h)]
    · rw [if_neg h, if_neg (mt List.mem_toFinset.mp h), ← List.toFinset_cons, ih,
        List.toFinset_cons, List.toFinset_cons, Finset.insert_union, Finset.union_insert]

/-- **The check with a growing set is the check.** -/
theorem toTableBySet_eq (d : TableDraft) : d.toTableBySet = d.toTable := by
  have hgather := gather_toFinset [] d.fieldNames
  rw [List.toFinset_nil] at hgather
  rw [toTableBySet, toTable, hgather]
  by_cases hname : d.name = ""
  · rw [if_pos hname, if_pos hname]
  · rw [if_neg hname, if_neg hname]
    cases firstRepeated [] d.fieldNames with
    | some field => rfl
    | none =>
      cases d.key with
      | none => rfl
      | some key =>
        have hmem : key ∈ ∅ ∪ d.fieldNames.toFinset ↔ key ∈ d.fieldNames := by simp
        simp only [hmem]

/-! ### What steps leave -/

/-- The field that a step adds. -/
def Step.field? : Step → Option Field
  | .addField name type => some ⟨name, type⟩
  | .setKey _ => none
  | .create => none

/-- The key that a step sets. -/
def Step.key? : Step → Option String
  | .addField _ _ => none
  | .setKey name => some name
  | .create => none

/-- The fields that are added, in order. -/
def addedFields (steps : List Step) : List Field := steps.filterMap Step.field?

/-- The key that is set last. -/
def lastKey (steps : List Step) : Option String := (steps.filterMap Step.key?).getLast?

@[simp] theorem addedFields_cons (s : Step) (steps : List Step) :
    addedFields (s :: steps) = s.field?.toList ++ addedFields steps := by
  unfold addedFields
  rw [List.filterMap_cons]
  cases s.field? <;> rfl

@[simp] theorem lastKey_cons (s : Step) (steps : List Step) :
    lastKey (s :: steps) = (lastKey steps).or s.key? := by
  unfold lastKey
  rw [List.filterMap_cons]
  cases s.key? with
  | none => rw [Option.or_none]
  | some name =>
    rw [List.getLast?_cons]
    cases (steps.filterMap Step.key?).getLast? <;> rfl

theorem run_cons (d : TableDraft) (s : Step) (steps : List Step) :
    d.run (s :: steps) = ((d.step s).1 :: ((d.step s).2.run steps).1,
      ((d.step s).2.run steps).2) := rfl

/-- Steps after other steps are taken from the draft that those leave. -/
theorem run_append (d : TableDraft) (before after : List Step) :
    d.run (before ++ after) = ((d.run before).1 ++ ((d.run before).2.run after).1,
      ((d.run before).2.run after).2) := by
  induction before generalizing d with
  | nil => rfl
  | cons s before ih => rw [List.cons_append, run_cons, ih, run_cons, List.cons_append]

/-- What a step leaves. -/
theorem step_eq (d : TableDraft) (s : Step) :
    (d.step s).2 = ⟨d.name, d.fields ++ s.field?.toList, s.key?.or d.key⟩ := by
  cases s with
  | addField name type => rfl
  | setKey name =>
    rw [Step.field?, Option.toList_none, List.append_nil]
    rfl
  | create =>
    rw [Step.field?, Option.toList_none, List.append_nil]
    rfl

/-- **What any steps leave**: the fields are added behind those that were there, and the key is the
last that was set. -/
theorem run_eq (d : TableDraft) (steps : List Step) :
    (d.run steps).2 = ⟨d.name, d.fields ++ addedFields steps, (lastKey steps).or d.key⟩ := by
  induction steps generalizing d with
  | nil =>
    rw [addedFields, List.filterMap_nil, List.append_nil]
    rfl
  | cons s steps ih =>
    rw [run_cons, ih, step_eq, addedFields_cons, lastKey_cons, List.append_assoc, Option.or_assoc]

/-! ### Tables from steps -/

/-- A draft is a table exactly if it has a name and its parts fit together. -/
theorem exists_toTable_eq_ok_iff {d : TableDraft} :
    (∃ t, d.toTable = .ok t) ↔ d.name ≠ "" ∧ d.Consistent := by
  by_cases hname : d.name = ""
  · have hrefused : d.toTable = .error .emptyTypeName := by rw [toTable, if_pos hname]
    simp [hrefused, hname]
  · constructor
    · rintro ⟨t, ht⟩
      exact ⟨hname, ((toTable_eq_ok_iff hname).mp ht).1⟩
    · rintro ⟨-, hcons⟩
      exact ⟨d.asTable, (toTable_eq_ok_iff hname).mpr ⟨hcons, rfl⟩⟩

/-- **Why a draft is no table**: a missing name is reported before a flaw. -/
theorem toTable_eq_error_iff_unnamed_or_flawed {d : TableDraft} {cause : Invalidity} :
    d.toTable = .error cause ↔
      d.name = "" ∧ cause = .emptyTypeName ∨ d.name ≠ "" ∧ d.Flawed cause := by
  by_cases hname : d.name = ""
  · rw [toTable, if_pos hname, Except.error.injEq]
    simp [hname, eq_comm]
  · rw [toTable_eq_error_iff hname]
    simp [hname]

/-- **Which steps make a table, and why others make none.**  They do if there is a name, the added
fields have different names, and the key that was set last, if one was set, is one of them.  The
table has the name, all fields in order, and the key; under the name of a field it has this field
and under any other name none, so that the field of the key is always found.  Otherwise the missing
name is reported before a repeated field, the first of which counts, and this before a stray key.
A growing set of names leads to the same.  Asking for the table leaves the draft as it is, whatever
follows. -/
theorem builds_from_steps (name : String) (steps : List Step) :
    let start : TableDraft := { name := name }
    let d := (start.run steps).2
    let fields := addedFields steps
    let names := fields.map Field.name
    d = ⟨name, fields, lastKey steps⟩ ∧
    ((∃ t, d.toTable = .ok t) ↔
      name ≠ "" ∧ names.Nodup ∧ ∀ key ∈ lastKey steps, key ∈ names) ∧
    (∀ t, d.toTable = .ok t → t = ⟨name, fields, lastKey steps⟩ ∧
      (∀ i (hi : i < fields.length), t.field? fields[i].name = some fields[i]) ∧
      (∀ other, other ∉ names → t.field? other = none) ∧
      ∀ key ∈ t.key, ∃ f ∈ fields, t.field? key = some f ∧ f.name = key) ∧
    (∀ cause, d.toTable = .error cause ↔
      name = "" ∧ cause = .emptyTypeName ∨
      name ≠ "" ∧ (∃ before field after, names = before ++ field :: after ∧ before.Nodup ∧
        field ∈ before ∧ cause = .duplicateField field name) ∨
      name ≠ "" ∧ names.Nodup ∧ ∃ key, lastKey steps = some key ∧ key ∉ names ∧
        cause = .strayKey key name) ∧
    d.toTableBySet = d.toTable ∧
    ∀ after, start.run (steps ++ .create :: after)
      = ((start.run steps).1 ++ some d.toTable :: (d.run after).1, (d.run after).2) := by
  intro start d fields names
  have hd : d = ⟨name, fields, lastKey steps⟩ := by
    have hrun := run_eq start steps
    rwa [List.nil_append, Option.or_none] at hrun
  refine ⟨hd, ?_, ?_, ?_, toTableBySet_eq d, ?_⟩
  · rw [exists_toTable_eq_ok_iff, hd]
    apply and_congr_right
    intro _
    exact ⟨fun h => ⟨h.nodup, h.key_mem⟩, fun h => ⟨h.1, h.2⟩⟩
  · intro t ht
    obtain ⟨hname, hcons⟩ := exists_toTable_eq_ok_iff.mp ⟨t, ht⟩
    obtain rfl : t = ⟨name, fields, lastKey steps⟩ := by
      rw [((toTable_eq_ok_iff hname).mp ht).2, hd, asTable]
    rw [hd] at hcons
    refine ⟨rfl, ?_, ?_, ?_⟩
    · intro i hi
      exact Table.field?_getElem_name (t := ⟨name, fields, lastKey steps⟩) hcons.nodup hi
    · intro other hother
      exact Table.field?_eq_none_iff.mpr hother
    · intro key hkey
      exact Table.exists_field?_eq_some (t := ⟨name, fields, lastKey steps⟩)
        (hcons.key_mem key hkey)
  · intro cause
    rw [toTable_eq_error_iff_unnamed_or_flawed, hd]
    apply or_congr_right
    rw [← and_or_left]
    apply and_congr_right
    intro _
    constructor
    · rintro (⟨hnames, hnodup, hmem⟩ | ⟨hnodup, hkey, hmem⟩)
      · exact .inl ⟨_, _, _, hnames, hnodup, hmem, rfl⟩
      · exact .inr ⟨hnodup, _, hkey, hmem, rfl⟩
    · rintro (⟨before, field, after, hnames, hnodup, hmem, rfl⟩ | ⟨hnodup, key, hkey, hmem, rfl⟩)
      · exact .duplicate hnames hnodup hmem
      · exact .stray hnodup hkey hmem
  · intro after
    rw [run_append]
    rfl

/-- A table is asked for too early, when the key is still stray; the second key makes up for it. -/
theorem builds_from_steps_with_two_keys :
    let steps : List Step :=
      [.addField "a" .integer, .setKey "z", .create, .addField "b" .text, .setKey "b"]
    let t : Table := ⟨"t", [⟨"a", .integer⟩, ⟨"b", .text⟩], some "b"⟩
    (TableDraft.run ⟨"t", [], none⟩ steps).1
      = [none, none, some (.error (.strayKey "z" "t")), none, none] ∧
    (TableDraft.run ⟨"t", [], none⟩ steps).2.toTable = .ok t ∧
    t.field? "b" = some ⟨"b", .text⟩ ∧ t.field? "z" = none := by
  intro steps t
  obtain ⟨-, -, htable, -⟩ := builds_from_steps "t" steps
  have ht : (TableDraft.run ⟨"t", [], none⟩ steps).2.toTable = .ok t := by decide
  obtain ⟨-, hfields, hother, -⟩ := htable t ht
  exact ⟨by decide, ht, hfields 1 (by decide), hother "z" (by decide)⟩

end TableDraft

end TableSchema
