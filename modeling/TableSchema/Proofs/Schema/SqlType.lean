import Mathlib.Data.List.TakeWhile
import Mathlib.Tactic.Common
import TableSchema.Proofs.Text.Bytes
import TableSchema.Schema.SqlType

/-!
# Looking types up

Which types are listed, in terms of the entries of the list, and that arguments play no part in
looking a type up.  The list names no type twice.  So it is the same to look for the first entry of
a name, or to fill a table entry by entry, where the last one would stay.

## Main definitions

* `IsBase name head` — the type `name` is `head`, or `head` with something in brackets behind it.
* `table`, `lookupInTable?` — the list as a table, and looking up what stands before a bracket
  there.

## Main results

* `lookup_ne_none_iff` — a type is listed exactly if the list has an entry for it.
* `lookup_append`, `resolve_append` — what stands behind an opening bracket does not count.
* `lookupInTable?_eq` — the table knows what the list knows.
* `resolves_by_base` — **all ways to look up a type agree.**
-/

namespace TableSchema.SqlType

/-- A type is listed exactly if the list has an entry for it. -/
theorem lookup_ne_none_iff {name : List Char} :
    lookup name ≠ none ↔ ∃ type, (String.ofList (name.takeWhile (· ≠ '(')), type) ∈ known := by
  rw [lookup, ne_eq, List.lookup_eq_none_iff, base]
  simp only [bne_iff_ne, ne_eq, Prod.forall, not_forall, not_not]
  constructor
  · rintro ⟨_, type, hm, rfl⟩
    exact ⟨type, hm⟩
  · rintro ⟨type, hm⟩
    exact ⟨_, type, hm, rfl⟩

/-- **Arguments play no part**: what starts with a bracket behind a type does not change what it
stands for. -/
theorem lookup_append {name arguments : List Char} (h : ∀ c ∈ arguments.head?, c = '(') :
    lookup (name ++ arguments) = lookup name := by
  cases arguments with
  | nil => rw [List.append_nil]
  | cons c arguments =>
    obtain rfl := h c rfl
    rw [lookup, base_append_bracket, lookup]

theorem resolve_append {name arguments : List Char} (h : ∀ c ∈ arguments.head?, c = '(') :
    resolve (name ++ arguments) = resolve name := by
  rw [resolve, lookup_append h, resolve]

/-! ### The part before the arguments -/

/-- `head` is the part of the type before its first bracket, and all of it if it has none. -/
def IsBase (name head : List Char) : Prop :=
  '(' ∉ head ∧ (name = head ∨ ∃ arguments, name = head ++ '(' :: arguments)

theorem base_of_notMem {name : List Char} (h : '(' ∉ name) : base name = name := by
  apply List.takeWhile_eq_self_iff.mpr
  intro c hc
  rw [decide_eq_true_eq]
  rintro rfl
  exact h hc

theorem base_eq_iff {name head : List Char} : base name = head ↔ IsBase name head := by
  constructor
  · rintro rfl
    have hparts : base name ++ name.dropWhile (· ≠ '(') = name := List.takeWhile_append_dropWhile
    have hhead : '(' ∉ base name := fun h => by simpa using List.mem_takeWhile_imp h
    refine ⟨hhead, ?_⟩
    -- what is left is nothing, or starts at the first bracket
    cases hrest : name.dropWhile (· ≠ '(') with
    | nil =>
      rw [hrest, List.append_nil] at hparts
      exact .inl hparts.symm
    | cons c arguments =>
      have hc := List.head?_dropWhile_not (· ≠ '(') name
      rw [hrest] at hc hparts
      have hbracket : c = '(' := by simpa using hc
      exact .inr ⟨arguments, by rw [← hbracket, hparts]⟩
  · rintro ⟨hhead, rfl | ⟨arguments, rfl⟩⟩
    · exact base_of_notMem hhead
    · rw [base_append_bracket, base_of_notMem hhead]

/-- The type up to the byte where its first bracket starts, or all of it. -/
def baseByBytes? (name : List Char) : Option (List Char) :=
  match (Text.charIndices 0 name).find? fun x => x.2 = '(' with
  | some (pos, _) => Text.slice? name 0 pos
  | none => some name

theorem baseByBytes?_eq (name : List Char) : baseByBytes? name = some (base name) := by
  rw [baseByBytes?]
  obtain ⟨hhead, hname | ⟨arguments, hname⟩⟩ := base_eq_iff.mp (Eq.refl (base name))
  · -- without a bracket the search comes to the end
    have hnone : name.dropWhile (fun c => !decide (c = '(')) = [] := by
      rw [List.dropWhile_eq_nil_iff]
      intro c hc
      rw [hname] at hc
      simpa using fun he : c = '(' => hhead (he ▸ hc)
    rw [Text.find?_charIndices (fun c => decide (c = '(')), hnone, ← hname]
    rfl
  · rw [Text.find?_charIndices_eq 0 hname hhead]
    simp only [Nat.zero_add]
    exact Text.slice?_left hname

/-! ### The list as a table -/

/-- No type is named twice. -/
theorem nodup_known : (known.map Prod.fst).Nodup := by decide +kernel

/-- The list as a table, filled entry by entry: of two entries for a name the later would stay. -/
def table : Std.HashMap String FieldType := .ofList known

theorem lookup_known_eq_some_iff {key : String} {type : FieldType} :
    known.lookup key = some type ↔ (key, type) ∈ known := by
  rw [List.lookup_eq_some_iff]
  constructor
  · rintro ⟨before, after, hknown, -⟩
    rw [hknown]
    exact List.mem_append_right before List.mem_cons_self
  · intro h
    obtain ⟨before, after, hknown⟩ := List.append_of_mem h
    have hnodup := nodup_known
    rw [hknown, List.map_append, List.map_cons, List.nodup_append] at hnodup
    obtain ⟨-, -, hbefore⟩ := hnodup
    refine ⟨before, after, hknown, fun p hp => bne_iff_ne.mpr ?_⟩
    exact (hbefore p.1 (List.mem_map_of_mem hp) key List.mem_cons_self).symm

theorem getElem?_table (key : String) : table[key]? = known.lookup key := by
  cases h : known.lookup key with
  | some type =>
    have hdistinct := List.pairwise_map.mp nodup_known
    refine Std.HashMap.getElem?_ofList_of_mem (beq_self_eq_true key) ?_
      (lookup_known_eq_some_iff.mp h)
    exact hdistinct.imp fun hne => by simpa using hne
  | none =>
    apply Std.HashMap.getElem?_ofList_of_contains_eq_false
    rw [← Bool.not_eq_true, List.contains_iff_mem, List.mem_map]
    rintro ⟨p, hp, rfl⟩
    exact absurd (List.lookup_eq_none_iff.mp h p hp) (by simp)

/-- Looks up what stands before the first bracket in the table. -/
def lookupInTable? (name : List Char) : Option (Option FieldType) :=
  (baseByBytes? name).map fun key => table[String.ofList key]?

/-- **The table knows what the list knows**, and no cut misses a boundary. -/
theorem lookupInTable?_eq (name : List Char) : lookupInTable? name = some (lookup name) := by
  rw [lookupInTable?, baseByBytes?_eq, Option.map_some, getElem?_table, lookup]

/-! ### All ways to look up a type -/

theorem lookup_eq_some_iff {name : List Char} {type : FieldType} :
    lookup name = some type ↔ ∃ head, IsBase name head ∧ (String.ofList head, type) ∈ known := by
  simp only [lookup, lookup_known_eq_some_iff, ← base_eq_iff, exists_eq_left']

theorem resolveStrictly_eq_ok_iff {name : List Char} {type : FieldType} :
    resolveStrictly name = .ok type ↔ lookup name = some type := by
  rw [resolveStrictly]
  cases lookup name <;> simp

theorem resolveStrictly_eq_error_iff {name : List Char} {fault : Fault} :
    resolveStrictly name = .error fault ↔
      lookup name = none ∧ fault = .unknownType (String.ofList name) := by
  rw [resolveStrictly]
  cases lookup name <;> simp [eq_comm]

theorem resolve_eq (name : List Char) :
    resolve name = (resolveStrictly name).toOption.getD .text := by
  rw [resolve, resolveStrictly]
  cases lookup name <;> rfl

/-- **All ways to look up a type agree.**  A type has the field type that the list gives to the part
before its first bracket, whether the list is searched or a table is filled from it; whatever
follows a bracket does not count.  Resolving it strictly gives that field type, and refuses a type
without one as it stands; resolving it leniently gives the strict result or `text`. -/
theorem resolves_by_base (name arguments : List Char) (type : FieldType) :
    (lookup name = some type ↔
      ∃ head, IsBase name head ∧ (String.ofList head, type) ∈ known) ∧
    lookupInTable? name = some (lookup name) ∧
    lookup (name ++ '(' :: arguments) = lookup name ∧
    (resolveStrictly name = .ok type ↔ lookup name = some type) ∧
    (∀ fault, resolveStrictly name = .error fault ↔
      lookup name = none ∧ fault = .unknownType (String.ofList name)) ∧
    resolve name = (resolveStrictly name).toOption.getD .text := by
  have hhead : ∀ c ∈ ('(' :: arguments).head?, c = '(' := by simp
  exact ⟨lookup_eq_some_iff, lookupInTable?_eq name, lookup_append hhead,
    resolveStrictly_eq_ok_iff, fun fault => resolveStrictly_eq_error_iff, resolve_eq name⟩

end TableSchema.SqlType
