import Mathlib.Data.List.Forall2
import Mathlib.Tactic.Common
import TableSchema.Ddl.Clause
import TableSchema.Proofs.Text.Blank
import TableSchema.Proofs.Text.Cut

/-!
# What a clause says

Reading a clause succeeds on every text but a blank one and a key clause that does not name exactly
one column; what it yields is said here without the steps of the reading.  Adding clauses to a draft
is said as one extension of the draft by all of them.

## Main definitions

* `Clause.Unbracketed t list` — `list` is `t` without its outer brackets, if it has both.
* `Clause.NamesOne t column` — the text behind `PRIMARY KEY` lists `column` and nothing else.
* `Clause.field?`, `Clause.keyName?` — what a clause adds to a table.
* `Clause.Admissible s d c` — the clause can be added to the draft under the settings.
* `TableDraft.extend d cs` — the draft with all that the clauses say.

## Main results

* `Clause.readKey_eq_ok_iff`, `Clause.read_eq_ok_iff` — when a clause can be read, and as what.
* `TableDraft.absorb_cases` — what adding a clause can do.
-/

namespace TableSchema

open Text

namespace Clause

/-! ### Key clauses -/

/-- `list` is the text without its outer brackets, if it has both. -/
def Unbracketed (t list : List Char) : Prop :=
  t = '(' :: (list ++ [')']) ∨ ((∀ l, t ≠ '(' :: (l ++ [')'])) ∧ list = t)

/-- The text behind the words `PRIMARY KEY` lists this column and nothing else. -/
structure NamesOne (t column : List Char) : Prop where
  /-- The column is what the list consists of, without outer blanks. -/
  list : ∃ list, Unbracketed (trim t) list ∧ column = trim list
  /-- The list has no comma. -/
  single : ',' ∉ column
  /-- The list is not blank. -/
  named : column ≠ []

@[simp] theorem unbracket_wrap (list : List Char) : unbracket ('(' :: (list ++ [')'])) = list := by
  simp [unbracket]

/-- **The outer brackets are taken off exactly if there are both.** -/
theorem unbracket_eq_iff {t list : List Char} : unbracket t = list ↔ Unbracketed t list := by
  by_cases h : ∃ l, t = '(' :: (l ++ [')'])
  · obtain ⟨l, rfl⟩ := h
    rw [unbracket_wrap, Unbracketed]
    constructor
    · rintro rfl
      exact .inl rfl
    · rintro (h | ⟨h, -⟩)
      · simpa using h
      · exact absurd rfl (h l)
  · have hne : ∀ l, t ≠ '(' :: (l ++ [')']) := fun l hl => h ⟨l, hl⟩
    have hself : unbracket t = t := by
      unfold unbracket
      split
      next r =>
        split
        case isTrue hlast =>
          obtain ⟨l, rfl⟩ := List.getLast?_eq_some_iff.mp hlast
          exact absurd rfl (hne l)
        case isFalse => rfl
      next => rfl
    rw [hself, Unbracketed]
    exact ⟨fun he => .inr ⟨hne, he.symm⟩, fun he => (he.resolve_left (hne list)).2.symm⟩

/-- A list in brackets has no outer blanks. -/
theorem trimmed_wrap (list : List Char) : Trimmed ('(' :: (list ++ [')'])) := by
  have hopen : Trimmed ['('] := by decide
  have hclose : Trimmed [')'] := by decide
  exact hopen.append_append (List.cons_ne_nil _ _) hclose (List.cons_ne_nil _ _) list

/-- A column that stands alone behind the words. -/
theorem unbracketed_of_notMem {t : List Char} (h : '(' ∉ t) : Unbracketed t t := by
  refine .inr ⟨?_, rfl⟩
  rintro l rfl
  simp at h

/-- The list behind the words `PRIMARY KEY`, without brackets and blanks. -/
theorem keyColumns_eq_singleton_iff {t column : List Char} :
    keyColumns t = [column] ↔ (∃ list, Unbracketed (trim t) list ∧ column = trim list) ∧
      ',' ∉ column := by
  have hlist : ∀ list, Unbracketed (trim t) list ↔ list = unbracket (trim t) := fun list => by
    rw [← unbracket_eq_iff, eq_comm]
  simp only [hlist, exists_eq_left, keyColumns, List.map_eq_singleton_iff,
    splitAt_eq_singleton_iff]
  constructor
  · rintro ⟨p, ⟨rfl, hp⟩, rfl⟩
    rw [trim_trim]
    exact ⟨rfl, hp⟩
  · rintro ⟨rfl, hp⟩
    exact ⟨_, ⟨rfl, hp⟩, trim_trim _⟩

/-- **A key clause can be read exactly if it names one column**, and then says so. -/
theorem readKey_eq_ok_iff {table t : List Char} {c : Clause} :
    readKey table t = .ok c ↔ ∃ column, c = .key column ∧ NamesOne t column := by
  have hnames : ∀ column, NamesOne t column ↔ keyColumns t = [column] ∧ column ≠ [] :=
    fun column => ⟨fun h => ⟨keyColumns_eq_singleton_iff.mpr ⟨h.list, h.single⟩, h.named⟩,
      fun h => have hk := keyColumns_eq_singleton_iff.mp h.1; ⟨hk.1, hk.2, h.2⟩⟩
  simp only [hnames, readKey]
  cases keyColumns t with
  | nil => simp
  | cons first more =>
    by_cases hblank : [] ∈ first :: more
    · simp only [hblank, if_true, reduceCtorEq, false_iff]
      rintro ⟨column, -, h, hne⟩
      rw [h, List.mem_singleton] at hblank
      exact hne hblank.symm
    · by_cases hmore : more = []
      · subst hmore
        have hfirst : first ≠ [] := fun h => hblank (by simp [h])
        simp [hfirst, Ne.symm hfirst, eq_comm]
      · simp [hblank, hmore]

/-! ### Clauses -/

/-- **What a clause is read as**: a text that starts with the words of a key clause names the key,
and any other that is not empty declares a column. -/
theorem read_eq_ok_iff {table t : List Char} {c : Clause} :
    read table t = .ok c ↔ t ≠ [] ∧
      ((∃ r column, t = keyWords ++ r ∧ NamesOne r column ∧ c = .key column) ∨
        (¬ keyWords <+: t ∧ c = .column (word t) (word (afterWord t)))) := by
  rw [read]
  by_cases ht : t = []
  · simp [ht]
  rw [if_neg ht]
  cases h : afterLiteral? keyWords t with
  | none =>
    have hp := afterLiteral?_eq_none_iff.mp h
    have hno : ∀ r, t ≠ keyWords ++ r := fun r hr => hp ⟨r, hr.symm⟩
    simp [ht, hp, hno, eq_comm]
  | some r =>
    have hr := afterLiteral?_eq_some.mp h
    have hp : keyWords <+: t := ⟨r, hr.symm⟩
    rw [readKey_eq_ok_iff]
    constructor
    · rintro ⟨column, rfl, hn⟩
      exact ⟨ht, .inl ⟨r, column, hr, hn, rfl⟩⟩
    · rintro ⟨-, ⟨r', column, hr', hn, rfl⟩ | ⟨hno, -⟩⟩
      · obtain rfl : r = r' := List.append_cancel_left (hr.symm.trans hr')
        exact ⟨column, rfl, hn⟩
      · exact absurd hp hno

/-- **What a segment is read as**, blanks around it included. -/
theorem read_trim_eq_ok_iff {table p : List Char} {c : Clause} :
    read table (trim p) = .ok c ↔ ¬ Blank p ∧
      ((∃ r column, trim p = keyWords ++ r ∧ NamesOne r column ∧ c = .key column) ∨
        (¬ keyWords <+: trim p ∧ c = .column (firstWord p) (secondWord p))) := by
  rw [read_eq_ok_iff, ne_eq, trim_eq_nil_iff]
  by_cases h : Blank p
  · simp [h]
  · rw [firstWord_eq h, secondWord_eq h]

/-- The field that a clause declares.  A type that is not listed counts as text. -/
def field? : Clause → Option Field
  | .column name sqlType => some ⟨String.ofList name, SqlType.resolve sqlType⟩
  | .key _ => none

/-- The primary key that a clause names. -/
def keyName? : Clause → Option String
  | .column _ _ => none
  | .key name => some (String.ofList name)

/-- The settings accept the type of the clause, and the draft has no key if the clause names one. -/
def Admissible (s : ParseSettings) (d : TableDraft) : Clause → Prop
  | .column _ sqlType => s.strictTypes = true → SqlType.lookup sqlType ≠ none
  | .key _ => d.key = none

end Clause

/-! ### Adding clauses to a draft -/

namespace TableDraft

/-- The draft with all that the clauses say.  The key stays if there is one already. -/
def extend (d : TableDraft) (cs : List Clause) : TableDraft where
  name := d.name
  fields := d.fields ++ cs.filterMap Clause.field?
  key := d.key <|> (cs.filterMap Clause.keyName?).head?

@[simp] theorem extend_nil (d : TableDraft) : d.extend [] = d := by
  cases d with
  | mk name fields key => cases key <;> simp [extend]

theorem extend_extend (d : TableDraft) (cs cs' : List Clause) :
    (d.extend cs).extend cs' = d.extend (cs ++ cs') := by
  simp only [extend, List.filterMap_append, List.append_assoc, List.head?_append,
    Option.orElse_eq_orElse, Option.orElse_eq_or, Option.or_assoc]

theorem extend_column (d : TableDraft) (name sqlType : List Char) :
    d.extend [.column name sqlType] =
      d.addField (String.ofList name) (SqlType.resolve sqlType) := by
  cases d with
  | mk n fs key => cases key <;> simp [extend, Clause.field?, Clause.keyName?, addField]

theorem extend_key {d : TableDraft} (h : d.key = none) (column : List Char) :
    d.extend [.key column] = d.setKey (String.ofList column) := by
  simp [extend, Clause.field?, Clause.keyName?, setKey, h]

/-- **What adding a clause can do**: an admissible clause goes into the draft, and nothing happens
on the way but that its type is found unlisted; any other is refused at once. -/
theorem absorb_cases (s : ParseSettings) (d : TableDraft) (c : Clause) :
    (c.Admissible s d ∧ ∃ events, d.absorb s c = (events, .ok (d.extend [c])) ∧
      ∀ e ∈ events, ∃ name sqlType, c = .column name sqlType ∧
        e = .unrecognized (String.ofList sqlType) (String.ofList name)) ∨
    (¬ c.Admissible s d ∧ ∃ f, d.absorb s c = ([], .error f)) := by
  cases c with
  | column name sqlType =>
    rw [extend_column, SqlType.resolve]
    cases hl : SqlType.lookup sqlType with
    | some type => exact .inl ⟨fun _ => by simp [hl], [], by simp [absorb, hl], by simp⟩
    | none =>
      cases hs : s.strictTypes with
      | true => exact .inr ⟨fun h => h hs hl, .unknownType (String.ofList sqlType),
          by simp [absorb, hl, hs]⟩
      | false =>
        refine .inl ⟨by simp [Clause.Admissible, hs],
          [.unrecognized (String.ofList sqlType) (String.ofList name)], ?_, ?_⟩
        · simp [absorb, hl, hs]
        · intro e he
          exact ⟨name, sqlType, rfl, List.mem_singleton.mp he⟩
  | key column =>
    cases hk : d.key with
    | none =>
      rw [extend_key hk]
      exact .inl ⟨hk, [], by simp [absorb, hk], by simp⟩
    | some key =>
      refine .inr ⟨by simp [Clause.Admissible, hk], ?_⟩
      exact ⟨.unsupportedKey d.name [key, String.ofList column], by simp [absorb, hk]⟩

end TableDraft

end TableSchema
