import Mathlib.Data.List.Nodup
import Mathlib.Tactic.Common
import TableSchema.Proofs.Toml.Scalars
import TableSchema.Proofs.Toml.Strings
import TableSchema.Toml.Reader

/-!
# Files of plain entries

A file that consists of one line for each entry, with a bare word for its name, is read as those
entries if the names differ and each text says its value.  Texts that say their values are the words
of truth values, the digits of numbers and written strings, wherever the line ends behind them.

## Main definitions

* `Denotes text v` — the text, with a line break behind it, is laid out as one scalar and says `v`.
* `PlainEntry`, `PlainEntry.Readable` — an entry as it is written, and whether it can be read.
* `document` — the text of a file of such entries.

## Main results

* `denotes_boolean`, `denotes_integer`, `denotes_string` — the texts of values say them.
* `layLine?_line` — the layout of the line of an entry.
* `read_document` — **a file of readable entries with different names is read as these entries.**
-/

namespace TableSchema.Toml

open Text

/-! ### Bare words -/

theorem isWordChar_of_isBareChar {c : Char} (h : isBareChar c = true) : isWordChar c = true := by
  have hends : wordEnds.all (fun d => !isBareChar d) = true := by decide
  have hmem : c ∉ wordEnds := by
    intro hc
    simpa [h] using List.all_eq_true.mp hends c hc
  simp [isWordChar, hmem]

/-- A character of a bare word is none of those that a line or a part of a key may start with
otherwise. -/
theorem ne_of_isBareChar {c d : Char} (h : isBareChar c = true) (hd : isBareChar d = false) :
    c ≠ d := by
  rintro rfl
  exact Bool.false_ne_true (hd.symm.trans h)

theorem isGap_of_isBareChar {c : Char} (h : isBareChar c = true) : isGap c = false := by
  simp [isGap, ne_of_isBareChar h (d := ' ') (by decide),
    ne_of_isBareChar h (d := '\t') (by decide)]

/-- A text that starts with a bare word starts with no string. -/
theorem stringSize?_of_isBareChar {c : Char} (h : isBareChar c = true) (t : List Char) :
    stringSize? (c :: t) = none := by
  have hquote : c ≠ '"' := ne_of_isBareChar h (by decide)
  have hmark : c ≠ '\x27' := ne_of_isBareChar h (by decide)
  rw [stringSize?.eq_def]
  split
  next heq => exact absurd (List.cons.inj heq).1 hquote
  next heq => exact absurd (List.cons.inj heq).1 hmark
  next heq => exact absurd (List.cons.inj heq).1 hquote
  next heq => exact absurd (List.cons.inj heq).1 hmark
  next => rfl

/-! ### Texts of values -/

/-- The text, with a line break behind it, is laid out as one scalar and says this value. -/
structure Denotes (text : List Char) (v : Value) : Prop where
  /-- It is laid out as one scalar. -/
  laid : ∀ n room rest, layValue? (n + 1) room (skipGap (text ++ '\n' :: rest))
    = some (.scalar text, '\n' :: rest)
  /-- As a scalar, it says the value. -/
  read : readScalar? text = some v

theorem skipGap_of_isGap_eq_false {c : Char} (h : isGap c = false) (t : List Char) :
    skipGap (c :: t) = c :: t := by
  rw [skipGap, List.dropWhile_cons_of_neg (by simp [h])]

/-- A value that starts neither as an array nor as a table is a scalar. -/
theorem layValue?_scalar {c : Char} (harray : c ≠ '[') (htable : c ≠ '\x7b') (n room : ℕ)
    (t : List Char) :
    layValue? (n + 1) room (c :: t)
      = (scalarSize? (c :: t)).map
          fun size => (.scalar ((c :: t).take size), (c :: t).drop size) := by
  rw [layValue?.eq_def]
  dsimp only
  split
  next heq => exact absurd (List.cons.inj heq).1 harray
  next heq => exact absurd (List.cons.inj heq).1 htable
  next => rfl

theorem scalarSize?_string {t : List Char} {n : ℕ} (h : stringSize? t = some n) :
    scalarSize? t = some n := by
  rw [scalarSize?.eq_def, h]

theorem scalarSize?_bare {c : Char} (h : isBareChar c = true) (t : List Char) :
    scalarSize? (c :: t) = some (wordsSize (c :: t)) := by
  rw [scalarSize?.eq_def, stringSize?_of_isBareChar h]
  simp only [isScalarChar, isWordChar_of_isBareChar h, Bool.true_or, if_true]

/-- A bare word is laid out as one scalar. -/
theorem denotes_of_bare {text : List Char} {v : Value} (hne : text ≠ [])
    (hall : text.all isBareChar = true) (h : scalar? text = some v) : Denotes text v := by
  have hbare := List.all_eq_true.mp hall
  obtain ⟨c, t, rfl⟩ := List.exists_cons_of_ne_nil hne
  have hc : isBareChar c = true := hbare c List.mem_cons_self
  refine ⟨fun n room rest => ?_, ?_⟩
  · have hall : ∀ d ∈ c :: t, isScalarChar d = true := fun d hd => by
      rw [isScalarChar, isWordChar_of_isBareChar (hbare d hd), Bool.true_or]
    have htake : (c :: t ++ '\n' :: rest).takeWhile isScalarChar = c :: t := by
      rw [List.takeWhile_append_of_pos hall, List.takeWhile_cons_of_neg (by decide),
        List.append_nil]
    have hdrop : (c :: t ++ '\n' :: rest).dropWhile isScalarChar = '\n' :: rest := by
      rw [List.dropWhile_append_of_pos hall, List.dropWhile_cons_of_neg (by decide)]
    have hsize : scalarSize? (c :: t ++ '\n' :: rest) = some (c :: t).length := by
      rw [List.cons_append, scalarSize?_bare hc, ← List.cons_append, wordsSize, htake, hdrop]
      rfl
    rw [List.cons_append, skipGap_of_isGap_eq_false (isGap_of_isBareChar hc),
      layValue?_scalar (ne_of_isBareChar hc (by decide)) (ne_of_isBareChar hc (by decide)),
      ← List.cons_append, hsize, Option.map_some, List.take_left, List.drop_left]
  · rw [readScalar?, stringSize?_of_isBareChar hc, h]

theorem denotes_boolean (b : Bool) : Denotes (toString b).toList (.boolean b) := by
  cases b with
  | false => exact denotes_of_bare (by decide) (by decide) rfl
  | true => exact denotes_of_bare (by decide) (by decide) rfl

theorem denotes_integer {n : ℕ} (h : n < Nat.pow 2 128) :
    Denotes (Nat.toDigits 10 n) (.integer n) := by
  refine denotes_of_bare Nat.toDigits_ne_nil (List.all_eq_true.mpr fun c hc => ?_)
    (scalar?_toDigits h)
  simp [isBareChar, Char.isAlphanum, isDigit_toDigits hc]

/-- A written string starts with a mark. -/
theorem exists_writeString_eq_cons (t : List Char) :
    ∃ c u, writeString t = c :: u ∧ (c = '"' ∨ c = '\x27') := by
  rw [writeString]
  cases formFor t with
  | basic => exact ⟨'"', _, rfl, .inl rfl⟩
  | literal => exact ⟨'\x27', _, rfl, .inr rfl⟩
  | longBasic => exact ⟨'"', _, rfl, .inl rfl⟩
  | longLiteral => exact ⟨'\x27', _, rfl, .inr rfl⟩

theorem denotes_string (s : String) : Denotes (writeString s.toList) (.string s) := by
  obtain ⟨c, u, hcons, hc⟩ := exists_writeString_eq_cons s.toList
  refine ⟨fun n room rest => ?_, ?_⟩
  · have hsize := (string_writeString s.toList (r := '\n' :: rest) (by simp) (by simp)).1
    have hgap : isGap c = false := by rcases hc with rfl | rfl <;> rfl
    have harray : c ≠ '[' := by rcases hc with rfl | rfl <;> decide
    have htable : c ≠ '\x7b' := by rcases hc with rfl | rfl <;> decide
    rw [hcons, List.cons_append, skipGap_of_isGap_eq_false hgap, layValue?_scalar harray htable,
      ← List.cons_append, ← hcons, scalarSize?_string hsize, Option.map_some, List.take_left,
      List.drop_left]
  · -- as a scalar the string is all of its text, so nothing may be left behind it
    obtain ⟨hsize, hread⟩ := string_writeString s.toList (r := []) (by simp) (by simp)
    rw [List.append_nil] at hsize hread
    rw [readScalar?, hsize, hread]
    simp [whole]

/-! ### Entries and their lines -/

/-- An entry as it is written. -/
structure PlainEntry where
  /-- Its name. -/
  name : String
  /-- The text of its value. -/
  text : List Char
  /-- Its value. -/
  value : Value

namespace PlainEntry

/-- The name is a bare word, and the text says the value. -/
structure Readable (e : PlainEntry) : Prop where
  /-- The name is not empty. -/
  named : e.name.toList ≠ []
  /-- It needs no marks. -/
  bare : ∀ c ∈ e.name.toList, isBareChar c = true
  /-- The text says the value. -/
  valued : Denotes e.text e.value

/-- The line of an entry. -/
def line (e : PlainEntry) : List Char :=
  e.name.toList ++ ' ' :: '=' :: ' ' :: (e.text ++ ['\n'])

/-- The layout of the line of an entry. -/
def layout (e : PlainEntry) : Line := .entry ⟨[], e.name.toList⟩ (.scalar e.text)

end PlainEntry

/-- The text of a file of plain entries. -/
def document (es : List PlainEntry) : List Char := es.flatMap PlainEntry.line

/-- A bare word before an equality sign is a key of one part. -/
theorem layKey_bare {name : List Char} (hne : name ≠ []) (h : ∀ c ∈ name, isBareChar c = true)
    (n : ℕ) (r : List Char) :
    layKey (n + 1) (name ++ ' ' :: '=' :: r) = (⟨[], name⟩, '=' :: r) := by
  obtain ⟨c, t, rfl⟩ := List.exists_cons_of_ne_nil hne
  have hc : isBareChar c = true := h c List.mem_cons_self
  have hstart : skipGap (c :: t ++ ' ' :: '=' :: r) = c :: t ++ ' ' :: '=' :: r := by
    rw [List.cons_append, skipGap_of_isGap_eq_false (isGap_of_isBareChar hc)]
  have hsize : partSize (c :: t ++ ' ' :: '=' :: r) = (c :: t).length := by
    rw [partSize, List.cons_append, stringSize?_of_isBareChar hc, Option.getD_none,
      ← List.cons_append,
      List.takeWhile_append_of_pos fun d hd => isWordChar_of_isBareChar (h d hd),
      List.takeWhile_cons_of_neg (by decide), List.append_nil]
  have hend : skipGap (' ' :: '=' :: r) = '=' :: r := by
    rw [skipGap, List.dropWhile_cons_of_pos (by decide), List.dropWhile_cons_of_neg (by decide)]
  simp only [layKey, hstart, hsize, List.drop_left, List.take_left, hend]
  rfl

/-- The line of a readable entry starts with a bare word. -/
theorem PlainEntry.Readable.exists_line_eq_cons {e : PlainEntry} (he : e.Readable) :
    ∃ c t, e.line = c :: t ∧ isBareChar c = true := by
  obtain ⟨c, t, hcons⟩ := List.exists_cons_of_ne_nil he.named
  refine ⟨c, _, by rw [line, hcons]; rfl, he.bare c ?_⟩
  rw [hcons]
  exact List.mem_cons_self

/-- A line that starts with a bare word is an entry. -/
theorem laySaying?_bare {c : Char} (hc : isBareChar c = true) (t : List Char) :
    laySaying? (c :: t) = match layKey ((c :: t).length + 1) (c :: t) with
      | (key, '=' :: r) =>
        (layValue? (2 * r.length + 2) maxDepth (skipGap r)).map fun (v, r) => (.entry key v, r)
      | _ => none := by
  have hother : ∀ {d : Char} {u : List Char}, c :: t = d :: u → isBareChar d = true := by
    intro d u h
    rw [← (List.cons.inj h).1, hc]
  rw [laySaying?, skipGap_of_isGap_eq_false (isGap_of_isBareChar hc)]
  split
  next h => cases h
  next h => exact absurd (hother h) (by decide)
  next h => exact absurd (hother h) (by decide)
  next h => exact absurd (hother h) (by decide)
  next h => exact absurd (hother h) (by decide)
  next h => exact absurd (hother h) (by decide)
  next => rfl

/-- **The layout of the line of an entry.** -/
theorem layLine?_line {e : PlainEntry} (he : e.Readable) (rest : List Char) :
    layLine? (e.line ++ rest) = some (e.layout, rest) := by
  have htext : e.line ++ rest
      = e.name.toList ++ ' ' :: '=' :: ' ' :: (e.text ++ '\n' :: rest) := by
    simp [PlainEntry.line]
  have hkey : layKey ((e.line ++ rest).length + 1) (e.line ++ rest)
      = (⟨[], e.name.toList⟩, '=' :: ' ' :: (e.text ++ '\n' :: rest)) := by
    rw [htext, layKey_bare he.named he.bare]
  have hvalue : ∀ n, layValue? (n + 1) maxDepth (skipGap (' ' :: (e.text ++ '\n' :: rest)))
      = some (.scalar e.text, '\n' :: rest) := by
    intro n
    have hblank : skipGap (' ' :: (e.text ++ '\n' :: rest)) = skipGap (e.text ++ '\n' :: rest) := by
      rw [skipGap, List.dropWhile_cons_of_pos (by decide), skipGap]
    rw [hblank, he.valued.laid]
  have hsaying : laySaying? (e.line ++ rest) = some (e.layout, '\n' :: rest) := by
    obtain ⟨c, t, hline, hc⟩ := he.exists_line_eq_cons
    rw [hline, List.cons_append] at hkey ⊢
    rw [laySaying?_bare hc, hkey]
    simp only [hvalue, Option.map_some, PlainEntry.layout]
  have hend : endLine? ('\n' :: rest) = some rest := by
    rw [endLine?, skipGap_of_isGap_eq_false (by decide)]
    rfl
  rw [layLine?, hsaying]
  simp only [hend, Option.map_some]

/-! ### Files -/

theorem length_le_length_document {es : List PlainEntry} (hes : ∀ e ∈ es, e.Readable) :
    es.length ≤ (document es).length := by
  induction es with
  | nil => exact Nat.le_refl _
  | cons e es ih =>
    obtain ⟨he, hrest⟩ := List.forall_mem_cons.mp hes
    obtain ⟨c, t, hline, -⟩ := he.exists_line_eq_cons
    have hle := ih hrest
    rw [document, List.flatMap_cons, List.length_append, hline, ← document, List.length_cons,
      List.length_cons]
    omega

/-- A file of readable entries has no byte order mark. -/
theorem dropMark_document {es : List PlainEntry} (hes : ∀ e ∈ es, e.Readable) :
    dropMark (document es) = document es := by
  cases es with
  | nil => rfl
  | cons e es =>
    obtain ⟨c, t, hline, hc⟩ := (hes e List.mem_cons_self).exists_line_eq_cons
    have hmark : c ≠ '\ufeff' := ne_of_isBareChar hc (by decide)
    rw [document, List.flatMap_cons, hline, List.cons_append, dropMark.eq_def]
    split
    next heq => exact absurd (List.cons.inj heq).1 hmark
    next => rfl

theorem layLines?_document {es : List PlainEntry} (hes : ∀ e ∈ es, e.Readable) {n : ℕ}
    (hn : es.length ≤ n) : layLines? n (document es) = some (es.map PlainEntry.layout) := by
  induction es generalizing n with
  | nil => cases n <;> rfl
  | cons e es ih =>
    obtain ⟨he, hrest⟩ := List.forall_mem_cons.mp hes
    obtain ⟨m, rfl⟩ := Nat.exists_eq_add_one_of_ne_zero (Nat.ne_of_gt (Nat.zero_lt_of_lt hn))
    obtain ⟨c, t, hline, -⟩ := he.exists_line_eq_cons
    have htext : document (e :: es) = c :: (t ++ document es) := by
      rw [document, List.flatMap_cons, hline, List.cons_append, document]
    have hstep : layLine? (c :: (t ++ document es)) = some (e.layout, document es) := by
      rw [← List.cons_append, ← hline, layLine?_line he]
    rw [htext, layLines?.eq_def]
    simp only [hstep, ih hrest (Nat.le_of_succ_le_succ hn), Option.map_some, List.map_cons]

/-- The name of an entry is read back. -/
theorem Key.read_bare {e : PlainEntry} (he : e.Readable) :
    Key.read ⟨[], e.name.toList⟩ = .ok ⟨[], e.name⟩ := by
  obtain ⟨c, t, hcons⟩ := List.exists_cons_of_ne_nil he.named
  have hc : isBareChar c = true := he.bare c (by rw [hcons]; exact List.mem_cons_self)
  have hpart : readPart? e.name.toList = some e.name := by
    rw [readPart?.eq_def]
    split
    next heq =>
      exact absurd (List.cons.inj (hcons.symm.trans heq)).1 (ne_of_isBareChar hc (by decide))
    next heq =>
      exact absurd (List.cons.inj (hcons.symm.trans heq)).1 (ne_of_isBareChar hc (by decide))
    next => rw [if_pos ⟨he.named, List.all_eq_true.mpr he.bare⟩, String.ofList_toList]
  simp [Key.read, hpart, maxDepth]

/-- **A line adds its entry to the file**, if there is none of this name yet. -/
theorem Progress.take_layout {e : PlainEntry} (he : e.Readable) {es : Entries}
    (hnew : es.lookup e.name = none) :
    Progress.take ⟨es, []⟩ e.layout = .ok ⟨es ++ [(e.name, .value e.value)], []⟩ := by
  have hadd : addUnder [] [] e.name e.value es = some (es ++ [(e.name, .value e.value)]) := by
    simp [addUnder, alter, addEntry, hnew]
  have hvalue : Layout.read (.scalar e.text) = .ok e.value := by
    rw [Layout.read, he.valued.read]
    rfl
  rw [PlainEntry.layout, Progress.take, Key.read_bare he, hvalue]
  change (orMalformed (addUnder [] [] e.name e.value es)).bind _ = _
  rw [hadd]
  rfl

theorem lookup_append_single {es : Entries} {name other : String} {node : Node}
    (hne : other ≠ name) (hnew : es.lookup name = none) :
    (es ++ [(other, node)]).lookup name = none := by
  rw [List.lookup_append, hnew, List.lookup_cons, beq_false_of_ne hne.symm]
  rfl

/-- The lines of a file add their entries one after the other. -/
theorem foldlM_take {es : List PlainEntry} (hes : ∀ e ∈ es, e.Readable)
    (hnames : (es.map PlainEntry.name).Nodup) {earlier : Entries}
    (hnew : ∀ e ∈ es, earlier.lookup e.name = none) :
    (es.map PlainEntry.layout).foldlM Progress.take ⟨earlier, []⟩
      = .ok ⟨earlier ++ es.map fun e => (e.name, .value e.value), []⟩ := by
  -- the induction is on the lines that are left, for any entries before them
  induction es generalizing earlier with
  | nil => rw [List.map_nil, List.foldlM_nil, List.map_nil, List.append_nil]; rfl
  | cons e es ih =>
    obtain ⟨he, hrest⟩ := List.forall_mem_cons.mp hes
    obtain ⟨hname, hnewrest⟩ := List.forall_mem_cons.mp hnew
    rw [List.map_cons, List.nodup_cons] at hnames
    have hnext : ∀ f ∈ es, (earlier ++ [(e.name, Node.value e.value)]).lookup f.name = none := by
      intro f hf
      refine lookup_append_single (fun heq => hnames.1 ?_) (hnewrest f hf)
      exact heq ▸ List.mem_map_of_mem hf
    rw [List.map_cons, List.foldlM_cons, Progress.take_layout he hname]
    have htail := ih hrest hnames.2 hnext
    rw [List.append_assoc, List.singleton_append] at htail
    exact htail

theorem closeEntries_values (es : List PlainEntry) :
    closeEntries (es.map fun e => (e.name, .value e.value))
      = es.map fun e => (e.name, e.value) := by
  induction es with
  | nil => rfl
  | cons e es ih => rw [List.map_cons, closeEntries, ih, Node.close, List.map_cons]

/-- **A file of readable entries with different names is read as these entries.** -/
theorem read_document {es : List PlainEntry} (hes : ∀ e ∈ es, e.Readable)
    (hnames : (es.map PlainEntry.name).Nodup) :
    read (document es) = .ok (es.map fun e => (e.name, e.value)) := by
  -- the bound is the number of characters, of which every line has one at least
  have hlines : layFile? (document es) = some (es.map PlainEntry.layout) := by
    rw [layFile?, dropMark_document hes]
    exact layLines?_document hes (Nat.le_succ_of_le (length_le_length_document hes))
  have hnone : ∀ e ∈ es, List.lookup e.name ([] : Entries) = none := fun _ _ => rfl
  have hfold := foldlM_take hes hnames hnone
  rw [List.nil_append] at hfold
  rw [read, hlines]
  change ((es.map PlainEntry.layout).foldlM Progress.take ⟨[], []⟩).bind _ = _
  rw [hfold]
  exact congrArg Except.ok (closeEntries_values es)

end TableSchema.Toml
