import Mathlib.Tactic.Common
import TableSchema.Json.Reader

/-!
# Reading back what was printed

The print of a value is read back as that value.  Every statement is about a print with more text
behind it, of which nothing is read: a string ends at its closing quotation mark, an array and an
object end at their closing brackets, and a number ends where a text comes that cannot go on with
it.

## Main definitions

* `Space t` — the text consists of blanks of the data format.
* `EndsNumber t` — the text does not go on with a number in front of it.

## Main results

* `readString_quoteText` — strings, whatever they hold.
* `readValue_printAt` — values, on every level and with every text behind them.
* `read?_print` — **the print of a value is read back.**
-/

namespace TableSchema.Json

open Text

/-! ### Strings -/

theorem readPieces_cons {c : Char} (hquote : c ≠ '"') (hslash : c ≠ '\\')
    (hcontrol : ¬ c.toNat < 0x20) (t : List Char) :
    readPieces (c :: t) = consPiece (.char c) (readPieces t) := by
  have hnot : ¬ (c = '\\' ∨ c.toNat < 0x20) := not_or.mpr ⟨hslash, hcontrol⟩
  rw [readPieces.eq_def]
  split
  next h => cases h
  next h => exact absurd (List.cons.inj h).1 hquote
  next h => exact absurd (List.cons.inj h).1 hslash
  next h => exact absurd (List.cons.inj h).1 hslash
  next h =>
    obtain ⟨rfl, rfl⟩ := List.cons.inj h
    rw [if_neg hnot]

/-- A UTF-16 unit that is no half of a surrogate pair stands for a character. -/
theorem textOf?_unit {n : ℕ} (h : n < 0xD800) (ps : List Piece) :
    textOf? (.unit n :: ps) = (textOf? ps).map (Char.ofNat n :: ·) := by
  have hhigh : isHigh n = false := by
    simp only [isHigh, Bool.and_eq_false_iff, decide_eq_false_iff_not]
    omega
  have hlow : isLow n = false := by
    simp only [isLow, Bool.and_eq_false_iff, decide_eq_false_iff_not]
    omega
  match ps with
  | [] => simp [textOf?, hhigh, hlow]
  | .char c :: ps => simp [textOf?, hhigh, hlow]
  | .unit m :: ps => simp [textOf?, hhigh, hlow]

/-- A character is written as one piece, which stands for it. -/
theorem exists_piece (c : Char) :
    ∃ p, (∀ t, readPieces (escape c ++ t) = consPiece p (readPieces t)) ∧
      ∀ ps, textOf? (p :: ps) = (textOf? ps).map (c :: ·) := by
  have hchar : ∀ ps, textOf? (.char c :: ps) = (textOf? ps).map (c :: ·) := fun ps => by
    rw [textOf?]
  by_cases hshort : c ∈ ['"', '\\', '\n', '\r', '\t', '\x08', '\x0c']
  · -- a short escape
    refine ⟨.char c, fun t => ?_, hchar⟩
    simp only [List.mem_cons, List.not_mem_nil, or_false] at hshort
    rcases hshort with rfl | rfl | rfl | rfl | rfl | rfl | rfl <;>
      simp [escape, readPieces, unescape?]
  · simp only [List.mem_cons, List.not_mem_nil, or_false, not_or] at hshort
    obtain ⟨h₁, h₂, h₃, h₄, h₅, h₆, h₇⟩ := hshort
    by_cases hcontrol : c.toNat < 0x20
    · -- an escape by number, which is no half of a surrogate pair
      refine ⟨.unit c.toNat, fun t => ?_, fun ps => ?_⟩
      · have hunit : unitOf? '0' '0' (lowerHexDigit (c.toNat / 16)) (lowerHexDigit (c.toNat % 16))
            = some c.toNat := by
          rw [unitOf?, hexValue?_lowerHexDigit _ (by omega), hexValue?_lowerHexDigit _ (by omega)]
          have hzero : hexValue? '0' = some 0 := by decide
          simp only [hzero, Option.some.injEq]
          omega
        simp [escape, h₁, h₂, h₃, h₄, h₅, h₆, h₇, hcontrol, readPieces, hunit]
      · rw [textOf?_unit (by omega), Char.ofNat_toNat]
    · -- the character itself
      refine ⟨.char c, fun t => ?_, hchar⟩
      have hself : escape c = [c] := by
        simp [escape, h₁, h₂, h₃, h₄, h₅, h₆, h₇, hcontrol]
      rw [hself, List.singleton_append, readPieces_cons h₁ h₂ hcontrol]

/-- The pieces of a quoted text make that text. -/
theorem readString_flatMap_escape (s rest : List Char) :
    readString (s.flatMap escape ++ '"' :: rest) = some (some (String.ofList s), rest) := by
  have hpieces : ∃ ps, readPieces (s.flatMap escape ++ '"' :: rest) = some (ps, rest) ∧
      textOf? ps = some s := by
    induction s with
    | nil => exact ⟨[], by simp [readPieces], rfl⟩
    | cons c s ih =>
      obtain ⟨ps, hread, htext⟩ := ih
      obtain ⟨p, hp, hc⟩ := exists_piece c
      refine ⟨p :: ps, ?_, by rw [hc, htext, Option.map_some]⟩
      rw [List.flatMap_cons, List.append_assoc, hp, hread]
      rfl
  obtain ⟨ps, hread, htext⟩ := hpieces
  simp only [readString, hread, Option.map_some, htext]

theorem quoteText_some (s : String) : quoteText (some s) = quote s.toList := rfl

/-- **Strings are read back**, those that are no text included. -/
theorem readString_quoteText (s : Option String) (rest : List Char) :
    ∃ t, quoteText s ++ rest = '"' :: t ∧ readString t = some (s, rest) := by
  cases s with
  | none =>
    have hhigh : unitOf? 'd' '8' '0' '0' = some 0xD800 := by decide
    refine ⟨"\\ud800\"".toList ++ rest, rfl, ?_⟩
    simp [readString, readPieces, hhigh, consPiece, textOf?, isHigh]
  | some s =>
    refine ⟨s.toList.flatMap escape ++ '"' :: rest, by simp [quoteText_some, quote], ?_⟩
    rw [readString_flatMap_escape, String.ofList_toList]

/-! ### Blanks -/

/-- The text consists of blanks of the data format. -/
def Space (t : List Char) : Prop := ∀ c ∈ t, c = ' ' ∨ c = '\n' ∨ c = '\t' ∨ c = '\r'

theorem skipSpace_append {s : List Char} (h : Space s) (t : List Char) :
    skipSpace (s ++ t) = skipSpace t := by
  refine List.dropWhile_append_of_pos fun c hc => ?_
  simpa [or_assoc] using h c hc

theorem skipSpace_cons {c : Char} (h : c ∉ [' ', '\n', '\t', '\r']) (t : List Char) :
    skipSpace (c :: t) = c :: t := by
  simp only [List.mem_cons, List.not_mem_nil, or_false, not_or] at h
  simp [skipSpace, h]

theorem space_newline (level : ℕ) : Space (newline level) := by
  intro c hc
  rcases List.mem_cons.mp hc with rfl | hc
  · exact .inr (.inl rfl)
  · exact .inl (List.eq_of_mem_replicate hc)

theorem space_blank : Space [' '] := by
  intro c hc
  exact .inl (List.mem_singleton.mp hc)

/-- An array whose first item is in sight is read by its items. -/
theorem readValue_array {n : ℕ} {r t : List Char} {c : Char} (hc : c ≠ ']')
    (h : skipSpace r = c :: t) :
    readValue (n + 1) ('[' :: r) = (readItems n (c :: t)).map fun (vs, r) => (.array vs, r) := by
  rw [readValue, skipSpace_cons (by decide)]
  simp only [h]
  split
  next heq => exact absurd (List.cons.inj heq).1 hc
  next => rfl

/-- An object whose first member is in sight is read by its members. -/
theorem readValue_object {n : ℕ} {r t : List Char} {c : Char} (hc : c ≠ '\x7d')
    (h : skipSpace r = c :: t) :
    readValue (n + 1) ('\x7b' :: r)
      = (readMembers n (c :: t)).map fun (ms, r) => (.object ms, r) := by
  rw [readValue, skipSpace_cons (by decide)]
  simp only [h]
  split
  next heq => exact absurd (List.cons.inj heq).1 hc
  next => rfl

/-- Blanks in front of a value are left out. -/
theorem readValue_append {s : List Char} (h : Space s) (n : ℕ) (t : List Char) :
    readValue n (s ++ t) = readValue n t := by
  cases n with
  | zero => rw [readValue, readValue]
  | succ n => rw [readValue, readValue, skipSpace_append h]

/-- Blanks in front of the members of an object are left out. -/
theorem readMembers_append {s : List Char} (h : Space s) (n : ℕ) (t : List Char) :
    readMembers n (s ++ t) = readMembers n t := by
  cases n with
  | zero => rw [readMembers, readMembers]
  | succ n => rw [readMembers, readMembers, skipSpace_append h]

/-- Blanks in front of the items of an array are left out. -/
theorem readItems_append {s : List Char} (h : Space s) (n : ℕ) (t : List Char) :
    readItems n (s ++ t) = readItems n t := by
  cases n with
  | zero => rw [readItems, readItems]
  | succ n => rw [readItems, readItems, readValue_append h]

/-! ### What values start and end with -/

/-- The characters that the print of a value may start with. -/
def starts : List Char := ['n', 't', 'f', '"', '[', '\x7b', '0']

theorem exists_start (v : Value) (level : ℕ) :
    ∃ c ∈ starts, ∃ t, v.printAt level = c :: t := by
  match v with
  | .null => exact ⟨'n', by decide, _, rfl⟩
  | .bool true => exact ⟨'t', by decide, _, rfl⟩
  | .bool false => exact ⟨'f', by decide, _, rfl⟩
  | .number => exact ⟨'0', by decide, _, rfl⟩
  | .string none => exact ⟨'"', by decide, _, rfl⟩
  | .string (some s) => exact ⟨'"', by decide, _, rfl⟩
  | .array [] => exact ⟨'[', by decide, _, rfl⟩
  | .array (v :: vs) => exact ⟨'[', by decide, _, rfl⟩
  | .object [] => exact ⟨'\x7b', by decide, _, rfl⟩
  | .object ((k, v) :: ms) => exact ⟨'\x7b', by decide, _, rfl⟩

theorem notMem_blanks_of_mem_starts {c : Char} (h : c ∈ starts) :
    c ∉ [' ', '\n', '\t', '\r'] := by
  simp only [starts, List.mem_cons, List.not_mem_nil, or_false] at h
  rcases h with rfl | rfl | rfl | rfl | rfl | rfl | rfl <;> decide

/-- The text does not go on with a number that stands in front of it. -/
def EndsNumber (t : List Char) : Prop := ∀ c ∈ t.head?, c ≠ '.' ∧ c ≠ 'e' ∧ c ≠ 'E'

theorem endsNumber_newline (level : ℕ) (t : List Char) : EndsNumber (newline level ++ t) := by
  intro c hc
  obtain rfl := Option.some.inj hc
  decide

theorem endsNumber_comma (t : List Char) : EndsNumber (',' :: t) := by
  intro c hc
  obtain rfl := Option.some.inj hc
  decide

theorem skipNumber?_zero {rest : List Char} (h : EndsNumber rest) :
    skipNumber? ('0' :: rest) = some rest := by
  have hparts : skipNumber? ('0' :: rest) = (skipFraction? rest).bind skipExponent? := rfl
  cases rest with
  | nil => rfl
  | cons c t =>
    obtain ⟨hpoint, he, hE⟩ := h c rfl
    have hfraction : skipFraction? (c :: t) = some (c :: t) := by simp [skipFraction?, hpoint]
    have hexponent : skipExponent? (c :: t) = some (c :: t) := by simp [skipExponent?, he, hE]
    rw [hparts, hfraction, Option.bind_some, hexponent]

/-! ### Values -/

/-- Induction on a value: its items and the values of its members come before it. -/
theorem Value.induction {P : Value → Prop} (null : P .null) (bool : ∀ b, P (.bool b))
    (number : P .number) (string : ∀ s, P (.string s))
    (array : ∀ vs, (∀ v ∈ vs, P v) → P (.array vs))
    (object : ∀ ms, (∀ m ∈ ms, P m.2) → P (.object ms)) : ∀ v, P v
  | .null => null
  | .bool b => bool b
  | .number => number
  | .string s => string s
  | .array vs => array vs fun v _ => Value.induction null bool number string array object v
  | .object ms => object ms fun m hm =>
    have hsize : sizeOf m.2 < 1 + sizeOf ms := by
      have hmem := List.sizeOf_lt_of_mem hm
      rcases m with ⟨k, v⟩
      simp only [Prod.mk.sizeOf_spec] at hmem
      dsimp only
      omega
    Value.induction null bool number string array object m.2

/-- The print of the value is read back, with every text behind it and in as many steps as the print
has characters, twice over. -/
def ReadsBack (level : ℕ) (v : Value) : Prop :=
  ∀ n rest, 2 * (v.printAt level).length ≤ n → EndsNumber rest →
    readValue n (v.printAt level ++ rest) = some (v, rest)

/-- **The items of an array are read back** if each of them is. -/
theorem readItems_printItems {level : ℕ} {v : Value} {vs : List Value} (hv : ReadsBack level v)
    (hvs : ∀ w ∈ vs, ReadsBack level w) (outer : ℕ) (rest : List Char) {n : ℕ}
    (hn : 2 * ((v.printAt level).length + (printItems level vs).length) < n) :
    readItems n (v.printAt level ++ (printItems level vs ++ (newline outer ++ ']' :: rest)))
      = some (v :: vs, rest) := by
  induction vs generalizing v n with
  | nil =>
    obtain ⟨m, rfl⟩ := Nat.exists_eq_add_one_of_ne_zero (Nat.ne_of_gt (Nat.zero_lt_of_lt hn))
    have hlast := hv m (newline outer ++ ']' :: rest) (by omega) (endsNumber_newline outer _)
    rw [printItems, List.nil_append, readItems, hlast]
    simp only [skipSpace_append (space_newline outer), skipSpace_cons (by decide : ']' ∉ _)]
  | cons w ws ih =>
    obtain ⟨m, rfl⟩ := Nat.exists_eq_add_one_of_ne_zero (Nat.ne_of_gt (Nat.zero_lt_of_lt hn))
    obtain ⟨hw, hws⟩ := List.forall_mem_cons.mp hvs
    have htail : printItems level (w :: ws) ++ (newline outer ++ ']' :: rest)
        = ',' :: (newline level ++ (w.printAt level ++
          (printItems level ws ++ (newline outer ++ ']' :: rest)))) := by
      simp [printItems]
    have hlength : (printItems level (w :: ws)).length
        = 1 + (newline level).length + (w.printAt level).length + (printItems level ws).length := by
      simp [printItems]
      omega
    rw [htail, readItems, hv m _ (by omega) (endsNumber_comma _)]
    simp only [skipSpace_cons (by decide : ',' ∉ _), readItems_append (space_newline level)]
    rw [ih hw hws (by omega), Option.map_some]

/-- **The members of an object are read back** if their values are. -/
theorem readMembers_printMembers {level : ℕ} {k : Option String} {v : Value}
    {ms : List (Option String × Value)} (hv : ReadsBack level v)
    (hms : ∀ m ∈ ms, ReadsBack level m.2) (outer : ℕ) (rest : List Char) {n : ℕ}
    (hn : 2 * ((v.printAt level).length + (printMembers level ms).length) < n) :
    readMembers n (quoteText k ++ ([':', ' '] ++ (v.printAt level ++
      (printMembers level ms ++ (newline outer ++ '\x7d' :: rest)))))
        = some ((k, v) :: ms, rest) := by
  induction ms generalizing k v n with
  | nil =>
    obtain ⟨m, rfl⟩ := Nat.exists_eq_add_one_of_ne_zero (Nat.ne_of_gt (Nat.zero_lt_of_lt hn))
    have hlast := hv m (newline outer ++ '\x7d' :: rest) (by omega) (endsNumber_newline outer _)
    obtain ⟨t, ht, hk⟩ := readString_quoteText k
      ([':', ' '] ++ (v.printAt level ++ (newline outer ++ '\x7d' :: rest)))
    rw [printMembers, List.nil_append, ht, readMembers, skipSpace_cons (by decide)]
    simp only [hk, List.cons_append, List.nil_append, skipSpace_cons (by decide : ':' ∉ _)]
    rw [← List.singleton_append, readValue_append space_blank, hlast]
    simp only [skipSpace_append (space_newline outer), skipSpace_cons (by decide : '\x7d' ∉ _)]
  | cons m ms ih =>
    obtain ⟨n, rfl⟩ := Nat.exists_eq_add_one_of_ne_zero (Nat.ne_of_gt (Nat.zero_lt_of_lt hn))
    rcases m with ⟨k', w⟩
    have hw : ReadsBack level w := hms (k', w) List.mem_cons_self
    have hothers : ∀ m ∈ ms, ReadsBack level m.2 := fun m hm =>
      hms m (List.mem_cons_of_mem _ hm)
    have htail : printMembers level ((k', w) :: ms) ++ (newline outer ++ '\x7d' :: rest)
        = ',' :: (newline level ++ (quoteText k' ++ ([':', ' '] ++ (w.printAt level ++
          (printMembers level ms ++ (newline outer ++ '\x7d' :: rest)))))) := by
      simp [printMembers]
    have hlength : (w.printAt level).length + (printMembers level ms).length
        < (printMembers level ((k', w) :: ms)).length := by
      simp [printMembers]
      omega
    obtain ⟨t, ht, hk⟩ := readString_quoteText k
      ([':', ' '] ++ (v.printAt level ++
        (printMembers level ((k', w) :: ms) ++ (newline outer ++ '\x7d' :: rest))))
    rw [ht, readMembers, skipSpace_cons (by decide)]
    simp only [hk, List.cons_append, List.nil_append, skipSpace_cons (by decide : ':' ∉ _)]
    rw [htail, ← List.singleton_append, readValue_append space_blank,
      hv n _ (by omega) (endsNumber_comma _)]
    simp only [skipSpace_cons (by decide : ',' ∉ _), readMembers_append (space_newline level)]
    rw [ih hw hothers (by omega), Option.map_some]

/-- No print is empty, so there is a step to read it in. -/
theorem readsBack_of_succ {level : ℕ} {v : Value}
    (h : ∀ n rest, 2 * (v.printAt level).length ≤ n + 1 → EndsNumber rest →
      readValue (n + 1) (v.printAt level ++ rest) = some (v, rest)) : ReadsBack level v := by
  intro n rest hn hrest
  obtain ⟨c, -, t, ht⟩ := exists_start v level
  cases n with
  | zero => simp [ht] at hn
  | succ n => exact h n rest hn hrest

/-- **Values are read back**, on every level and with every text behind them. -/
theorem readValue_printAt (v : Value) : ∀ level, ReadsBack level v := by
  induction v using Value.induction with
  | null =>
    intro level
    refine readsBack_of_succ fun n rest _ _ => ?_
    simp [Value.printAt, readValue, skipSpace_cons]
  | bool b =>
    intro level
    refine readsBack_of_succ fun n rest _ _ => ?_
    cases b with
    | true => simp [Value.printAt, readValue, skipSpace_cons]
    | false => simp [Value.printAt, readValue, skipSpace_cons]
  | number =>
    intro level
    refine readsBack_of_succ fun n rest _ hrest => ?_
    simp [Value.printAt, readValue, skipSpace_cons, skipNumber?_zero hrest]
  | string s =>
    intro level
    refine readsBack_of_succ fun n rest _ _ => ?_
    obtain ⟨t, ht, hs⟩ := readString_quoteText s rest
    rw [Value.printAt, ht, readValue, skipSpace_cons (by decide)]
    simp only [hs, Option.map_some]
  | array vs ih =>
    intro level
    refine readsBack_of_succ fun n rest hn _ => ?_
    cases vs with
    | nil => simp [Value.printAt, readValue, skipSpace_cons]
    | cons v vs =>
      obtain ⟨hv, hvs⟩ := List.forall_mem_cons.mp ih
      have htext : (Value.array (v :: vs)).printAt level ++ rest
          = '[' :: (newline (level + 1) ++ (v.printAt (level + 1) ++
            (printItems (level + 1) vs ++ (newline level ++ ']' :: rest)))) := by
        simp [Value.printAt]
      have hitems := readItems_printItems (n := n) (hv (level + 1))
        (fun w hw => hvs w hw (level + 1)) level rest (by simp [Value.printAt] at hn; omega)
      -- the first item does not start with the bracket that ends the array
      obtain ⟨c, hc, t, ht⟩ := exists_start v (level + 1)
      rw [ht, List.cons_append] at hitems
      rw [htext, readValue_array (r := newline (level + 1) ++ _) (c := c), hitems, Option.map_some]
      · exact ne_of_mem_of_not_mem hc (by decide)
      · rw [ht, List.cons_append, skipSpace_append (space_newline (level + 1)),
          skipSpace_cons (notMem_blanks_of_mem_starts hc)]
  | object ms ih =>
    intro level
    refine readsBack_of_succ fun n rest hn _ => ?_
    cases ms with
    | nil => simp [Value.printAt, readValue, skipSpace_cons]
    | cons m ms =>
      rcases m with ⟨k, v⟩
      have hv : ReadsBack (level + 1) v := ih (k, v) List.mem_cons_self (level + 1)
      have hms : ∀ m ∈ ms, ReadsBack (level + 1) m.2 := fun m hm =>
        ih m (List.mem_cons_of_mem _ hm) (level + 1)
      have htext : (Value.object ((k, v) :: ms)).printAt level ++ rest
          = '\x7b' :: (newline (level + 1) ++ (quoteText k ++ ([':', ' '] ++
            (v.printAt (level + 1) ++
              (printMembers (level + 1) ms ++ (newline level ++ '\x7d' :: rest)))))) := by
        simp [Value.printAt]
      have hmembers := readMembers_printMembers (n := n) (k := k) hv hms level rest
        (by simp [Value.printAt] at hn; omega)
      -- the first member starts with a quotation mark and not with the brace that ends the object
      obtain ⟨t, ht, -⟩ := readString_quoteText k ([':', ' '] ++ (v.printAt (level + 1) ++
        (printMembers (level + 1) ms ++ (newline level ++ '\x7d' :: rest))))
      rw [ht] at hmembers
      rw [htext, readValue_object (c := '"') (by decide), hmembers, Option.map_some]
      rw [ht, skipSpace_append (space_newline (level + 1)), skipSpace_cons (by decide)]

/-- **The print of a value is read back.** -/
theorem read?_print (v : Value) : read? v.print.toList = some v := by
  have htext : v.print.toList = v.printAt 0 ++ [] := by
    rw [Value.print, String.toList_ofList, List.append_nil]
  have hread := readValue_printAt v 0 (2 * (v.printAt 0 ++ []).length + 2) []
    (by rw [List.append_nil]; omega) (by simp [EndsNumber])
  rw [htext, read?, hread]
  simp [skipSpace]

end TableSchema.Json
