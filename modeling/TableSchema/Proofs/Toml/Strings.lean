import Mathlib.Data.List.Infix
import Mathlib.Tactic.Common
import TableSchema.Toml.Layout
import TableSchema.Toml.Written

/-!
# Reading back the strings of a file

Whatever a string holds, its written form reaches exactly as far as it was written and says what it
was written for.  In a form without escapes every character stands for itself; in a form with
escapes each character is written as a text that stands for it, and the reader takes these texts one
by one.  What takes care is the end of a string between three marks, in front of which up to two
marks may stand that belong to the string.

## Main definitions

* `StandsFor long c w` — `w` stands for the character `c` in a basic string.

## Main results

* `closing?_append` — where a string between three marks ends.
* `standsFor_escape` — every escape stands for its character.
* `string_writeString` — **a written string reaches as far as it was written, and is read back.**
-/

namespace TableSchema.Toml

open Text

/-! ### Three marks -/

/-- Three marks end a string if no three stand before them; those that do stand before them belong
to the string. -/
theorem closing?_append {m : Char} {s r : List Char} (hs : ¬ [m, m, m] <+: s)
    (hr : r.head? ≠ some m) :
    closing? m (s ++ m :: m :: m :: r) = if s.all fun c => c = m then some (s, r) else none := by
  -- three characters decide, and up to two more may be marks that belong to the string; from three
  -- characters before the marks on, it is these that decide
  match s with
  | [] =>
    match r with
    | [] => simp [closing?]
    | [d] => simp_all [closing?]
    | d :: e :: r => simp_all [closing?]
  | [a] =>
    by_cases ha : a = m
    · subst ha
      cases r with
      | nil => simp [closing?]
      | cons d r => simp_all [closing?]
    · simp [closing?, ha]
  | [a, b] =>
    by_cases ha : a = m
    · by_cases hb : b = m
      · simp [closing?, ha, hb]
      · simp [closing?, hb]
    · simp [closing?, ha]
  | a :: b :: c :: s =>
    have hthree : ¬ (a = m ∧ b = m ∧ c = m) := by
      rintro ⟨rfl, rfl, rfl⟩
      exact hs ⟨s, rfl⟩
    have hall : ¬ ((a :: b :: c :: s).all fun d => d = m) = true := by
      intro h
      simp only [List.all_cons, Bool.and_eq_true, decide_eq_true_eq] at h
      exact hthree ⟨h.1, h.2.1, h.2.2.1⟩
    rw [if_neg hall]
    simp only [List.cons_append, closing?, if_neg hthree]

theorem closing?_of_ne {m c : Char} (h : c ≠ m) (t : List Char) : closing? m (c :: t) = none := by
  match t with
  | [] => rfl
  | [_] => rfl
  | _ :: _ :: _ => simp [closing?, h]

theorem le_longestRun (m : Char) (current longest : ℕ) (t : List Char) :
    longest ≤ longestRun m current longest t := by
  induction t generalizing current longest with
  | nil => exact Nat.le_refl _
  | cons d t ih =>
    rw [longestRun]
    split
    · exact Nat.le_trans (Nat.le_max_left _ _) (ih _ _)
    · exact ih _ _

/-- Marks at the start of a text prolong the run before it. -/
theorem add_le_longestRun {m : Char} {k : ℕ} {t : List Char} (hk : 0 < k)
    (h : List.replicate k m <+: t) (current longest : ℕ) :
    current + k ≤ longestRun m current longest t := by
  induction k generalizing t current longest with
  | zero => omega
  | succ k ih =>
    obtain ⟨u, rfl⟩ := h
    rw [List.replicate_succ, List.cons_append, longestRun, if_pos rfl]
    rcases Nat.eq_zero_or_pos k with rfl | hk
    · have hle := le_longestRun m (current + 1) (max longest (current + 1)) u
      rw [List.replicate_zero, List.nil_append]
      omega
    · have hle := ih hk ⟨u, rfl⟩ (current + 1) (max longest (current + 1))
      omega

/-- **A text holds no run of marks beyond the longest.** -/
theorem not_replicate_infix {m : Char} {n current longest : ℕ} {t : List Char}
    (h : longestRun m current longest t ≤ n) : ¬ List.replicate (n + 1) m <:+: t := by
  induction t generalizing current longest with
  | nil => simp
  | cons d t ih =>
    rw [List.infix_cons_iff]
    rintro (hstart | hlater)
    · have hle := add_le_longestRun (Nat.succ_pos n) hstart current longest
      omega
    · rw [longestRun] at h
      split at h
      · exact ih h hlater
      · exact ih h hlater

/-! ### Literal strings -/

theorem readLiteral_append {t : List Char} (h : ∀ c ∈ t, isPlain c = true ∧ c ≠ '\x27')
    (r : List Char) : readLiteral (t ++ '\x27' :: r) = some (t, r) := by
  induction t with
  | nil => rw [List.nil_append, readLiteral, if_pos rfl]
  | cons c t ih =>
    obtain ⟨⟨hplain, hmark⟩, ht⟩ := List.forall_mem_cons.mp h
    rw [List.cons_append, readLiteral, if_neg hmark, if_pos hplain, ih ht]
    rfl

theorem literalSize_append {t : List Char} (h : ∀ c ∈ t, isPlain c = true ∧ c ≠ '\x27')
    (r : List Char) : literalSize (t ++ '\x27' :: r) = t.length + 1 := by
  induction t with
  | nil => rw [List.nil_append, literalSize, if_pos rfl, List.length_nil]
  | cons c t ih =>
    obtain ⟨⟨hplain, hmark⟩, ht⟩ := List.forall_mem_cons.mp h
    have hline : c ≠ '\n' := by
      rintro rfl
      exact absurd hplain (by decide)
    rw [List.cons_append, literalSize, if_neg hmark, if_neg hline, ih ht, List.length_cons]

theorem readLongLiteral_append {t r : List Char}
    (h : ∀ c ∈ t, isPlain c = true ∨ c = '\n') (hrun : ¬ ['\x27', '\x27', '\x27'] <:+: t)
    (hr : r.head? ≠ some '\x27') :
    readLongLiteral (t ++ '\x27' :: '\x27' :: '\x27' :: r) = some (t, r) := by
  induction t with
  | nil =>
    have hend := closing?_append (s := []) (by simp) hr
    rw [List.nil_append] at hend ⊢
    rw [readLongLiteral, hend]
    simp
  | cons c t ih =>
    obtain ⟨hc, ht⟩ := List.forall_mem_cons.mp h
    have hend := closing?_append (fun hp => hrun hp.isInfix) hr
    rw [List.cons_append] at hend ⊢
    rw [readLongLiteral, hend]
    -- either nothing but marks is left of the string, or the character belongs to it
    by_cases hmarks : ((c :: t).all fun d => d = '\x27') = true
    · rw [if_pos hmarks]
    · have hself : (isPlain c || isBreak c (t ++ '\x27' :: '\x27' :: '\x27' :: r)) = true := by
        rcases hc with hc | rfl
        · rw [hc, Bool.true_or]
        · rfl
      rw [if_neg hmarks, if_pos hself, ih ht fun hi => hrun (List.infix_cons hi)]
      rfl

theorem longLiteralSize_append {t r : List Char} (hrun : ¬ ['\x27', '\x27', '\x27'] <:+: t)
    (hr : r.head? ≠ some '\x27') :
    longLiteralSize (t ++ '\x27' :: '\x27' :: '\x27' :: r) = t.length + 3 := by
  induction t with
  | nil =>
    have hend := closing?_append (s := []) (by simp) hr
    rw [List.nil_append] at hend ⊢
    rw [longLiteralSize, hend]
    simp
  | cons c t ih =>
    have hend := closing?_append (fun hp => hrun hp.isInfix) hr
    rw [List.cons_append] at hend ⊢
    rw [longLiteralSize, hend]
    by_cases hmarks : ((c :: t).all fun d => d = '\x27') = true
    · rw [if_pos hmarks]
    · rw [if_neg hmarks, ih fun hi => hrun (List.infix_cons hi), List.length_cons]

/-! ### Escapes -/

/-- The text `w` stands for the character `c` in a basic string, `long` if it may span lines. -/
inductive StandsFor (long : Bool) (c : Char) : (w : List Char) → Prop
  /-- The character stands for itself. -/
  | self (quote : c ≠ '"') (slash : c ≠ '\\')
    (plain : isPlain c = true ∨ long = true ∧ c = '\n') : StandsFor long c [c]
  /-- A backslash and one more character stand for it. -/
  | short {e : Char} (escape : unescape? e = some c) : StandsFor long c ['\\', e]
  /-- It is given by number. -/
  | numeric {h l : Char}
    (digits : ∀ o, consDigits ['0', '0', h, l] o = consChar c o)
    (high : h ∉ ['"', '\\', '\n']) (low : l ∉ ['"', '\\', '\n']) :
    StandsFor long c ['\\', 'u', '0', '0', h, l]

/-- A control character is the one that its number gives. -/
theorem consDigits_control {c : Char} (h : c.toNat < 0x20 ∨ c.toNat = 0x7F)
    (o : Option (List Char × List Char)) :
    consDigits ['0', '0', upperHexDigit (c.toNat / 16), upperHexDigit (c.toNat % 16)] o
      = consChar c o := by
  have hnumber : hexNumber? ['0', '0', upperHexDigit (c.toNat / 16), upperHexDigit (c.toNat % 16)]
      = some c.toNat := by
    have hzero : hexValue? '0' = some 0 := by decide
    simp only [hexNumber?, List.foldl_cons, List.foldl_nil, Option.bind_some, Option.map_some,
      hzero, hexValue?_upperHexDigit (c.toNat / 16) (by omega),
      hexValue?_upperHexDigit (c.toNat % 16) (by omega), Option.some.injEq]
    omega
  have hvalid : c.toNat.isValidChar := c.valid
  simp only [consDigits, hnumber, Option.bind_some, charOf?, if_pos hvalid, Char.ofNat_toNat]

/-- What is written for a character other than a quotation mark stands for it. -/
theorem standsFor_escape (long : Bool) {c : Char} (hc : c ≠ '"') :
    StandsFor long c (escape long c) := by
  have hdigit : ∀ n < 16, upperHexDigit n ∉ ['"', '\\', '\n'] := by decide
  -- the cases of `escape`: short escapes, the line feed by the form, numbers, and no escape
  by_cases hshort : c ∈ ['\x08', '\t', '\x0c', '\r', '\\']
  · simp only [List.mem_cons, List.not_mem_nil, or_false] at hshort
    rcases hshort with rfl | rfl | rfl | rfl | rfl
    · exact .short rfl
    · exact .short rfl
    · exact .short rfl
    · exact .short rfl
    · exact .short rfl
  · by_cases hline : c = '\n'
    · subst hline
      cases long with
      | false => exact .short rfl
      | true => exact .self (by decide) (by decide) (.inr ⟨rfl, rfl⟩)
    · simp only [List.mem_cons, List.not_mem_nil, or_false, not_or] at hshort
      obtain ⟨h₁, h₂, h₃, h₄, h₅⟩ := hshort
      by_cases hcontrol : c.toNat < 0x20 ∨ c.toNat = 0x7F
      · have hself : escape long c = ['\\', 'u', '0', '0', upperHexDigit (c.toNat / 16),
            upperHexDigit (c.toNat % 16)] := by
          simp [escape, h₁, h₂, h₃, h₄, h₅, hline, hcontrol]
        rw [hself]
        exact .numeric (consDigits_control hcontrol) (hdigit _ (by omega)) (hdigit _ (by omega))
      · have hself : escape long c = [c] := by
          simp [escape, h₁, h₂, h₃, h₄, h₅, hline, hcontrol]
        have hplain : isPlain c = true := by
          simp only [isPlain, Bool.or_eq_true, Bool.and_eq_true, decide_eq_true_eq]
          omega
        rw [hself]
        exact .self hc h₅ (.inl hplain)

/-- A quotation mark may stand behind a backslash. -/
theorem standsFor_quote (long : Bool) : StandsFor long '"' ['\\', '"'] := .short rfl

/-- The letters of the short escapes. -/
theorem mem_of_unescape? {e c : Char} (h : unescape? e = some c) :
    e ∈ ['b', 't', 'n', 'f', 'r', 'e', '"', '\\'] := by
  by_contra hmem
  simp only [List.mem_cons, List.not_mem_nil, or_false, not_or] at hmem
  obtain ⟨h₁, h₂, h₃, h₄, h₅, h₆, h₇, h₈⟩ := hmem
  simp [unescape?, h₁, h₂, h₃, h₄, h₅, h₆, h₇, h₈] at h

/-- What stands for a character does not start with a quotation mark. -/
theorem StandsFor.head_ne {long : Bool} {c : Char} {w : List Char} (h : StandsFor long c w)
    (u : List Char) : ∃ d v, w ++ u = d :: v ∧ d ≠ '"' := by
  cases h with
  | self quote slash plain => exact ⟨c, u, rfl, quote⟩
  | short escape => exact ⟨'\\', _, rfl, by decide⟩
  | numeric digits high low => exact ⟨'\\', _, rfl, by decide⟩

/-! ### Basic strings -/

theorem StandsFor.readBasic_append {c : Char} {w : List Char} (h : StandsFor false c w)
    (u : List Char) :
    readBasic .ready (w ++ u) = consChar c (readBasic .ready u) := by
  cases h with
  | self quote slash plain =>
    have hplain : isPlain c = true := plain.resolve_right fun h => Bool.false_ne_true h.1
    rw [List.singleton_append, readBasic, if_neg quote, if_neg slash, if_pos hplain]
  | short escape =>
    rw [List.cons_append, List.singleton_append, readBasic, if_neg (by decide), if_pos rfl,
      readBasic, escape]
  | numeric digits high low => simp [readBasic, unescape?, digitsAfter?, digits]

theorem basicSize_cons {c : Char} (hquote : c ≠ '"') (hslash : c ≠ '\\') (hline : c ≠ '\n')
    (u : List Char) : basicSize (c :: u) = basicSize u + 1 := by
  rw [basicSize.eq_def]
  split
  next h => exact absurd (List.cons.inj h).1 hslash
  next h => exact absurd (List.cons.inj h).1 hslash
  next h =>
    obtain ⟨rfl, rfl⟩ := List.cons.inj h
    rw [if_neg hquote, if_neg hline]
  next h => cases h

/-- A backslash takes the character behind it along. -/
theorem basicSize_slash {e : Char} (hline : e ≠ '\n') (u : List Char) :
    basicSize ('\\' :: e :: u) = basicSize u + 2 := by
  by_cases hslash : e = '\\'
  · rw [hslash, basicSize]
  · by_cases hquote : e = '"'
    · rw [hquote, basicSize]
    · have hfirst : basicSize ('\\' :: e :: u) = basicSize (e :: u) + 1 := by
        rw [basicSize.eq_def]
        split
        next h => exact absurd (List.cons.inj (List.cons.inj h).2).1 hslash
        next h => exact absurd (List.cons.inj (List.cons.inj h).2).1 hquote
        next h =>
          obtain ⟨rfl, rfl⟩ := List.cons.inj h
          rw [if_neg (by decide), if_neg (by decide)]
        next h => cases h
      rw [hfirst, basicSize_cons hquote hslash hline]

theorem StandsFor.basicSize_append {c : Char} {w : List Char} (h : StandsFor false c w)
    (u : List Char) : basicSize (w ++ u) = w.length + basicSize u := by
  cases h with
  | self quote slash plain =>
    have hline : c ≠ '\n' := by
      rintro rfl
      rcases plain with plain | ⟨hfalse, -⟩
      · exact absurd plain (by decide)
      · exact Bool.false_ne_true hfalse
    rw [List.singleton_append, basicSize_cons quote slash hline, List.length_singleton,
      Nat.add_comm]
  | short escape =>
    have hline := ne_of_mem_of_not_mem (mem_of_unescape? escape) (by decide : '\n' ∉ _)
    rw [List.cons_append, List.singleton_append, basicSize_slash hline]
    simp [Nat.add_comm]
  | numeric digits high low =>
    simp only [List.mem_cons, List.not_mem_nil, or_false, not_or] at high low
    simp only [List.cons_append, List.nil_append, List.length_cons, List.length_nil]
    rw [basicSize_slash (by decide), basicSize_cons (by decide) (by decide) (by decide),
      basicSize_cons (by decide) (by decide) (by decide), basicSize_cons high.1 high.2.1 high.2.2,
      basicSize_cons low.1 low.2.1 low.2.2]
    omega

/-- In a string of one line every quotation mark is escaped. -/
theorem writeEscaped_quote (run : ℕ) (t : List Char) :
    writeEscaped false run ('"' :: t) = ['\\', '"'] ++ writeEscaped false 0 t := by
  simp [writeEscaped]

theorem writeEscaped_of_ne (long : Bool) (run : ℕ) {c : Char} (h : c ≠ '"') (t : List Char) :
    writeEscaped long run (c :: t) = escape long c ++ writeEscaped long 0 t := by
  rw [writeEscaped, if_neg h]

/-- **What is written in a basic string is read back.** -/
theorem readBasic_writeEscaped (t r : List Char) :
    readBasic .ready (writeEscaped false 0 t ++ '"' :: r) = some (t, r) := by
  induction t with
  | nil => rw [writeEscaped, List.nil_append, readBasic, if_pos rfl]
  | cons c t ih =>
    by_cases hc : c = '"'
    · subst hc
      rw [writeEscaped_quote, List.append_assoc, (standsFor_quote false).readBasic_append, ih]
      rfl
    · rw [writeEscaped_of_ne false 0 hc, List.append_assoc,
        (standsFor_escape false hc).readBasic_append, ih]
      rfl

theorem basicSize_writeEscaped (t r : List Char) :
    basicSize (writeEscaped false 0 t ++ '"' :: r) = (writeEscaped false 0 t).length + 1 := by
  induction t with
  | nil =>
    rw [writeEscaped, List.nil_append, basicSize.eq_def]
    simp
  | cons c t ih =>
    by_cases hc : c = '"'
    · subst hc
      rw [writeEscaped_quote, List.append_assoc, (standsFor_quote false).basicSize_append, ih,
        List.length_append, Nat.add_assoc]
    · rw [writeEscaped_of_ne false 0 hc, List.append_assoc,
        (standsFor_escape false hc).basicSize_append, ih, List.length_append, Nat.add_assoc]

/-! ### Basic strings of several lines -/

theorem StandsFor.readLongBasic_append {c : Char} {w : List Char} (h : StandsFor true c w)
    (u : List Char) :
    readLongBasic false .ready (w ++ u) = consChar c (readLongBasic false .ready u) := by
  cases h with
  | self quote slash plain =>
    have hself : (isPlain c || isBreak c u) = true := by
      rcases plain with plain | ⟨-, rfl⟩
      · rw [plain, Bool.true_or]
      · rfl
    rw [List.singleton_append, readLongBasic, closing?_of_ne quote]
    simp [slash, hself]
  | @short e escape =>
    have hletters := mem_of_unescape? escape
    have hgap : isGap e = false := by
      simp only [List.mem_cons, List.not_mem_nil, or_false] at hletters
      rcases hletters with rfl | rfl | rfl | rfl | rfl | rfl | rfl | rfl <;> rfl
    -- behind a backslash at the end of a line, the blanks of the next line would be left out
    have hend : atLineEnd (e :: u) = false := by
      have hline := ne_of_mem_of_not_mem hletters (by decide : '\n' ∉ _)
      have hreturn := ne_of_mem_of_not_mem hletters (by decide : '\r' ∉ _)
      simp [atLineEnd, hgap, hline, hreturn]
    rw [List.cons_append, List.singleton_append, readLongBasic, closing?_of_ne (by decide)]
    simp [hend, readLongBasic, escape]
  | numeric digits high low =>
    have hend : ∀ v, atLineEnd ('u' :: v) = false := fun v => by simp [atLineEnd, isGap]
    simp [readLongBasic, closing?_of_ne, hend, unescape?, digitsAfter?, digits]

theorem longBasicSize_cons {c : Char} (hquote : c ≠ '"') (hslash : c ≠ '\\') (u : List Char) :
    longBasicSize (c :: u) = longBasicSize u + 1 := by
  rw [longBasicSize.eq_def]
  split
  next h => exact absurd (List.cons.inj h).1 hslash
  next h => exact absurd (List.cons.inj h).1 hslash
  next h =>
    obtain ⟨rfl, rfl⟩ := List.cons.inj h
    rw [closing?_of_ne hquote]
  next h => cases h

/-- A quotation mark belongs to the string unless it is one of the three that end it. -/
theorem longBasicSize_quote (u : List Char) :
    longBasicSize ('"' :: u) = match closing? '"' ('"' :: u) with
      | some (more, _) => more.length + 3
      | none => longBasicSize u + 1 := by
  rw [longBasicSize.eq_def]
  rfl

/-- A backslash takes the character behind it along. -/
theorem longBasicSize_slash (e : Char) (u : List Char) :
    longBasicSize ('\\' :: e :: u) = longBasicSize u + 2 := by
  by_cases hslash : e = '\\'
  · rw [hslash, longBasicSize]
  · by_cases hquote : e = '"'
    · rw [hquote, longBasicSize]
    · have hfirst : longBasicSize ('\\' :: e :: u) = longBasicSize (e :: u) + 1 := by
        rw [longBasicSize.eq_def]
        split
        next h => exact absurd (List.cons.inj (List.cons.inj h).2).1 hslash
        next h => exact absurd (List.cons.inj (List.cons.inj h).2).1 hquote
        next h =>
          obtain ⟨rfl, rfl⟩ := List.cons.inj h
          rw [closing?_of_ne (by decide)]
        next h => cases h
      rw [hfirst, longBasicSize_cons hquote hslash]

theorem StandsFor.longBasicSize_append {c : Char} {w : List Char} (h : StandsFor true c w)
    (u : List Char) :
    longBasicSize (w ++ u) = w.length + longBasicSize u := by
  cases h with
  | self quote slash plain =>
    rw [List.singleton_append, longBasicSize_cons quote slash, List.length_singleton, Nat.add_comm]
  | short escape =>
    rw [List.cons_append, List.singleton_append, longBasicSize_slash]
    simp [Nat.add_comm]
  | numeric digits high low =>
    simp only [List.mem_cons, List.not_mem_nil, or_false, not_or] at high low
    simp only [List.cons_append, List.nil_append, List.length_cons, List.length_nil]
    rw [longBasicSize_slash, longBasicSize_cons (by decide) (by decide),
      longBasicSize_cons (by decide) (by decide), longBasicSize_cons high.1 high.2.1,
      longBasicSize_cons low.1 low.2.1]
    omega

/-- The third mark of a run is escaped. -/
theorem writeEscaped_quote_of_le {run : ℕ} (h : 2 ≤ run) (t : List Char) :
    writeEscaped true run ('"' :: t) = ['\\', '"'] ++ writeEscaped true 0 t := by
  simp [writeEscaped, h]

/-- The marks of a run before the third stand for themselves. -/
theorem writeEscaped_quote_of_lt {run : ℕ} (h : run < 2) (t : List Char) :
    writeEscaped true run ('"' :: t) = '"' :: writeEscaped true (run + 1) t := by
  simp [writeEscaped, Nat.not_le.mpr h]

/-- Together with the marks before it, a written text does not start with three marks. -/
theorem not_replicate_prefix_writeEscaped {run : ℕ} (hrun : run ≤ 2) (t : List Char) :
    ¬ List.replicate (3 - run) '"' <+: writeEscaped true run t := by
  have hmarks : ∀ n ≤ 2, List.replicate (3 - n) '"' = '"' :: List.replicate (3 - (n + 1)) '"' := by
    intro n hn
    rw [← List.replicate_succ]
    congr 1
    omega
  -- each mark that stands for itself makes the run before it longer, and the third never does
  induction t generalizing run with
  | nil =>
    rw [hmarks run hrun, writeEscaped]
    simp
  | cons c t ih =>
    rw [hmarks run hrun]
    by_cases hc : c = '"'
    · subst hc
      by_cases hthird : 2 ≤ run
      · rw [writeEscaped_quote_of_le hthird, List.cons_append, List.cons_prefix_cons]
        exact fun h => absurd h.1 (by decide)
      · rw [writeEscaped_quote_of_lt (by omega), List.cons_prefix_cons]
        exact fun h => ih (by omega) h.2
    · obtain ⟨d, v, hd, hne⟩ := (standsFor_escape true hc).head_ne (writeEscaped true 0 t)
      rw [writeEscaped_of_ne true run hc, hd, List.cons_prefix_cons]
      exact fun h => hne h.1.symm

/-- A written text of nothing but marks is the text itself. -/
theorem writeEscaped_eq_self {run : ℕ} {t : List Char}
    (h : ∀ c ∈ writeEscaped true run t, c = '"') : writeEscaped true run t = t := by
  induction t generalizing run with
  | nil => rfl
  | cons c t ih =>
    by_cases hc : c = '"'
    · subst hc
      by_cases hthird : 2 ≤ run
      · rw [writeEscaped_quote_of_le hthird] at h
        exact absurd (h '\\' (by simp)) (by decide)
      · rw [writeEscaped_quote_of_lt (by omega)] at h ⊢
        rw [ih (List.forall_mem_cons.mp h).2]
    · obtain ⟨d, v, hd, hne⟩ := (standsFor_escape true hc).head_ne (writeEscaped true 0 t)
      rw [writeEscaped_of_ne true run hc, hd] at h
      exact absurd (h d (by simp)) hne

/-- The end of a string is found where only its last marks are left. -/
theorem closing?_writeEscaped {run : ℕ} (hrun : run < 2) {t r : List Char}
    (hr : r.head? ≠ some '"') :
    closing? '"' ('"' :: (writeEscaped true (run + 1) t ++ '"' :: '"' :: '"' :: r)) = none ∨
      closing? '"' ('"' :: (writeEscaped true (run + 1) t ++ '"' :: '"' :: '"' :: r))
        = some ('"' :: t, r) ∧ writeEscaped true (run + 1) t = t := by
  have hstart : ¬ ['"', '"', '"'] <+: '"' :: writeEscaped true (run + 1) t := by
    intro h
    rw [List.cons_prefix_cons] at h
    have hfew : List.replicate (3 - (run + 1)) '"' <+: ['"', '"'] := by
      have : 3 - (run + 1) = 1 ∨ 3 - (run + 1) = 2 := by omega
      rcases this with h | h <;> rw [h] <;> decide
    exact not_replicate_prefix_writeEscaped (by omega) t (hfew.trans h.2)
  have hend := closing?_append hstart hr
  rw [List.cons_append] at hend
  by_cases hmarks : (('"' :: writeEscaped true (run + 1) t).all fun d => d = '"') = true
  · have hall : ∀ d ∈ writeEscaped true (run + 1) t, d = '"' := by
      intro d hd
      exact of_decide_eq_true (List.all_eq_true.mp hmarks d (List.mem_cons_of_mem _ hd))
    have hself := writeEscaped_eq_self hall
    rw [if_pos hmarks] at hend
    exact .inr ⟨by rw [hend, hself], hself⟩
  · rw [if_neg hmarks] at hend
    exact .inl hend

/-- **What is written in a basic string of several lines is read back.** -/
theorem readLongBasic_writeEscaped (run : ℕ) (t : List Char) {r : List Char}
    (hr : r.head? ≠ some '"') :
    readLongBasic false .ready (writeEscaped true run t ++ '"' :: '"' :: '"' :: r)
      = some (t, r) := by
  induction t generalizing run with
  | nil =>
    have hend := closing?_append (s := []) (by simp) hr
    rw [List.nil_append] at hend
    rw [writeEscaped, List.nil_append, readLongBasic, hend]
    simp
  | cons c t ih =>
    by_cases hc : c = '"'
    · subst hc
      by_cases hthird : 2 ≤ run
      · rw [writeEscaped_quote_of_le hthird, List.append_assoc,
          (standsFor_quote true).readLongBasic_append, ih]
        rfl
      · -- a mark without an escape is either one of the last, or not at the end
        rw [writeEscaped_quote_of_lt (by omega), List.cons_append, readLongBasic]
        rcases closing?_writeEscaped (Nat.lt_of_not_le hthird) (t := t) hr with hend | ⟨hend, -⟩
        · have hplain : isPlain '"' = true := by decide
          simp [hend, hplain, ih, consChar]
        · simp [hend]
    · rw [writeEscaped_of_ne true run hc, List.append_assoc,
        (standsFor_escape true hc).readLongBasic_append, ih]
      rfl

theorem longBasicSize_writeEscaped (run : ℕ) (t : List Char) {r : List Char}
    (hr : r.head? ≠ some '"') :
    longBasicSize (writeEscaped true run t ++ '"' :: '"' :: '"' :: r)
      = (writeEscaped true run t).length + 3 := by
  induction t generalizing run with
  | nil =>
    have hend := closing?_append (s := []) (by simp) hr
    rw [List.nil_append] at hend
    rw [writeEscaped, List.nil_append, longBasicSize.eq_def]
    simp [hend]
  | cons c t ih =>
    by_cases hc : c = '"'
    · subst hc
      by_cases hthird : 2 ≤ run
      · rw [writeEscaped_quote_of_le hthird, List.append_assoc,
          (standsFor_quote true).longBasicSize_append, ih, List.length_append, Nat.add_assoc]
      · rw [writeEscaped_quote_of_lt (by omega), List.cons_append, longBasicSize_quote]
        rcases closing?_writeEscaped (Nat.lt_of_not_le hthird) (t := t) hr with hend | ⟨hend, hself⟩
        · rw [hend, ih, List.length_cons]
        · rw [hend, hself]
    · rw [writeEscaped_of_ne true run hc, List.append_assoc,
        (standsFor_escape true hc).longBasicSize_append, ih, List.length_append, Nat.add_assoc]

/-! ### Written strings -/

/-- A string that is written without escapes consists of plain characters and line breaks. -/
theorem plain_of_not_needsEscape {c : Char} (h : needsEscape c = false) :
    isPlain c = true ∨ c = '\n' := by
  by_cases htab : c = '\t'
  · exact .inl (by rw [htab]; rfl)
  · by_cases hline : c = '\n'
    · exact .inr hline
    · simp [needsEscape, htab, hline] at h
      simp [isPlain, h]

/-- What a literal string is chosen for. -/
theorem formFor_literal {t : List Char} (h : formFor t = .literal) :
    ∀ c ∈ t, isPlain c = true ∧ c ≠ '\x27' := by
  have hchosen : t.any needsEscape = false ∧ longestRun '\x27' 0 0 t = 0 ∧
      t.contains '\n' = false := by
    simp only [formFor] at h
    split_ifs at h
    simp_all
  obtain ⟨hescapes, hmarks, hlines⟩ := hchosen
  intro c hc
  have hplain := plain_of_not_needsEscape (eq_false_of_ne_true (List.any_eq_false.mp hescapes c hc))
  have hline : c ≠ '\n' := by
    rintro rfl
    simp [hc] at hlines
  refine ⟨hplain.resolve_right hline, ?_⟩
  rintro rfl
  exact not_replicate_infix (Nat.le_of_eq hmarks) (List.singleton_infix_iff _ _ |>.mpr hc)

/-- What a literal string of several lines is chosen for. -/
theorem formFor_longLiteral {t : List Char} (h : formFor t = .longLiteral) :
    (∀ c ∈ t, isPlain c = true ∨ c = '\n') ∧ ¬ ['\x27', '\x27', '\x27'] <:+: t := by
  have hchosen : t.any needsEscape = false ∧ longestRun '\x27' 0 0 t ≤ 2 := by
    simp only [formFor] at h
    split_ifs at h
    simp_all
  obtain ⟨hescapes, hmarks⟩ := hchosen
  refine ⟨fun c hc => ?_, not_replicate_infix hmarks⟩
  exact plain_of_not_needsEscape (eq_false_of_ne_true (List.any_eq_false.mp hescapes c hc))

/-- A mark, a text that does not start with it, and a mark again make no three marks. -/
theorem not_prefix_two_marks {m : Char} {s r : List Char} (hs : s.head? ≠ some m)
    (hr : r.head? ≠ some m) : ¬ [m, m] <+: s ++ m :: r := by
  cases s with
  | nil =>
    cases r with
    | nil => simp
    | cons d r => simpa [List.cons_prefix_cons, eq_comm] using hr
  | cons d s =>
    rw [List.cons_append, List.cons_prefix_cons]
    exact fun h => hs (by rw [List.head?_cons, h.1])

/-- One quotation mark opens a basic string of one line. -/
theorem string_quote {u : List Char} (h : ¬ ['"', '"'] <+: u) :
    stringSize? ('"' :: u) = some (basicSize u + 1) ∧
      readString? ('"' :: u) = readBasic .ready u := by
  rw [stringSize?.eq_def, readString?.eq_def]
  constructor
  · split
    next t heq => exact absurd ⟨t, (List.cons.inj heq).2.symm⟩ h
    next heq => exact absurd (List.cons.inj heq).1 (by decide)
    next heq => rw [(List.cons.inj heq).2]
    next heq => exact absurd (List.cons.inj heq).1 (by decide)
    next hquote _ => exact absurd rfl (hquote u)
  · split
    next t heq => exact absurd ⟨t, (List.cons.inj heq).2.symm⟩ h
    next heq => exact absurd (List.cons.inj heq).1 (by decide)
    next heq => rw [(List.cons.inj heq).2]
    next heq => exact absurd (List.cons.inj heq).1 (by decide)
    next hquote _ => exact absurd rfl (hquote u)

/-- One apostrophe opens a literal string of one line. -/
theorem string_apostrophe {u : List Char} (h : ¬ ['\x27', '\x27'] <+: u) :
    stringSize? ('\x27' :: u) = some (literalSize u + 1) ∧
      readString? ('\x27' :: u) = readLiteral u := by
  rw [stringSize?.eq_def, readString?.eq_def]
  constructor
  · split
    next heq => exact absurd (List.cons.inj heq).1 (by decide)
    next t heq => exact absurd ⟨t, (List.cons.inj heq).2.symm⟩ h
    next heq => exact absurd (List.cons.inj heq).1 (by decide)
    next heq => rw [(List.cons.inj heq).2]
    next hmark => exact absurd rfl (hmark u)
  · split
    next heq => exact absurd (List.cons.inj heq).1 (by decide)
    next t heq => exact absurd ⟨t, (List.cons.inj heq).2.symm⟩ h
    next heq => exact absurd (List.cons.inj heq).1 (by decide)
    next heq => rw [(List.cons.inj heq).2]
    next hmark => exact absurd rfl (hmark u)

/-- The inside of a basic string of one line does not start with a quotation mark. -/
theorem head?_writeEscaped_ne (t : List Char) : (writeEscaped false 0 t).head? ≠ some '"' := by
  cases t with
  | nil => simp [writeEscaped]
  | cons c t =>
    by_cases hc : c = '"'
    · rw [hc, writeEscaped_quote]
      simp
    · obtain ⟨d, v, hd, hne⟩ := (standsFor_escape false hc).head_ne (writeEscaped false 0 t)
      rw [writeEscaped_of_ne false 0 hc, hd, List.head?_cons]
      exact fun h => hne (Option.some.inj h)

/-- The line break behind the opening marks is left out again, if what follows does not start with
one. -/
theorem dropLineBreak_leadingBreak {t u : List Char}
    (h : '\n' ∉ t → ∀ c ∈ u.head?, c ≠ '\n' ∧ c ≠ '\r') :
    dropLineBreak (leadingBreak t ++ u) = u := by
  by_cases hline : '\n' ∈ t
  · rw [leadingBreak, if_pos (List.contains_iff_mem.mpr hline)]
    rfl
  · rw [leadingBreak, if_neg fun hc => hline (List.contains_iff_mem.mp hc), List.nil_append]
    cases u with
    | nil => rfl
    | cons c u =>
      obtain ⟨hfeed, hreturn⟩ := h hline c rfl
      rw [dropLineBreak.eq_def]
      split
      next heq => exact absurd (List.cons.inj heq).1 hfeed
      next heq => exact absurd (List.cons.inj heq).1 hreturn
      next => rfl

/-- The inside of a basic string of several lines starts with a line break only if the string holds
one. -/
theorem head?_writeEscaped_ne_break {t : List Char} (h : '\n' ∉ t) (u : List Char) :
    ∀ c ∈ (writeEscaped true 0 t ++ '"' :: u).head?, c ≠ '\n' ∧ c ≠ '\r' := by
  intro d hd
  cases t with
  | nil =>
    obtain rfl := Option.some.inj hd
    decide
  | cons c t =>
    by_cases hc : c = '"'
    · rw [hc, writeEscaped_quote_of_lt (by decide)] at hd
      obtain rfl := Option.some.inj hd
      decide
    · rw [writeEscaped_of_ne true 0 hc] at hd
      -- only a character that stands for itself could be a line break
      generalize hw : escape true c = w at hd
      cases hw ▸ standsFor_escape true hc with
      | self quote slash plain =>
        obtain rfl := Option.some.inj hd
        have hline : c ≠ '\n' := fun he => h (by simp [he])
        refine ⟨hline, ?_⟩
        rintro rfl
        rcases plain with plain | ⟨-, hfeed⟩
        · exact absurd plain (by decide)
        · exact absurd hfeed (by decide)
      | short escape =>
        obtain rfl := Option.some.inj hd
        decide
      | numeric digits high low =>
        obtain rfl := Option.some.inj hd
        decide

/-- **Written strings**: a string reaches as far as it was written, and says what it was written
for, unless a mark follows it. -/
theorem string_writeString (t : List Char) {r : List Char} (hquote : r.head? ≠ some '"')
    (hmark : r.head? ≠ some '\x27') :
    stringSize? (writeString t ++ r) = some (writeString t).length ∧
      readString? (writeString t ++ r) = some (t, r) := by
  cases hform : formFor t with
  | basic =>
    have htext : writeString t ++ r = '"' :: (writeEscaped false 0 t ++ '"' :: r) := by
      simp [writeString, hform]
    obtain ⟨hsize, hread⟩ := string_quote (not_prefix_two_marks (head?_writeEscaped_ne t) hquote)
    rw [htext, hsize, hread, basicSize_writeEscaped, readBasic_writeEscaped]
    simp [writeString, hform]
  | literal =>
    have htext : writeString t ++ r = '\x27' :: (t ++ '\x27' :: r) := by
      simp [writeString, hform]
    have hplain := formFor_literal hform
    have hhead : t.head? ≠ some '\x27' := fun h => (hplain _ (List.mem_of_mem_head? h)).2 rfl
    obtain ⟨hsize, hread⟩ := string_apostrophe (not_prefix_two_marks hhead hmark)
    rw [htext, hsize, hread, literalSize_append hplain, readLiteral_append hplain]
    simp [writeString, hform]
  | longBasic =>
    have htext : writeString t ++ r = '"' :: '"' :: '"' ::
        (leadingBreak t ++ (writeEscaped true 0 t ++ '"' :: '"' :: '"' :: r)) := by
      simp [writeString, hform]
    have hbreak :
        longBasicSize (leadingBreak t ++ (writeEscaped true 0 t ++ '"' :: '"' :: '"' :: r))
          = (leadingBreak t).length + ((writeEscaped true 0 t).length + 3) := by
      rw [← longBasicSize_writeEscaped 0 t hquote, leadingBreak]
      split
      · rw [List.singleton_append, longBasicSize_cons (by decide) (by decide), Nat.add_comm]
        rfl
      · rw [List.nil_append, List.length_nil, Nat.zero_add]
    rw [htext, stringSize?, readString?, hbreak,
      dropLineBreak_leadingBreak fun h => head?_writeEscaped_ne_break h _,
      readLongBasic_writeEscaped 0 t hquote]
    simp [writeString, hform]
  | longLiteral =>
    have htext : writeString t ++ r = '\x27' :: '\x27' :: '\x27' ::
        (leadingBreak t ++ (t ++ '\x27' :: '\x27' :: '\x27' :: r)) := by
      simp [writeString, hform]
    obtain ⟨hplain, hrun⟩ := formFor_longLiteral hform
    have hbreak : longLiteralSize (leadingBreak t ++ (t ++ '\x27' :: '\x27' :: '\x27' :: r))
        = (leadingBreak t).length + (t.length + 3) := by
      rw [← longLiteralSize_append hrun hmark, leadingBreak]
      split
      · rw [List.singleton_append, longLiteralSize, closing?_of_ne (by decide), Nat.add_comm]
        rfl
      · rw [List.nil_append, List.length_nil, Nat.zero_add]
    have hstart : '\n' ∉ t →
        ∀ c ∈ (t ++ '\x27' :: '\x27' :: '\x27' :: r).head?, c ≠ '\n' ∧ c ≠ '\r' := by
      intro hline d hd
      cases t with
      | nil =>
        obtain rfl := Option.some.inj hd
        decide
      | cons c t =>
        obtain rfl := Option.some.inj hd
        refine ⟨fun he => hline (by simp [he]), ?_⟩
        rintro rfl
        exact absurd (hplain '\r' (by simp)) (by decide)
    rw [htext, stringSize?, readString?, hbreak, dropLineBreak_leadingBreak hstart,
      readLongLiteral_append hplain hrun hmark]
    simp [writeString, hform]

end TableSchema.Toml
