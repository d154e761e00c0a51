import Mathlib.Data.List.DropRight
import Mathlib.Data.List.TakeWhile
import TableSchema.Text.Blank

/-!
# Trimming and reading words

Trimming takes away nothing but blanks, and what it leaves starts and ends with something else; the
word at the start of a text is its longest start without a blank.  Both are stated for texts put
together from parts, which is how statements and clauses come.

## Main definitions

* `Blank t` — the text consists of blanks.
* `Solid t` — the text has no blanks.
* `Trimmed t` — the text has no outer blanks.
* `StartsWith t w rest` — `w` is the word at the start of `t`, and `rest` follows.
* `words t` — the words of the text, in order.

## Main results

* `trim_pad` — blanks at the ends play no part in trimming.
* `exists_eq_pad_trim` — a text is its trimmed form between blanks.
* `trimmed_trim` — a trimmed text has no outer blanks.
* `word_append`, `afterWord_append` — reading a word off a text made of parts.
* `words_eq_cons` — the word at the start is the first of the words, and the others follow it.
-/

namespace TableSchema.Text

/-- The text consists of blanks. -/
def Blank (t : List Char) : Prop := ∀ c ∈ t, isBlank c = true

/-- The text has no blanks. -/
def Solid (t : List Char) : Prop := ∀ c ∈ t, isBlank c = false

/-- The text starts and ends with a character that is no blank, if it has any. -/
structure Trimmed (t : List Char) : Prop where
  /-- It does not start with a blank. -/
  head : ∀ c ∈ t.head?, isBlank c = false
  /-- It does not end with a blank. -/
  last : ∀ c ∈ t.getLast?, isBlank c = false

instance : DecidablePred Blank := fun t =>
  decidable_of_iff (t.all isBlank = true) List.all_eq_true

instance : DecidablePred Solid := fun t =>
  decidable_of_iff (t.all (!isBlank ·) = true) (by simp [Solid])

@[simp] theorem blank_nil : Blank [] := by simp [Blank]

@[simp] theorem blank_append {s t : List Char} : Blank (s ++ t) ↔ Blank s ∧ Blank t :=
  List.forall_mem_append

@[simp] theorem solid_nil : Solid [] := by simp [Solid]

@[simp] theorem solid_append {s t : List Char} : Solid (s ++ t) ↔ Solid s ∧ Solid t :=
  List.forall_mem_append

@[simp] theorem solid_cons {c : Char} {t : List Char} :
    Solid (c :: t) ↔ isBlank c = false ∧ Solid t :=
  List.forall_mem_cons

/-- A character that is no blank is not in a blank text. -/
theorem Blank.notMem {t : List Char} (h : Blank t) {c : Char} (hc : isBlank c = false) : c ∉ t :=
  fun hm => Bool.false_ne_true (hc.symm.trans (h c hm))

/-- A text without blanks lacks each of them. -/
theorem Solid.notMem {t : List Char} (h : Solid t) {c : Char} (hc : isBlank c = true) : c ∉ t := by
  intro hmem
  have hsolid := h c hmem
  rw [hc] at hsolid
  exact absurd hsolid (by decide)

/-- A text without blanks has none at its ends. -/
theorem Solid.trimmed {t : List Char} (h : Solid t) : Trimmed t where
  head c hc := h c (List.mem_of_mem_head? hc)
  last c hc := h c (List.mem_of_mem_getLast? hc)

/-! ### Trimming -/

theorem trimStart_eq_nil_iff {t : List Char} : trimStart t = [] ↔ Blank t :=
  List.dropWhile_eq_nil_iff

theorem trimStart_append_of_blank {s : List Char} (hs : Blank s) (t : List Char) :
    trimStart (s ++ t) = trimStart t :=
  List.dropWhile_append_of_pos hs

theorem trimEnd_append_of_blank {t : List Char} (ht : Blank t) (s : List Char) :
    trimEnd (s ++ t) = trimEnd s := by
  rw [trimEnd, List.reverse_append, List.dropWhile_append_of_pos fun c hc =>
    ht c (List.mem_reverse.mp hc), ← trimEnd]

/-- What follows a text that is not blank survives the trimming of its start. -/
theorem trimStart_append_of_not_blank {s : List Char} (hs : ¬ Blank s) (t : List Char) :
    trimStart (s ++ t) = trimStart s ++ t := by
  have hne : (s.dropWhile isBlank).isEmpty ≠ true := fun h =>
    hs (trimStart_eq_nil_iff.mp (List.isEmpty_iff.mp h))
  rw [trimStart, List.dropWhile_append, if_neg hne, trimStart]

theorem trim_of_blank {t : List Char} (h : Blank t) : trim t = [] := by
  rw [trim, trimStart_eq_nil_iff.mpr h, trimEnd_nil]

/-- **Blanks at the ends play no part in trimming.** -/
theorem trim_pad {l r : List Char} (hl : Blank l) (hr : Blank r) (t : List Char) :
    trim (l ++ t ++ r) = trim t := by
  rw [List.append_assoc, trim, trimStart_append_of_blank hl]
  by_cases ht : Blank t
  · have h : Blank (t ++ r) := blank_append.mpr ⟨ht, hr⟩
    rw [trim_of_blank ht, trimStart_eq_nil_iff.mpr h, trimEnd_nil]
  · rw [trimStart_append_of_not_blank ht, trimEnd_append_of_blank hr, trim]

/-- The start of a text is its blanks and the rest. -/
theorem exists_eq_append_trimStart (t : List Char) : ∃ l, Blank l ∧ t = l ++ trimStart t :=
  ⟨t.takeWhile isBlank, fun _ hc => List.mem_takeWhile_imp hc,
    List.takeWhile_append_dropWhile.symm⟩

/-- The end of a text is its blanks behind the rest. -/
theorem exists_eq_trimEnd_append (t : List Char) : ∃ r, Blank r ∧ t = trimEnd t ++ r :=
  ⟨t.rtakeWhile isBlank, fun _ hc => List.mem_rtakeWhile_imp hc,
    List.rdropWhile_append_rtakeWhile.symm⟩

/-- **A text is its trimmed form between blanks.** -/
theorem exists_eq_pad_trim (t : List Char) :
    ∃ l r, Blank l ∧ Blank r ∧ t = l ++ trim t ++ r := by
  obtain ⟨l, hl, hlt⟩ := exists_eq_append_trimStart t
  obtain ⟨r, hr, hrt⟩ := exists_eq_trimEnd_append (trimStart t)
  refine ⟨l, r, hl, hr, ?_⟩
  rw [List.append_assoc, trim, ← hrt, ← hlt]

theorem trim_eq_nil_iff {t : List Char} : trim t = [] ↔ Blank t := by
  refine ⟨fun h => ?_, trim_of_blank⟩
  obtain ⟨l, r, hl, hr, ht⟩ := exists_eq_pad_trim t
  rw [ht, h, List.append_nil, blank_append]
  exact ⟨hl, hr⟩

theorem trim_isInfix (t : List Char) : trim t <:+: t := by
  obtain ⟨l, r, -, -, ht⟩ := exists_eq_pad_trim t
  exact ⟨l, r, ht.symm⟩

theorem mem_of_mem_trim {c : Char} {t : List Char} (h : c ∈ trim t) : c ∈ t :=
  (trim_isInfix t).subset h

/-- Trimming keeps all that is no blank. -/
theorem mem_trim {c : Char} {t : List Char} (h : c ∈ t) (hc : isBlank c = false) : c ∈ trim t := by
  obtain ⟨l, r, hl, hr, ht⟩ := exists_eq_pad_trim t
  rw [ht, List.mem_append, List.mem_append] at h
  rcases h with (h | h) | h
  · exact absurd h (hl.notMem hc)
  · exact h
  · exact absurd h (hr.notMem hc)

/-- A text that does not start with a blank loses nothing at its start. -/
theorem trimStart_eq_self {t : List Char} (h : ∀ c ∈ t.head?, isBlank c = false) :
    trimStart t = t := by
  cases t with
  | nil => rfl
  | cons c t => rw [trimStart_cons, h c rfl, if_neg Bool.false_ne_true]

/-- A text that does not end with a blank loses nothing at its end. -/
theorem trimEnd_eq_self {t : List Char} (h : ∀ c ∈ t.getLast?, isBlank c = false) :
    trimEnd t = t := by
  refine List.rdropWhile_eq_self_iff.mpr fun hne => ?_
  simpa using h _ (List.getLast?_eq_some_getLast hne)

/-- A trimmed start is no blank. -/
theorem isBlank_of_mem_head?_trimStart {t : List Char} :
    ∀ c ∈ (trimStart t).head?, isBlank c = false := by
  intro c hc
  have h := List.head?_dropWhile_not isBlank t
  rw [trimStart] at hc
  rwa [Option.mem_def.mp hc] at h

/-- A trimmed end is no blank. -/
theorem isBlank_of_mem_getLast?_trimEnd {t : List Char} :
    ∀ c ∈ (trimEnd t).getLast?, isBlank c = false := by
  intro c hc
  have hne : trimEnd t ≠ [] := fun h => by simp [h] at hc
  rw [List.getLast?_eq_some_getLast hne, Option.mem_some_iff] at hc
  rw [← hc]
  exact eq_false_of_ne_true (List.rdropWhile_last_not isBlank t hne)

/-- **A trimmed text has no outer blanks.** -/
theorem trimmed_trim (t : List Char) : Trimmed (trim t) where
  head := by
    intro c hc
    refine isBlank_of_mem_head?_trimStart (t := t) c ?_
    -- the start of the trimmed text is where trimming the start has stopped
    obtain ⟨r, -, hrt⟩ := exists_eq_trimEnd_append (trimStart t)
    rw [trim] at hc
    rw [hrt, List.head?_append, Option.mem_def.mp hc]
    rfl
  last := isBlank_of_mem_getLast?_trimEnd

theorem Trimmed.trim_eq {t : List Char} (h : Trimmed t) : trim t = t := by
  rw [trim, trimStart_eq_self h.head, trimEnd_eq_self h.last]

theorem trimmed_iff_trim_eq {t : List Char} : Trimmed t ↔ trim t = t :=
  ⟨Trimmed.trim_eq, fun h => h ▸ trimmed_trim t⟩

instance : DecidablePred Trimmed := fun _ => decidable_of_iff' _ trimmed_iff_trim_eq

@[simp] theorem trim_trim (t : List Char) : trim (trim t) = trim t := (trimmed_trim t).trim_eq

/-- Behind a text without outer blanks only the end is trimmed. -/
theorem Trimmed.trim_append {s : List Char} (hs : Trimmed s) (hne : s ≠ []) (t : List Char) :
    trim (s ++ t) = s ++ trimEnd t := by
  have hstart : trimStart (s ++ t) = s ++ t := by
    refine trimStart_eq_self fun c hc => hs.head c ?_
    cases s with
    | nil => exact absurd rfl hne
    | cons d s => exact hc
  have hend : trimEnd (s ++ trimEnd t) = s ++ trimEnd t := by
    refine trimEnd_eq_self fun c hc => ?_
    rw [List.getLast?_append] at hc
    cases ht : (trimEnd t).getLast? with
    | none => exact hs.last c (by simpa [ht] using hc)
    | some d => exact isBlank_of_mem_getLast?_trimEnd (t := t) c (by simpa [ht] using hc)
  obtain ⟨r, hr, hrt⟩ := exists_eq_trimEnd_append t
  calc trim (s ++ t) = trimEnd (s ++ trimEnd t ++ r) := by
        rw [trim, hstart, List.append_assoc, ← hrt]
    _ = trimEnd (s ++ trimEnd t) := trimEnd_append_of_blank hr _
    _ = s ++ trimEnd t := hend

/-- A text is trimmed when it starts and ends with texts that are. -/
theorem Trimmed.append_append {s t : List Char} (hs : Trimmed s) (hsne : s ≠ []) (ht : Trimmed t)
    (htne : t ≠ []) (m : List Char) : Trimmed (s ++ (m ++ t)) where
  head := by
    intro c hc
    rw [List.head?_append_of_ne_nil s hsne] at hc
    exact hs.head c hc
  last := by
    intro c hc
    rw [← List.append_assoc, List.getLast?_append_of_ne_nil _ htne] at hc
    exact ht.last c hc

/-! ### Words -/

theorem solid_word (t : List Char) : Solid (word t) := by
  intro c hc
  simpa using List.mem_takeWhile_imp hc

/-- A word starts where the text starts. -/
theorem mem_head?_word {t : List Char} {c : Char} (h : c ∈ (word t).head?) :
    c ∈ t.head? ∧ isBlank c = false := by
  refine ⟨?_, solid_word t c (List.mem_of_mem_head? h)⟩
  rw [← word_append_dropWhile t, List.head?_append, Option.mem_def.mp h]
  rfl

/-- The word at the start of a text ends where a blank comes. -/
theorem word_append {s t : List Char} (hs : Solid s) (ht : ∀ c ∈ t.head?, isBlank c = true) :
    word (s ++ t) = s := by
  rw [word, List.takeWhile_append_of_pos fun c hc => by simp [hs c hc]]
  cases t with
  | nil => simp
  | cons c t => simp [ht c rfl]

theorem dropWhile_append {s t : List Char} (hs : Solid s)
    (ht : ∀ c ∈ t.head?, isBlank c = true) :
    (s ++ t).dropWhile (fun c => !isBlank c) = t := by
  rw [List.dropWhile_append_of_pos fun c hc => by simp [hs c hc]]
  cases t with
  | nil => rfl
  | cons c t => simp [ht c rfl]

/-- Behind the word, the blanks are read as well. -/
theorem afterWord_append {s t : List Char} (hs : Solid s)
    (ht : ∀ c ∈ t.head?, isBlank c = true) : afterWord (s ++ t) = trimStart t := by
  rw [afterWord, dropWhile_append hs ht]

theorem afterWord_suffix (t : List Char) : afterWord t <:+ t :=
  (List.dropWhile_suffix _).trans (List.dropWhile_suffix _)

/-- A text is its first word, and a rest that starts with a blank if there is any. -/
theorem exists_eq_word_append (t : List Char) :
    ∃ r, t = word t ++ r ∧ ∀ c ∈ r.head?, isBlank c = true := by
  refine ⟨_, (word_append_dropWhile t).symm, fun c hc => ?_⟩
  have h := List.head?_dropWhile_not (fun c => !isBlank c) t
  rw [Option.mem_def.mp hc] at h
  simpa using h

/-- The text starts with this word, which goes up to the first blank, and `rest` follows. -/
structure StartsWith (t w rest : List Char) : Prop where
  /-- The word and the rest make up the text. -/
  text : t = w ++ rest
  /-- The word has no blanks. -/
  solid : Solid w
  /-- The word ends where a blank comes. -/
  maximal : ∀ c ∈ rest.head?, isBlank c = true

theorem startsWith_word (t : List Char) : ∃ rest, StartsWith t (word t) rest := by
  obtain ⟨rest, ht, hrest⟩ := exists_eq_word_append t
  exact ⟨rest, ht, solid_word t, hrest⟩

theorem StartsWith.word_eq {t w rest : List Char} (h : StartsWith t w rest) : word t = w := by
  rw [h.text, word_append h.solid h.maximal]

theorem StartsWith.afterWord_eq {t w rest : List Char} (h : StartsWith t w rest) :
    afterWord t = trimStart rest := by
  rw [h.text, afterWord_append h.solid h.maximal]

/-- A text that starts with no blank starts with a word. -/
theorem word_ne_nil {t : List Char} (hne : t ≠ []) (h : ∀ c ∈ t.head?, isBlank c = false) :
    word t ≠ [] := by
  cases t with
  | nil => exact absurd rfl hne
  | cons c t =>
    rw [word_cons, h c rfl, if_neg Bool.false_ne_true]
    exact List.cons_ne_nil _ _

theorem word_of_solid {t : List Char} (h : Solid t) : word t = t := by
  simpa using word_append h (t := []) (by simp)

/-! ### All words -/

/-- The words of a text: its longest pieces without blanks, in order. -/
def words (t : List Char) : List (List Char) :=
  (t.splitOnP isBlank).filter (· ≠ [])

@[simp] theorem words_nil : words [] = [] := by simp [words]

/-- A blank parts the words. -/
theorem words_append_cons {c : Char} (hc : isBlank c = true) (s t : List Char) :
    words (s ++ c :: t) = words s ++ words t := by
  rw [words, List.splitOnP_append_cons s t hc, List.filter_append, ← words, ← words]

theorem words_append_of_blank {s : List Char} (hs : Blank s) (t : List Char) :
    words (s ++ t) = words t := by
  induction s with
  | nil => rfl
  | cons c s ih =>
    obtain ⟨hc, hs⟩ := List.forall_mem_cons.mp hs
    have h := words_append_cons hc [] (s ++ t)
    rw [words_nil, List.nil_append, List.nil_append] at h
    rw [List.cons_append, h, ih hs]

theorem words_trimStart (t : List Char) : words (trimStart t) = words t := by
  obtain ⟨l, hl, hlt⟩ := exists_eq_append_trimStart t
  conv_rhs => rw [hlt, words_append_of_blank hl]

theorem words_of_solid {t : List Char} (h : Solid t) (hne : t ≠ []) : words t = [t] := by
  rw [words, List.splitOnP_eq_singleton h]
  simp [hne]

/-- A text without blanks that a gap follows is a word of its own. -/
theorem words_append_gap {w gap : List Char} (hw : Solid w) (hne : w ≠ []) (hgap : Blank gap)
    (hgne : gap ≠ []) (t : List Char) : words (w ++ (gap ++ t)) = w :: words t := by
  cases gap with
  | nil => exact absurd rfl hgne
  | cons c gap =>
    obtain ⟨hc, hgap⟩ := List.forall_mem_cons.mp hgap
    rw [List.cons_append, words_append_cons hc, words_of_solid hw hne, words_append_of_blank hgap,
      List.singleton_append]

/-- **The first word and the others**: a text that starts with no blank has the word at its start,
and then the words behind it. -/
theorem words_eq_cons {t : List Char} (hne : t ≠ []) (h : ∀ c ∈ t.head?, isBlank c = false) :
    words t = word t :: words (afterWord t) := by
  obtain ⟨r, ht, hr⟩ := exists_eq_word_append t
  have hword : word t ≠ [] := word_ne_nil hne h
  have hafter : afterWord t = trimStart r := by
    conv_lhs => rw [ht, afterWord_append (solid_word t) hr]
  rw [hafter, words_trimStart]
  cases r with
  | nil =>
    rw [List.append_nil] at ht
    rw [words_nil, ht, word_of_solid (solid_word t)]
    exact words_of_solid (solid_word t) hword
  | cons c r =>
    have hc : isBlank c = true := hr c rfl
    have h₂ := words_append_cons hc [] r
    rw [words_nil, List.nil_append, List.nil_append] at h₂
    conv_lhs => rw [ht, words_append_cons hc, words_of_solid (solid_word t) hword]
    rw [h₂, List.singleton_append]

/-- A text without blanks is the start of the first word. -/
theorem words_solid_append {w : List Char} (hw : Solid w) (hne : w ≠ []) (t : List Char) :
    words (w ++ t) = (w ++ word t) :: words (afterWord (w ++ t)) := by
  have hhead : ∀ c ∈ (w ++ t).head?, isBlank c = false := by
    rw [List.head?_append_of_ne_nil w hne]
    exact hw.trimmed.head
  have hword : word (w ++ t) = w ++ word t := by
    rw [word, List.takeWhile_append_of_pos fun c hc => by simp [hw c hc], ← word]
  rw [words_eq_cons (List.append_ne_nil_of_left_ne_nil hne t) hhead, hword]

/-- The first word of a text, or nothing. -/
def firstWord (t : List Char) : List Char := (words t).headD []

/-- The second word of a text, or nothing. -/
def secondWord (t : List Char) : List Char := (words t).tail.headD []

theorem words_trim (t : List Char) : words (trim t) = words t := by
  obtain ⟨r, hr, hrt⟩ := exists_eq_trimEnd_append (trimStart t)
  have hend : words (trimStart t) = words (trim t) := by
    cases r with
    | nil => rw [trim, ← List.append_nil (trimEnd _), ← hrt]
    | cons c r =>
      have hc : isBlank c = true := hr c List.mem_cons_self
      have hr' : words r = [] := by
        have := words_append_of_blank (fun x hx => hr x (List.mem_cons_of_mem c hx)) []
        rwa [List.append_nil, words_nil] at this
      conv_lhs => rw [hrt, words_append_cons hc, hr', List.append_nil]
      rw [trim]
  rw [← hend, words_trimStart]

/-- The words of a text that is not blank are read one by one. -/
theorem firstWord_eq {t : List Char} (h : ¬ Blank t) : firstWord t = word (trim t) := by
  rw [firstWord, ← words_trim, words_eq_cons (mt trim_eq_nil_iff.mp h) (trimmed_trim t).head]
  rfl

/-- Blanks at its end do not change the word at the start of a text. -/
theorem word_trim {t : List Char} (h : ∀ c ∈ t.head?, isBlank c = false) :
    word (trim t) = word t := by
  cases t with
  | nil => rfl
  | cons c t =>
    have hblank : ¬ Blank (c :: t) := by
      intro hblank
      have hc := h c rfl
      rw [hblank c List.mem_cons_self] at hc
      exact absurd hc (by decide)
    rw [← firstWord_eq hblank, firstWord, words_eq_cons (List.cons_ne_nil c t) h]
    rfl

theorem secondWord_eq {t : List Char} (h : ¬ Blank t) :
    secondWord t = word (afterWord (trim t)) := by
  rw [secondWord, ← words_trim, words_eq_cons (mt trim_eq_nil_iff.mp h) (trimmed_trim t).head,
    List.tail_cons]
  by_cases hne : afterWord (trim t) = []
  · rw [hne, words_nil, word_nil]
    rfl
  · rw [words_eq_cons hne isBlank_of_mem_head?_trimStart]
    rfl

end TableSchema.Text
