import TableSchema.Proofs.Text.Window

/-!
# Reading word by word

A word is read together with the gap behind it.  So a cursor that does not stand before a gap never
comes to stand before one, and reading word by word, until nothing is left, gives all words of the
text.  The length of the gap is a difference of two numbers of bytes; on windows the same happens.

## Main definitions

* `Spaced t ws` — the text `t` consists of the words `ws` with gaps around them.
* `Cursor.readWords?`, `Window.readWords?` — reading word by word.

## Main results

* `spaced_iff` — `words` gives the words that a text consists of.
* `Cursor.words_unread_eq_cons` — the word that is read is the first, and the others are left.
* `Cursor.reads_words` — **what reading a word leaves, and what reading word by word gives.**
-/

namespace TableSchema.Text

open Cursor (Answer Move)

/-! ### The words of a text -/

/-- The text consists of these words with gaps around them.  Only the gaps at its ends may be
empty, so that no word can be any longer. -/
inductive Spaced : List Char → List (List Char) → Prop
  /-- A gap has no words. -/
  | gap {g : List Char} (blank : Blank g) : Spaced g []
  /-- A word follows a gap, and a blank follows the word unless it ends the text. -/
  | word {g w t : List Char} {ws : List (List Char)} (blank : Blank g) (solid : Solid w)
    (ne : w ≠ []) (ends : ∀ c ∈ t.head?, isBlank c = true) (rest : Spaced t ws) :
    Spaced (g ++ (w ++ t)) (w :: ws)

theorem words_of_blank {g : List Char} (h : Blank g) : words g = [] := by
  have hwords := words_append_of_blank h []
  rwa [List.append_nil, words_nil] at hwords

/-- A word that ends where a blank comes is the first of the words. -/
theorem words_append_of_ends {w t : List Char} (hw : Solid w) (hne : w ≠ [])
    (ht : ∀ c ∈ t.head?, isBlank c = true) : words (w ++ t) = w :: words t := by
  cases t with
  | nil => rw [List.append_nil, words_nil, words_of_solid hw hne]
  | cons c t =>
    have hc : Blank [c] := by
      intro x hx
      rw [List.mem_singleton.mp hx]
      exact ht c rfl
    have hrest : words (c :: t) = words t := words_append_of_blank hc t
    rw [hrest]
    exact words_append_gap hw hne hc (List.cons_ne_nil c []) t

/-- A text that is not blank starts with a gap, its first word, and a rest with the other words. -/
theorem exists_eq_gap_append {t : List Char} (h : ¬ Blank t) :
    ∃ g w r, t = g ++ (w ++ r) ∧ Blank g ∧ Solid w ∧ w ≠ [] ∧
      ∀ c ∈ r.head?, isBlank c = true := by
  obtain ⟨g, hg, hgt⟩ := exists_eq_append_trimStart t
  obtain ⟨r, hr, hends⟩ := exists_eq_word_append (trimStart t)
  have hne : trimStart t ≠ [] := mt trimStart_eq_nil_iff.mp h
  refine ⟨g, word (trimStart t), r, ?_, hg, solid_word _, ?_, hends⟩
  · rw [← hr, ← hgt]
  · exact word_ne_nil hne isBlank_of_mem_head?_trimStart

/-- **The words of a text are those that it consists of**, in order. -/
theorem spaced_iff {t : List Char} {ws : List (List Char)} : Spaced t ws ↔ words t = ws := by
  constructor
  · intro h
    induction h with
    | gap blank => exact words_of_blank blank
    | word blank solid ne ends _ ih =>
      rw [words_append_of_blank blank, words_append_of_ends solid ne ends, ih]
  · rintro rfl
    induction hlen : t.length using Nat.strong_induction_on generalizing t with
    | _ n ih =>
      by_cases hblank : Blank t
      · rw [words_of_blank hblank]
        exact .gap hblank
      · obtain ⟨g, w, r, rfl, hg, hw, hne, hends⟩ := exists_eq_gap_append hblank
        have hshort : r.length < n := by
          have hpos := List.length_pos_iff.mpr hne
          rw [← hlen, List.length_append, List.length_append]
          omega
        rw [words_append_of_blank hg, words_append_of_ends hw hne hends]
        exact .word hg hw hne hends (ih r.length hshort rfl)

theorem ne_nil_of_mem_words {t w : List Char} (h : w ∈ words t) : w ≠ [] := by
  rw [words, List.mem_filter, decide_eq_true_eq] at h
  exact h.2

/-! ### Reading a word -/

namespace Cursor

theorem unread_skipWord (c : Cursor) : c.skipWord.unread = afterWord c.unread := by
  obtain ⟨gap, hgap⟩ : ∃ gap, c.unread = gap ++ afterWord c.unread := by
    obtain ⟨l, -, hl⟩ := exists_eq_append_trimStart (c.unread.dropWhile fun d => !isBlank d)
    refine ⟨word c.unread ++ l, ?_⟩
    rw [List.append_assoc, afterWord, ← hl, word_append_dropWhile]
  rw [Window.skipWord_eq c hgap rfl, unread_advance]
  exact (congrArg (List.drop _) hgap).trans List.drop_left

/-- The cursor does not stand before a gap. -/
def AtWord (c : Cursor) : Prop := ∀ x ∈ c.unread.head?, isBlank x = false

/-- **Behind a word no gap is left.** -/
theorem atWord_skipWord (c : Cursor) : c.skipWord.AtWord := by
  rw [AtWord, unread_skipWord]
  exact isBlank_of_mem_head?_trimStart

/-- The word and the gap that are read.  Without a gap there is no blank at all. -/
theorem exists_unread_eq (c : Cursor) :
    ∃ gap, c.unread = word c.unread ++ (gap ++ c.skipWord.unread) ∧ Blank gap ∧
      (gap = [] → Solid c.unread) := by
  obtain ⟨r, hr, hends⟩ := exists_eq_word_append c.unread
  obtain ⟨gap, hgap, hrest⟩ := exists_eq_append_trimStart r
  have hafter : c.skipWord.unread = trimStart r := by
    rw [unread_skipWord]
    conv_lhs => rw [hr, afterWord_append (solid_word _) hends]
  refine ⟨gap, ?_, hgap, ?_⟩
  · rw [hafter, ← hrest, ← hr]
  · rintro rfl
    -- the rest would start with a blank, but it loses nothing when its start is trimmed
    rw [List.nil_append] at hrest
    cases r with
    | nil =>
      rw [hr, List.append_nil]
      exact solid_word _
    | cons x r =>
      have hx : isBlank x = false := by
        apply isBlank_of_mem_head?_trimStart (t := x :: r)
        rw [← hrest]
        rfl
      exact absurd (hx.symm.trans (hends x rfl)) (by decide)

/-- There is no word where nothing is left, or a gap comes first. -/
theorem word_unread_eq_nil_iff (c : Cursor) :
    word c.unread = [] ↔ c.unread = [] ∨ ∃ x ∈ c.unread.head?, isBlank x = true := by
  cases hunread : c.unread with
  | nil => simp
  | cons x r =>
    rw [word_cons]
    cases hx : isBlank x with
    | true => simp [hx]
    | false => simp [hx]

/-- **The word that is read is the first of the words**, and the others are left. -/
theorem words_unread_eq_cons {c : Cursor} (h : c.AtWord) (hne : c.unread ≠ []) :
    words c.unread = word c.unread :: words c.skipWord.unread := by
  rw [unread_skipWord]
  exact words_eq_cons hne h

/-! ### Reading word by word -/

/-- The cursor behind everything that is unread. -/
def finish (c : Cursor) : Cursor := c.advance c.unread.length

@[simp] theorem unread_finish (c : Cursor) : c.finish.unread = [] := List.drop_length

theorem finish_of_unread_eq_nil {c : Cursor} (h : c.unread = []) : c.finish = c := by
  obtain ⟨before, unread, after⟩ := c
  subst h
  simp [finish, advance]

/-- Who reads a part first comes to the same end. -/
theorem finish_advance (n : ℕ) (c : Cursor) : (c.advance n).finish = c.finish := by
  have hread : c.unread.take n ++ (c.unread.drop n).take (c.unread.drop n).length = c.unread := by
    rw [List.take_length, List.take_append_drop]
  have hbefore : (c.advance n).finish.before = c.finish.before := by
    unfold finish advance
    rw [List.append_assoc, hread, List.take_length]
  have hunread : (c.advance n).finish.unread = c.finish.unread := by simp
  rw [mk.injEq]
  exact ⟨hbefore, hunread, rfl⟩

/-- Reads word by word until nothing is left, which is looked for at most `turns` times. -/
def readWords? : (turns : ℕ) → Cursor → Option (List Answer × Cursor)
  | 0, _ => none
  | turns + 1, c =>
    if c.isEmpty then some ([], c)
    else
      let (a, d) := c.run .readWord
      (readWords? turns d).map fun r => (a :: r.1, r.2)

end Cursor

/-- Reads word by word until nothing is left, which is looked for at most `turns` times. -/
def Window.readWords? : (turns : ℕ) → Window → Option (List (List Char) × Window)
  | 0, _ => none
  | turns + 1, w =>
    if w.isEmpty then some ([], w)
    else do
      let (token, w) ← w.readWord?
      let (tokens, w) ← w.readWords? turns
      return (token :: tokens, w)

namespace Cursor

theorem isEmpty_window (c : Cursor) : c.window.isEmpty = c.isEmpty := by
  rw [Bool.eq_iff_iff, Window.isEmpty_iff c.remaining?_window, isEmpty, List.isEmpty_iff]

/-- **Reading word by word gives all words**, in a turn for each and one more. -/
theorem readWords?_eq {c : Cursor} (h : c.AtWord) {turns : ℕ}
    (hturns : (words c.unread).length < turns) :
    c.readWords? turns = some ((words c.unread).map .piece, c.finish) ∧
      c.window.readWords? turns = some (words c.unread, c.finish.window) := by
  induction turns generalizing c with
  | zero => exact absurd hturns (Nat.not_lt_zero _)
  | succ turns ih =>
    rw [readWords?, Window.readWords?, isEmpty_window, isEmpty]
    by_cases hne : c.unread = []
    · rw [finish_of_unread_eq_nil hne, hne]
      exact ⟨rfl, rfl⟩
    · -- a word is read, and the cursor behind it does not stand before a gap either
      rw [words_unread_eq_cons h hne, List.length_cons] at hturns
      obtain ⟨hrest, hwindow⟩ := ih c.atWord_skipWord (Nat.lt_of_succ_lt_succ hturns)
      have hend : c.skipWord.finish = c.finish := finish_advance _ c
      have hstep : c.run .readWord = (.piece (word c.unread), c.skipWord) := rfl
      have hmore : ¬ c.unread.isEmpty = true := by rwa [List.isEmpty_iff]
      rw [if_neg hmore, if_neg hmore, words_unread_eq_cons h hne, ← hend, hstep,
        Window.readWord?_window]
      simp only [Option.bind_eq_bind, Option.bind_some, hrest, hwindow]
      exact ⟨rfl, rfl⟩

/-- **What reading a word leaves, and what reading word by word gives.**  A word is read and the gap
behind it; what is left does not start with a blank, and the gap is empty only where no blank is
unread.  There is no word only where nothing is unread or a blank comes first.  So a cursor that
stands before no blank reads exactly the words that the unread text consists of, in order, in a turn
for each, and then finds nothing left.  On windows the same happens. -/
theorem reads_words (c : Cursor) :
    (∃ token gap, (c.run .readWord).1 = .piece token ∧
      c.unread = token ++ (gap ++ (c.run .readWord).2.unread) ∧ Solid token ∧ Blank gap ∧
      (∀ x ∈ (c.run .readWord).2.unread.head?, isBlank x = false) ∧
      (gap = [] → Solid c.unread) ∧
      (token = [] ↔ c.unread = [] ∨ ∃ x ∈ c.unread.head?, isBlank x = true)) ∧
    c.window.run? .readWord = some ((c.run .readWord).1, (c.run .readWord).2.window) ∧
    ((∀ x ∈ c.unread.head?, isBlank x = false) → ∃ ws d, Spaced c.unread ws ∧ [] ∉ ws ∧
      d.isEmpty = true ∧
      ∀ turns, ws.length < turns → c.readWords? turns = some (ws.map .piece, d) ∧
        c.window.readWords? turns = some (ws, d.window)) := by
  refine ⟨?_, Window.run?_window c .readWord, ?_⟩
  · obtain ⟨gap, hunread, hgap, hsolid⟩ := c.exists_unread_eq
    exact ⟨word c.unread, gap, rfl, hunread, solid_word _, hgap, c.atWord_skipWord, hsolid,
      c.word_unread_eq_nil_iff⟩
  · intro h
    refine ⟨words c.unread, c.finish, spaced_iff.mpr rfl, ?_, ?_, ?_⟩
    · intro hmem
      exact ne_nil_of_mem_words hmem rfl
    · rw [isEmpty, unread_finish]
      rfl
    · intro turns hturns
      exact readWords?_eq h hturns

/-- Between two words a blank of three bytes, and behind them a blank of two. -/
theorem reads_words_between_wide_blanks :
    let c : Cursor := ⟨"x ".toList, "né\u3000 INT\u0085".toList, ")".toList⟩
    (∀ x ∈ c.unread.head?, isBlank x = false) ∧
      c.readWords? 3 = some ([.piece "né".toList, .piece "INT".toList],
        ⟨"x né\u3000 INT\u0085".toList, [], ")".toList⟩) ∧
      c.window.readWords? 3 = some (["né".toList, "INT".toList], ⟨c.text, 14, 14⟩) := by
  intro c
  have h : ∀ x ∈ c.unread.head?, isBlank x = false := by
    intro x hx
    have hhead : c.unread.head? = some 'n' := by decide
    rw [hhead] at hx
    obtain rfl := Option.some.inj hx
    decide
  obtain ⟨-, -, hall⟩ := reads_words c
  obtain ⟨ws, d, hspaced, -, -, hturns⟩ := hall h
  have hws : ws = ["né".toList, "INT".toList] := (spaced_iff.mp hspaced).symm.trans (by decide)
  subst hws
  obtain ⟨hcursor, hwindow⟩ := hturns 3 (by decide)
  have hread : c.readWords? 3 = some ([.piece "né".toList, .piece "INT".toList],
      ⟨"x né\u3000 INT\u0085".toList, [], ")".toList⟩) := by decide
  have hend : d = ⟨"x né\u3000 INT\u0085".toList, [], ")".toList⟩ :=
    congrArg Prod.snd (Option.some.inj (hcursor.symm.trans hread))
  rw [hend] at hwindow
  exact ⟨h, hread, hwindow.trans (by decide)⟩

end Cursor

end TableSchema.Text
