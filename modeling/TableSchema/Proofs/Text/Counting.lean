import Mathlib.Algebra.GroupWithZero.Nat
import TableSchema.Proofs.Text.Window

/-!
# Cutting by a number of characters

Reading a number of characters and abbreviating to it cut a text at the same place.  On windows that
place is a number of bytes, which is found by walking along the characters; where the walk comes to
the end of the text, the count may be just right or too large, and only in one of these cases is
there anything to leave out.

## Main results

* `Cursor.advance_advance`, `Cursor.runAll_skipChars` — counts add up.
* `exists_of_abbreviate`, `abbreviate_of_length_le` — the two forms of an abbreviation.
* `Cursor.cuts_by_count` — **reading and abbreviating cut at the same place.**
-/

namespace TableSchema.Text

open Cursor (Answer Move)

/-! ### Abbreviations -/

theorem abbreviate_of_length_le {n : ℕ} {t : List Char} (h : t.length ≤ n) : abbreviate n t = t :=
  if_pos h

/-- A text that is too long is cut behind as many characters as are allowed. -/
theorem exists_of_abbreviate {n : ℕ} {t : List Char} (h : n < t.length) :
    ∃ p, abbreviate n t = p ++ "...".toList ∧ p.length = n ∧ p ++ t.drop n = t := by
  refine ⟨t.take n, ?_, ?_, List.take_append_drop n t⟩
  · rw [abbreviate, if_neg (Nat.not_le.mpr h)]
    rfl
  · rw [List.length_take, Nat.min_eq_left (Nat.le_of_lt h)]

/-! ### Reading by count -/

namespace Cursor

/-- What is read is as much as the count says, or all there is. -/
theorem exists_read (n : ℕ) (c : Cursor) :
    ∃ read, c.unread = read ++ (c.advance n).unread ∧ read.length = min n c.unread.length :=
  ⟨c.unread.take n, (List.take_append_drop n c.unread).symm, List.length_take⟩

/-- **Counts add up.** -/
theorem advance_advance (m n : ℕ) (c : Cursor) : (c.advance m).advance n = c.advance (m + n) := by
  have hbefore : c.before ++ c.unread.take m ++ (c.unread.drop m).take n
      = c.before ++ c.unread.take (m + n) := by
    rw [List.append_assoc, List.take_add]
  have hunread : (c.unread.drop m).drop n = c.unread.drop (m + n) := List.drop_drop
  rw [mk.injEq]
  exact ⟨hbefore, hunread, rfl⟩

/-- Reading by counts one after the other is reading by their sum. -/
theorem runAll_skipChars (ns : List ℕ) (c : Cursor) :
    c.runAll (ns.map .skipChars) = c.advance ns.sum := by
  induction ns generalizing c with
  | nil =>
    rw [List.sum_nil, advance, List.take_zero, List.append_nil]
    rfl
  | cons n ns ih =>
    rw [List.map_cons, runAll, run, ih, advance_advance, List.sum_cons]

/-- **Reading and abbreviating cut at the same place.**  Reading a number of characters leaves the
unread text without so many of its first characters, or nothing if there are fewer, and to read
twice is to read the sum.  An abbreviation is the unread text itself if that is no longer than
allowed; otherwise it has exactly as many characters as allowed, followed by three dots, and what
reading the same number would leave is what is missing.  On windows the same happens, for any
counts. -/
theorem cuts_by_count (c : Cursor) (m n : ℕ) :
    (∃ read, c.unread = read ++ (c.run (.skipChars n)).2.unread ∧
      read.length = min n c.unread.length) ∧
    ((c.run (.skipChars m)).2.run (.skipChars n)).2 = (c.run (.skipChars (m + n))).2 ∧
    (∃ shown, (c.run (.abbreviate n)).1 = .piece shown ∧
      (c.unread.length ≤ n → shown = c.unread) ∧
      (n < c.unread.length → ∃ p, shown = p ++ "...".toList ∧ p.length = n ∧
        p ++ (c.run (.skipChars n)).2.unread = c.unread)) ∧
    c.window.run? (.skipChars n) = some (.done, (c.run (.skipChars n)).2.window) ∧
    c.window.runAll? [.skipChars m, .skipChars n] = c.window.runAll? [.skipChars (m + n)] ∧
    c.window.run? (.abbreviate n) = some ((c.run (.abbreviate n)).1, c.window) := by
  have htwice : c.runAll [.skipChars m, .skipChars n] = c.advance (m + n) :=
    runAll_skipChars [m, n] c
  have hsum : c.runAll [.skipChars m, .skipChars n] = c.runAll [.skipChars (m + n)] :=
    htwice.trans (runAll_skipChars [m + n] c).symm
  refine ⟨exists_read n c, htwice,
    ⟨abbreviate n c.unread, rfl, abbreviate_of_length_le, exists_of_abbreviate⟩,
    Window.run?_window c _, ?_, Window.run?_window c _⟩
  rw [Window.runAll?_window, Window.runAll?_window, hsum]

/-- Three characters of one, two and three bytes: an abbreviation to three leaves nothing out, and
reading one and one of them stops three bytes on. -/
theorem cuts_by_count_at_wide_characters :
    let c : Cursor := ⟨"x".toList, "né☃".toList, ")".toList⟩
    (c.unread.length ≤ 3 ∧ c.window.run? (.abbreviate 3)
        = some (.piece "né☃".toList, c.window)) ∧
      (2 < c.unread.length ∧ c.window.run? (.abbreviate 2)
        = some (.piece "né...".toList, c.window)) ∧
      c.window.runAll? [.skipChars 1, .skipChars 1] = some ⟨"xné☃)".toList, 4, 7⟩ := by
  intro c
  have hall : c.unread.length ≤ 3 := by decide
  have hmore : 2 < c.unread.length := by decide
  obtain ⟨-, -, ⟨shown, hpiece, hself, -⟩, -, -, hwindow⟩ := cuts_by_count c 1 3
  obtain ⟨-, -, ⟨short, hcut, -, hdots⟩, -, -, hwindow'⟩ := cuts_by_count c 1 2
  obtain ⟨-, -, -, -, hsum, -⟩ := cuts_by_count c 1 1
  refine ⟨⟨hall, ?_⟩, ⟨hmore, ?_⟩, hsum.trans (by decide)⟩
  · rw [hwindow, hpiece, hself hall]
  · obtain ⟨p, hshort, hlength, hrest⟩ := hdots hmore
    have hp : p = "né".toList := by
      have htake : (p ++ (c.run (.skipChars 2)).2.unread).take 2 = p := by
        rw [← hlength, List.take_left]
      rw [← htake, hrest]
      decide
    rw [hwindow', hcut, hshort, hp]
    rfl

end Cursor

end TableSchema.Text
