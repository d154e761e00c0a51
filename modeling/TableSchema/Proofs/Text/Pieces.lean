import Mathlib.Data.List.Forall2
import TableSchema.Proofs.Text.Blank
import TableSchema.Proofs.Text.Cut
import TableSchema.Proofs.Text.Nesting

/-!
# Cuts outside the brackets

A text is cut at the occurrences of a character where the counter of a walk shows zero.  Whatever
the counter, nothing is lost in between, and blanks around the text only come to stand around its
first and its last piece.  A counter of integers cuts where as many brackets are opened as closed;
it finds whole pieces again when they are put together.  Counters that show zero at the same places
cut alike, so among few brackets a counter of 32 bits does the same.

## Main definitions

* `Brackets.Whole target d t` — the text has no place to cut, where the depth is `d` at its start.
* `Brackets.Pieces target before t pieces` — `t`, which stands behind `before`, falls into `pieces`
  at the occurrences of `target` outside the brackets.

## Main results

* `intercalate_splitFrom` — the pieces with the character between them are the text.
* `map_trim_splitFrom_pad` — blanks around a text play no part in its trimmed pieces.
* `splitFrom_congr` — counters that show zero at the same places cut alike.
* `pieces_iff` — the pieces are those that a counter of integers finds.
* `pieces_intercalate` — whole pieces are found again.
* `split_eq_splitFrom` — among few brackets, the pieces are those of the program's counter, too.
-/

namespace TableSchema.Text.Brackets

variable {b : Brackets}

/-! ### Any kind of counter -/

section Counter

variable {δ : Type} [OfNat δ 0] [OfNat δ 1] [Add δ] [Sub δ] [DecidableEq δ]
variable {target : Char} {d : δ}

theorem splitFrom_cons_of_pos {c : Char} (h : (b.marks target c && d = 0) = true)
    (t : List Char) : b.splitFrom target d (c :: t) = [] :: b.splitFrom target (0 : δ) t := by
  rw [splitFrom, if_pos h]

theorem splitFrom_cons_of_neg {c : Char} (h : ¬ (b.marks target c && d = 0) = true)
    (t : List Char) :
    b.splitFrom target d (c :: t) = consFirst c (b.splitFrom target (b.turn d c) t) := by
  rw [splitFrom, if_neg h]

/-- A character is no place to cut unless it is the one to cut at. -/
theorem splitFrom_cons_of_ne {c : Char} (h : c ≠ target) (t : List Char) :
    b.splitFrom target d (c :: t) = consFirst c (b.splitFrom target (b.turn d c) t) :=
  splitFrom_cons_of_neg (by simp [marks, h]) t

theorem splitFrom_ne_nil (t : List Char) : b.splitFrom target d t ≠ [] := by
  cases t with
  | nil => exact List.cons_ne_nil _ _
  | cons c t =>
    rw [splitFrom]
    split
    · exact List.cons_ne_nil _ _
    · cases b.splitFrom target (b.turn d c) t <;> simp [consFirst]

theorem splitFrom_of_notMem {t : List Char} (h : target ∉ t) :
    b.splitFrom target d t = [t] := by
  induction t generalizing d with
  | nil => rfl
  | cons c t ih =>
    obtain ⟨hc, ht⟩ := not_or.mp (mt List.mem_cons.mpr h)
    rw [splitFrom_cons_of_ne (Ne.symm hc), ih ht, consFirst_cons]

/-- A text is cut at the first occurrence of the character, if the counter shows zero there. -/
theorem splitFrom_append_of_notMem {s : List Char} (hs : target ∉ s) (ho : target ≠ b.opening)
    (hc : target ≠ b.closing) (hzero : b.counter d s = 0) (t : List Char) :
    b.splitFrom target d (s ++ target :: t) = s :: b.splitFrom target (0 : δ) t := by
  induction s generalizing d with
  | nil => exact splitFrom_cons_of_pos (by simpa [marks, ho, hc] using hzero) t
  | cons c s ih =>
    obtain ⟨hne, hs⟩ := not_or.mp (mt List.mem_cons.mpr hs)
    rw [List.cons_append, splitFrom_cons_of_ne (Ne.symm hne), ih hs hzero, consFirst_cons]

/-- There are no more cuts than characters. -/
theorem length_splitFrom_le (t : List Char) :
    (b.splitFrom target d t).length ≤ t.length + 1 := by
  induction t generalizing d with
  | nil => exact Nat.le_refl 1
  | cons c t ih =>
    rw [splitFrom]
    split
    · exact Nat.succ_le_succ ih
    · have hrest := ih (d := b.turn d c)
      cases hs : b.splitFrom target (b.turn d c) t with
      | nil => exact absurd hs (splitFrom_ne_nil t)
      | cons p ps =>
        rw [hs, List.length_cons] at hrest
        rw [consFirst_cons, List.length_cons, List.length_cons]
        omega

/-- A character in front of the first text is in front of what they are put together to. -/
theorem intercalate_consFirst {sep : List Char} {c : Char} {ts : List (List Char)} (h : ts ≠ []) :
    sep.intercalate (consFirst c ts) = c :: sep.intercalate ts := by
  match ts, h with
  | [t], _ => rw [consFirst_cons, List.intercalate_singleton, List.intercalate_singleton]
  | t :: u :: us, _ =>
    rw [consFirst_cons, List.intercalate_cons_cons, List.intercalate_cons_cons, List.cons_append,
      List.cons_append]

/-- **The pieces with the character between them are the text.** -/
theorem intercalate_splitFrom (t : List Char) :
    [target].intercalate (b.splitFrom target d t) = t := by
  induction t generalizing d with
  | nil => rfl
  | cons c t ih =>
    rw [splitFrom]
    split
    case isTrue hc =>
      have htarget : c = target := by
        simp only [marks, Bool.and_eq_true, decide_eq_true_eq] at hc
        exact hc.1.2
      have hrest := ih (d := (0 : δ))
      cases hs : b.splitFrom target (0 : δ) t with
      | nil => exact absurd hs (splitFrom_ne_nil t)
      | cons p ps =>
        rw [hs] at hrest
        rw [List.intercalate_cons_cons, hrest, htarget]
        rfl
    case isFalse hc => rw [intercalate_consFirst (splitFrom_ne_nil t), ih]

/-- What is in a piece is in the text. -/
theorem mem_of_mem_splitFrom {t p : List Char} (hp : p ∈ b.splitFrom target d t) {c : Char}
    (hc : c ∈ p) : c ∈ t := by
  have htext : [target].intercalate (b.splitFrom target d t) = t := intercalate_splitFrom t
  rw [← htext]
  exact mem_intercalate hp hc

/-! ### Blanks around the pieces -/

/-- The text has neither brackets nor the character to cut at. -/
def Inert (b : Brackets) (target : Char) (t : List Char) : Prop := b.Bare t ∧ target ∉ t

/-- What goes in front of a text goes in front of its first piece, and is trimmed off there. -/
theorem map_trim_splitFrom_append_left {l : List Char} (hl : Blank l) (hi : b.Inert target l)
    (t : List Char) :
    (b.splitFrom target d (l ++ t)).map trim = (b.splitFrom target d t).map trim := by
  induction l with
  | nil => rfl
  | cons c l ih =>
    have hne : c ≠ target := fun h => hi.2 (by simp [h])
    have hturn : b.turn d c = d :=
      turn_of_ne (fun h => hi.1.1 (by simp [h])) (fun h => hi.1.2 (by simp [h])) d
    have hil : b.Inert target l := by simp_all [Inert, Bare]
    have hbl : Blank l := fun x hx => hl x (List.mem_cons_of_mem c hx)
    rw [List.cons_append, splitFrom_cons_of_ne hne, hturn, ← ih hbl hil]
    cases hs : b.splitFrom target d (l ++ t) with
    | nil => exact absurd hs (splitFrom_ne_nil _)
    | cons p ps =>
      have hp := trim_pad (l := [c]) (fun x hx => hl x (by simp_all)) blank_nil p
      simpa using hp

/-- What goes behind a text goes behind its last piece. -/
theorem forall₂_splitFrom_append {r : List Char} (hi : b.Inert target r) (t : List Char) :
    List.Forall₂ (fun p q => q = p ∨ q = p ++ r) (b.splitFrom target d t)
      (b.splitFrom target d (t ++ r)) := by
  induction t generalizing d with
  | nil =>
    rw [List.nil_append, splitFrom_of_notMem hi.2]
    exact .cons (.inr rfl) .nil
  | cons c t ih =>
    rw [List.cons_append, splitFrom, splitFrom]
    split
    · exact .cons (.inl rfl) ih
    · have hrest := ih (d := b.turn d c)
      generalize b.splitFrom target (b.turn d c) t = ps at hrest ⊢
      generalize b.splitFrom target (b.turn d c) (t ++ r) = qs at hrest ⊢
      cases hrest with
      | nil => exact .cons (.inl rfl) .nil
      | cons hpq hps => exact .cons (hpq.imp (congrArg _) (congrArg _)) hps

/-- **Blanks around a text play no part in its trimmed pieces.** -/
theorem map_trim_splitFrom_pad {l r : List Char} (hl : Blank l) (hr : Blank r)
    (hil : b.Inert target l) (hir : b.Inert target r) (t : List Char) :
    (b.splitFrom target d (l ++ t ++ r)).map trim = (b.splitFrom target d t).map trim := by
  rw [List.append_assoc, map_trim_splitFrom_append_left hl hil]
  symm
  rw [← List.forall₂_eq_eq_eq, List.forall₂_map_left_iff, List.forall₂_map_right_iff]
  refine (forall₂_splitFrom_append hir t).imp fun p q hpq => ?_
  rcases hpq with rfl | rfl
  · rfl
  · simpa using (trim_pad blank_nil hr p).symm

/-! ### Counters that agree -/

variable {ε : Type} [OfNat ε 0] [OfNat ε 1] [Add ε] [Sub ε] [DecidableEq ε] {e : ε} {t : List Char}

/-- **Counters that show zero at the same places cut alike.** -/
theorem splitFrom_congr (h : ∀ u v, t = u ++ v → (b.counter d u = 0 ↔ b.counter e u = 0)) :
    b.splitFrom target d t = b.splitFrom target e t := by
  induction t generalizing d e with
  | nil => rfl
  | cons c t ih =>
    have hstart : d = 0 ↔ e = 0 := h [] (c :: t) rfl
    have htail : ∀ u v, t = u ++ v →
        (b.counter (b.turn d c) u = 0 ↔ b.counter (b.turn e c) u = 0) :=
      fun u v ht => h (c :: u) v (by rw [ht, List.cons_append])
    by_cases hc : b.marks target c && d = 0
    · -- the character is no bracket, so both counters still show zero behind it
      have hc' : (b.marks target c && e = 0) = true := by simpa [hstart] using hc
      rw [splitFrom_cons_of_pos hc, splitFrom_cons_of_pos hc']
      simp only [marks, Bool.and_eq_true, decide_eq_true_eq] at hc hc'
      rw [turn_of_ne hc.1.1.1 hc.1.1.2, turn_of_ne hc.1.1.1 hc.1.1.2, hc.2, hc'.2] at htail
      rw [ih htail]
    · have hc' : ¬ (b.marks target c && e = 0) = true := by simpa [hstart] using hc
      rw [splitFrom_cons_of_neg hc, splitFrom_cons_of_neg hc', ih htail]

end Counter

/-! ### Cuts outside the brackets -/

variable (b) in
/-- A `target` at depth `d` is a place to cut: it is no bracket and stands outside the brackets. -/
def Cuts (target : Char) (d : ℤ) : Prop :=
  target ≠ b.opening ∧ target ≠ b.closing ∧ d = 0

instance (target : Char) (d : ℤ) : Decidable (b.Cuts target d) :=
  inferInstanceAs (Decidable (target ≠ b.opening ∧ target ≠ b.closing ∧ d = 0))

variable (b) in
/-- The text, in front of which the depth is `d`, has no place to cut. -/
def Whole (target : Char) (d : ℤ) (t : List Char) : Prop :=
  ∀ u x v, t = u ++ x :: v → ¬ (x = target ∧ b.Cuts target (d + b.depth u))

variable (b) in
/-- The text `t`, which stands behind `before`, falls into `pieces` at the places to cut.  The depth
is counted from the start of `before`. -/
inductive Pieces (target : Char) : (before t : List Char) → (pieces : List (List Char)) → Prop
  /-- A text without a place to cut is one piece. -/
  | last {before piece : List Char} (whole : b.Whole target (b.depth before) piece) :
    Pieces target before piece [piece]
  /-- The text is cut at the first such place, and the rest at the others. -/
  | cut {before piece t : List Char} {pieces : List (List Char)}
    (whole : b.Whole target (b.depth before) piece)
    (cuts : b.Cuts target (b.depth (before ++ piece)))
    (rest : Pieces target (before ++ piece ++ [target]) t pieces) :
    Pieces target before (piece ++ target :: t) (piece :: pieces)

variable {target : Char} {d : ℤ}

theorem whole_nil : b.Whole target d [] := by simp [Whole]

theorem whole_cons {c : Char} {t : List Char} :
    b.Whole target d (c :: t) ↔
      ¬ (c = target ∧ b.Cuts target d) ∧ b.Whole target (d + b.step c) t := by
  simp only [Whole, forall_split_cons, depth_nil, depth_cons, Int.add_zero, Int.add_assoc]

instance decidableWhole : (d : ℤ) → (t : List Char) → Decidable (b.Whole target d t)
  | _, [] => .isTrue whole_nil
  | d, c :: t =>
    have := decidableWhole (d + b.step c) t
    decidable_of_iff' _ whole_cons

/-- A text without the character has no place to cut. -/
theorem whole_of_notMem {t : List Char} (h : target ∉ t) : b.Whole target d t := by
  rintro u x v rfl ⟨rfl, -⟩
  simp at h

/-- Two texts without a place to cut have none together. -/
theorem Whole.append {s t : List Char} (hs : b.Whole target d s)
    (ht : b.Whole target (d + b.depth s) t) : b.Whole target d (s ++ t) := by
  intro u x v h
  rcases List.append_eq_append_iff.mp h with ⟨w, rfl, hw⟩ | ⟨w, hw, hxv⟩
  · rw [depth_append, ← Int.add_assoc]
    exact ht w x v hw
  · cases w with
    | nil =>
      rw [List.append_nil] at hw
      rw [← hw, ← Int.add_zero (d + b.depth s), ← depth_nil b]
      exact ht [] x v hxv.symm
    | cons c w =>
      rw [List.cons_append, List.cons.injEq] at hxv
      rw [hxv.1]
      exact hs u c w hw

/-- Inside a pair of brackets there is no place to cut. -/
theorem Balanced.whole_wrap {t : List Char} (ht : b.Balanced t) :
    b.Whole target 0 (b.opening :: (t ++ [b.closing])) := by
  rintro u x v h ⟨rfl, ho, hc, hd⟩
  cases u with
  | nil => exact ho (List.cons.inj h).1.symm
  | cons c u =>
    rw [List.cons_append, List.cons.injEq] at h
    obtain ⟨rfl, h⟩ := h
    rcases List.append_eq_append_iff.mp h with ⟨w, -, hw⟩ | ⟨w, hw, -⟩
    · cases w with
      | nil => exact hc (List.cons.inj hw).1.symm
      | cons c w => simp at hw
    · have := ht.nonneg u w hw
      rw [depth_cons, step_opening] at hd
      omega

theorem marks_iff {c : Char} :
    (c = target ∧ b.Cuts target d) ↔ (b.marks target c && d = 0) = true := by
  simp only [Cuts, marks, Bool.and_eq_true, decide_eq_true_eq]
  constructor
  · rintro ⟨rfl, ho, hc, hd⟩
    exact ⟨⟨⟨ho, hc⟩, rfl⟩, hd⟩
  · rintro ⟨⟨⟨ho, hc⟩, rfl⟩, hd⟩
    exact ⟨rfl, ho, hc, hd⟩

theorem splitFrom_cons_of_cuts {c : Char} (h : c = target ∧ b.Cuts target d) (t : List Char) :
    b.splitFrom target d (c :: t) = [] :: b.splitFrom target (0 : ℤ) t :=
  splitFrom_cons_of_pos (marks_iff.mp h) t

theorem splitFrom_cons_of_not_cuts {c : Char} (h : ¬ (c = target ∧ b.Cuts target d))
    (t : List Char) :
    b.splitFrom target d (c :: t) = consFirst c (b.splitFrom target (d + b.step c) t) := by
  rw [splitFrom_cons_of_neg (marks_iff.not.mp h), turn_eq_add_step]

theorem splitFrom_of_whole {t : List Char} (h : b.Whole target d t) :
    b.splitFrom target d t = [t] := by
  induction t generalizing d with
  | nil => rfl
  | cons c t ih =>
    obtain ⟨hc, ht⟩ := whole_cons.mp h
    rw [splitFrom_cons_of_not_cuts hc, ih ht, consFirst_cons]

/-- A piece is cut off at the first place to cut. -/
theorem splitFrom_append {s : List Char} (hs : b.Whole target d s)
    (hc : b.Cuts target (d + b.depth s)) (t : List Char) :
    b.splitFrom target d (s ++ target :: t) = s :: b.splitFrom target (0 : ℤ) t := by
  induction s generalizing d with
  | nil =>
    rw [depth_nil, Int.add_zero] at hc
    exact splitFrom_cons_of_cuts ⟨rfl, hc⟩ t
  | cons c s ih =>
    obtain ⟨hm, hs⟩ := whole_cons.mp hs
    rw [depth_cons, ← Int.add_assoc] at hc
    rw [List.cons_append, splitFrom_cons_of_not_cuts hm, ih hs hc, consFirst_cons]

/-- The depth behind a place to cut is still zero. -/
theorem Cuts.depth_concat {before : List Char} (h : b.Cuts target (b.depth before)) :
    b.depth (before ++ [target]) = 0 := by
  simp [h.2.2, step, h.1, h.2.1]

/-- A character that is no place to cut goes to the first piece. -/
theorem Pieces.cons {before t : List Char} {pieces : List (List Char)} {c : Char}
    (hc : ¬ (c = target ∧ b.Cuts target (b.depth before)))
    (h : b.Pieces target (before ++ [c]) t pieces) :
    b.Pieces target before (c :: t) (consFirst c pieces) := by
  have hd : b.depth (before ++ [c]) = b.depth before + b.step c := by simp
  cases h with
  | last whole => exact .last (whole_cons.mpr ⟨hc, hd ▸ whole⟩)
  | cut whole cuts rest =>
    refine .cut (whole_cons.mpr ⟨hc, hd ▸ whole⟩) ?_ ?_
    · simpa using cuts
    · simpa using rest

/-- **The pieces are those that the walk along the text finds.** -/
theorem pieces_iff {before t : List Char} {pieces : List (List Char)} :
    b.Pieces target before t pieces ↔ pieces = b.splitFrom target (b.depth before) t := by
  constructor
  · intro h
    induction h with
    | last whole => exact (splitFrom_of_whole whole).symm
    | @cut before piece t pieces whole cuts rest ih =>
      rw [cuts.depth_concat] at ih
      rw [depth_append] at cuts
      rw [splitFrom_append whole cuts, ih]
  · rintro rfl
    induction t generalizing before with
    | nil => exact .last whole_nil
    | cons c t ih =>
      by_cases hc : c = target ∧ b.Cuts target (b.depth before)
      · rw [splitFrom_cons_of_cuts hc]
        obtain ⟨rfl, hcut⟩ := hc
        have hrest := @ih (before ++ [c])
        rw [hcut.depth_concat] at hrest
        exact .cut whole_nil (by simpa using hcut) (by simpa using hrest)
      · rw [splitFrom_cons_of_not_cuts hc]
        have hrest := @ih (before ++ [c])
        rw [depth_append, depth_cons, depth_nil, Int.add_zero] at hrest
        exact hrest.cons hc

/-- What is in a piece is in the text. -/
theorem Pieces.mem {before t : List Char} {pieces : List (List Char)}
    (h : b.Pieces target before t pieces) {p : List Char} (hp : p ∈ pieces) {c : Char}
    (hc : c ∈ p) : c ∈ t := by
  rw [pieces_iff.mp h] at hp
  exact mem_of_mem_splitFrom hp hc

/-- **Pieces that are whole and leave the depth zero are found again** in what they make up. -/
theorem pieces_intercalate (ho : target ≠ b.opening) (hc : target ≠ b.closing)
    {pieces : List (List Char)} (hne : pieces ≠ [])
    (h : ∀ p ∈ pieces, b.Whole target 0 p ∧ b.depth p = 0) :
    b.Pieces target [] ([target].intercalate pieces) pieces := by
  rw [pieces_iff, depth_nil]
  induction pieces with
  | nil => exact absurd rfl hne
  | cons p ps ih =>
    obtain ⟨⟨hw, hd⟩, hps⟩ := List.forall_mem_cons.mp h
    cases ps with
    | nil => rw [List.intercalate_singleton, splitFrom_of_whole hw]
    | cons q qs =>
      have hcut : b.Cuts target (0 + b.depth p) := ⟨ho, hc, by rw [hd, Int.zero_add]⟩
      have hrest := ih (List.cons_ne_nil q qs) hps
      rw [List.intercalate_cons_cons, List.append_assoc, List.singleton_append,
        splitFrom_append hw hcut, ← hrest]

/-- **Among few brackets, the counter of 32 bits finds the same pieces.** -/
theorem split_eq_splitFrom {t : List Char} (h : b.Few t) :
    b.split target t = b.splitFrom target (0 : ℤ) t := by
  refine splitFrom_congr fun u v ht => ?_
  have hu : b.Few u := h.part ⟨[], v, by rw [ht, List.nil_append]⟩
  rw [hu.counter_eq_zero_iff, counter_eq_add_depth, Int.zero_add]

end TableSchema.Text.Brackets
