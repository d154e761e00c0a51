import Mathlib.Algebra.Group.Nat.Defs
import Mathlib.Data.List.Infix
import Mathlib.Tactic.Common
import TableSchema.Text.Nesting

/-!
# Depth

Every place of a text has a **depth**: the opening brackets before it less the closing ones.  The
walks of `TableSchema.Text.Nesting` keep count of it on the way.  A counter of integers shows the
depth itself, and a counter of 32 bits shows it modulo `2 ^ 32`.  So what both take for depth zero
is the same as long as the text has fewer than `2 ^ 31` brackets, since no depth exceeds their
number.

## Main definitions

* `Brackets.depth t` — the opening brackets of `t` less the closing ones.
* `Brackets.Balanced t` — no start of `t` closes more than it opens, and `t` closes all it opens.
* `Brackets.counter d t` — what a counter shows behind `t`.
* `Brackets.Few t` — `t` has fewer than `2 ^ 31` brackets.

## Main results

* `counter_eq_add_depth`, `counter_ofInt` — what counters show.
* `natAbs_depth_le` — no depth exceeds the number of brackets.
* `Few.counter_eq_zero_iff` — **among few brackets, 32 bits are enough.**
-/

namespace TableSchema.Text.Brackets

variable (b : Brackets)

/-! ### Depth as a count -/

/-- By how much a character changes the depth. -/
def step (c : Char) : ℤ :=
  if c = b.opening then 1 else if c = b.closing then -1 else 0

/-- The opening brackets of the text less the closing ones.  When both brackets are the same
character, it counts as the opening one. -/
def depth (t : List Char) : ℤ :=
  t.count b.opening - if b.closing = b.opening then 0 else (t.count b.closing : ℤ)

/-- The text has no brackets. -/
def Bare (t : List Char) : Prop := b.opening ∉ t ∧ b.closing ∉ t

instance (t : List Char) : Decidable (b.Bare t) :=
  inferInstanceAs (Decidable (b.opening ∉ t ∧ b.closing ∉ t))

/-- No start of the text closes more brackets than it opens, and the whole closes all it opens. -/
structure Balanced (t : List Char) : Prop where
  /-- All brackets are closed in the end. -/
  closed : b.depth t = 0
  /-- At no place more brackets are closed than opened. -/
  nonneg : ∀ u v, t = u ++ v → 0 ≤ b.depth u

@[simp] theorem depth_nil : b.depth [] = 0 := by simp [depth]

@[simp] theorem depth_cons (c : Char) (t : List Char) :
    b.depth (c :: t) = b.step c + b.depth t := by
  simp only [depth, step, List.count_cons, beq_iff_eq]
  split_ifs <;> simp_all <;> omega

@[simp] theorem depth_append (s t : List Char) : b.depth (s ++ t) = b.depth s + b.depth t := by
  simp only [depth, List.count_append]
  split_ifs <;> push_cast <;> omega

@[simp] theorem round_closing : round.closing = ')' := rfl

theorem depth_round (t : List Char) : round.depth t = t.count '(' - t.count ')' := by
  simp [depth, round]

@[simp] theorem step_opening : b.step b.opening = 1 := by simp [step]

theorem step_closing (h : b.opening ≠ b.closing) : b.step b.closing = -1 := by
  simp [step, Ne.symm h]

theorem depth_replicate_opening (n : ℕ) : b.depth (List.replicate n b.opening) = n := by
  induction n with
  | zero => simp
  | succ n ih =>
    rw [List.replicate_succ, depth_cons, ih, step_opening]
    omega

variable {b}

theorem Bare.depth {t : List Char} (h : b.Bare t) : b.depth t = 0 := by
  simp [Brackets.depth, List.count_eq_zero_of_not_mem h.1, List.count_eq_zero_of_not_mem h.2]

theorem Bare.append {s t : List Char} (hs : b.Bare s) (ht : b.Bare t) : b.Bare (s ++ t) := by
  simp_all [Bare]

/-- A text that opens more than it closes has an opening bracket. -/
theorem opening_mem_of_depth_pos {t : List Char} (h : 0 < b.depth t) : b.opening ∈ t := by
  by_contra hn
  rw [depth, List.count_eq_zero_of_not_mem hn] at h
  split_ifs at h <;> omega

theorem Bare.balanced {t : List Char} (h : b.Bare t) : b.Balanced t where
  closed := h.depth
  nonneg u v ht := by
    have hu : b.Bare u := by simp_all [Bare]
    exact Int.le_of_eq hu.depth.symm

theorem balanced_iff {t : List Char} :
    b.Balanced t ↔ b.depth t = 0 ∧ ∀ u ∈ t.inits, 0 ≤ b.depth u := by
  constructor
  · intro h
    refine ⟨h.closed, fun u hu => ?_⟩
    obtain ⟨v, rfl⟩ := (List.mem_inits u t).mp hu
    exact h.nonneg u v rfl
  · rintro ⟨hclosed, hnonneg⟩
    refine ⟨hclosed, fun u v ht => hnonneg u ?_⟩
    exact (List.mem_inits u t).mpr ⟨v, ht.symm⟩

instance (t : List Char) : Decidable (b.Balanced t) := decidable_of_iff' _ balanced_iff

theorem Balanced.append {s t : List Char} (hs : b.Balanced s) (ht : b.Balanced t) :
    b.Balanced (s ++ t) where
  closed := by rw [depth_append, hs.closed, ht.closed, Int.add_zero]
  nonneg u v h := by
    rcases List.append_eq_append_iff.mp h with ⟨w, rfl, hw⟩ | ⟨w, hw, -⟩
    · rw [depth_append, hs.closed, Int.zero_add]
      exact ht.nonneg w v hw
    · exact hs.nonneg u w hw

/-- Balanced texts stay balanced when they are put together with a balanced one in between. -/
theorem Balanced.intercalate {sep : List Char} (hsep : b.Balanced sep) {ts : List (List Char)}
    (h : ∀ t ∈ ts, b.Balanced t) : b.Balanced (sep.intercalate ts) := by
  induction ts with
  | nil => exact Bare.balanced ⟨List.not_mem_nil, List.not_mem_nil⟩
  | cons t ts ih =>
    obtain ⟨ht, hts⟩ := List.forall_mem_cons.mp h
    cases ts with
    | nil => rwa [List.intercalate_singleton]
    | cons u us =>
      rw [List.intercalate_cons_cons]
      exact (ht.append hsep).append (ih hts)

/-- A balanced text between brackets is balanced. -/
theorem Balanced.wrap {t : List Char} (hne : b.opening ≠ b.closing) (ht : b.Balanced t) :
    b.Balanced (b.opening :: (t ++ [b.closing])) where
  closed := by simp [ht.closed, step_closing b hne]
  nonneg u v h := by
    cases u with
    | nil => simp
    | cons c u =>
      rw [List.cons_append, List.cons.injEq] at h
      obtain ⟨rfl, h⟩ := h
      rw [depth_cons, step_opening]
      rcases List.append_eq_append_iff.mp h with ⟨w, rfl, hw⟩ | ⟨w, hw, -⟩
      · -- the start reaches up to the closing bracket or includes it
        rcases List.singleton_eq_append_iff.mp hw with ⟨rfl, -⟩ | ⟨rfl, -⟩
        · simp [ht.closed]
        · simp [ht.closed, step_closing b hne]
      · have := ht.nonneg u w hw
        omega

/-- As many closing brackets as opening ones in front of them. -/
theorem balanced_replicate (hne : b.opening ≠ b.closing) (n : ℕ) :
    b.Balanced (List.replicate n b.opening ++ List.replicate n b.closing) := by
  induction n with
  | zero => exact Bare.balanced ⟨List.not_mem_nil, List.not_mem_nil⟩
  | succ n ih =>
    rw [List.replicate_succ, List.replicate_succ', List.cons_append, ← List.append_assoc]
    exact ih.wrap hne

/-- A split of `c :: t` is at `c` or further on. -/
theorem forall_split_cons {c : Char} {t : List Char} {P : List Char → Char → Prop} :
    (∀ u x v, c :: t = u ++ x :: v → P u x) ↔
      P [] c ∧ ∀ u x v, t = u ++ x :: v → P (c :: u) x := by
  constructor
  · intro h
    exact ⟨h [] c t rfl, fun u x v ht => h (c :: u) x v (by rw [ht, List.cons_append])⟩
  · rintro ⟨h₀, h⟩ u x v ht
    cases u with
    | nil =>
      rw [List.nil_append, List.cons.injEq] at ht
      exact ht.1 ▸ h₀
    | cons d u =>
      rw [List.cons_append, List.cons.injEq] at ht
      exact ht.1 ▸ h u x v ht.2

/-! ### Counters -/

section Counter

variable {δ : Type} [OfNat δ 1] [Add δ] [Sub δ]

variable (b) in
/-- What a counter shows behind a text, if it shows `d` in front of it. -/
def counter (d : δ) (t : List Char) : δ := t.foldl b.turn d

@[simp] theorem counter_nil (d : δ) : b.counter d [] = d := rfl

@[simp] theorem counter_cons (d : δ) (c : Char) (t : List Char) :
    b.counter d (c :: t) = b.counter (b.turn d c) t := rfl

theorem counter_append (d : δ) (s t : List Char) :
    b.counter d (s ++ t) = b.counter (b.counter d s) t := List.foldl_append

/-- A character that is no bracket leaves the counter as it is. -/
theorem turn_of_ne {c : Char} (ho : c ≠ b.opening) (hc : c ≠ b.closing) (d : δ) :
    b.turn d c = d := by
  rw [turn, if_neg ho, if_neg hc]

end Counter

theorem turn_eq_add_step (d : ℤ) (c : Char) : b.turn d c = d + b.step c := by
  rw [turn, step]
  split_ifs <;> omega

/-- **A counter of integers shows the depth.** -/
theorem counter_eq_add_depth (d : ℤ) (t : List Char) : b.counter d t = d + b.depth t := by
  induction t generalizing d with
  | nil => simp
  | cons c t ih => rw [counter_cons, ih, turn_eq_add_step, depth_cons, Int.add_assoc]

theorem turn_ofInt (d : ℤ) (c : Char) :
    b.turn (Int32.ofInt d) c = Int32.ofInt (d + b.step c) := by
  rw [← turn_eq_add_step, turn, turn]
  split_ifs
  · exact (Int32.ofInt_add d 1).symm
  · exact (Int32.ofInt_sub d 1).symm
  · rfl

/-- **A counter of 32 bits shows what is left of the depth in 32 bits.** -/
theorem counter_ofInt (d : ℤ) (t : List Char) :
    b.counter (Int32.ofInt d) t = Int32.ofInt (d + b.depth t) := by
  induction t generalizing d with
  | nil => simp
  | cons c t ih => rw [counter_cons, turn_ofInt, ih, depth_cons, Int.add_assoc]

theorem counter_zero (t : List Char) : b.counter (0 : Int32) t = Int32.ofInt (b.depth t) := by
  rw [← Int.zero_add (b.depth t)]
  exact counter_ofInt 0 t

/-! ### Few brackets -/

variable (b) in
/-- The number of brackets in a text. -/
def bracketCount (t : List Char) : ℕ := t.countP fun c => c = b.opening ∨ c = b.closing

variable (b) in
/-- The text has fewer than `2 ^ 31` brackets, so that no count of them takes more than 32 bits. -/
def Few (t : List Char) : Prop := b.bracketCount t < 2 ^ 31

instance (t : List Char) : Decidable (b.Few t) :=
  inferInstanceAs (Decidable (b.bracketCount t < 2 ^ 31))

theorem natAbs_step_le (c : Char) :
    (b.step c).natAbs ≤ if c = b.opening ∨ c = b.closing then 1 else 0 := by
  rw [step]
  split_ifs <;> simp_all

/-- **No depth exceeds the number of brackets** that it is counted from. -/
theorem natAbs_depth_le (t : List Char) : (b.depth t).natAbs ≤ b.bracketCount t := by
  induction t with
  | nil => simp
  | cons c t ih =>
    have hstep := natAbs_step_le (b := b) c
    have hsum := Int.natAbs_add_le (b.step c) (b.depth t)
    rw [depth_cons, bracketCount, List.countP_cons, ← bracketCount]
    simp only [decide_eq_true_eq]
    omega

theorem bracketCount_append (s t : List Char) :
    b.bracketCount (s ++ t) = b.bracketCount s + b.bracketCount t := List.countP_append

theorem Bare.bracketCount {t : List Char} (h : b.Bare t) : b.bracketCount t = 0 := by
  rw [Brackets.bracketCount, List.countP_eq_zero]
  rintro c hc hb
  rcases of_decide_eq_true hb with rfl | rfl
  · exact h.1 hc
  · exact h.2 hc

/-- A part of a text with few brackets has few. -/
theorem Few.part {s t : List Char} (ht : b.Few t) (h : s <:+: t) : b.Few s :=
  Nat.lt_of_le_of_lt h.sublist.countP_le ht

theorem Few.left {s t : List Char} (h : b.Few (s ++ t)) : b.Few s :=
  h.part (List.prefix_append s t).isInfix

theorem Few.right {s t : List Char} (h : b.Few (s ++ t)) : b.Few t :=
  h.part (List.suffix_append s t).isInfix

/-- Among the integers that 32 bits can hold, only zero is zero. -/
theorem ofInt_eq_zero_iff {d : ℤ} (h : d.natAbs < 2 ^ 31) : Int32.ofInt d = 0 ↔ d = 0 := by
  have hvalue : (Int32.ofInt d).toInt = d := Int32.toInt_ofInt_of_le (by omega) (by omega)
  constructor
  · intro hzero
    rw [← hvalue, hzero]
    rfl
  · rintro rfl
    rfl

/-- **Among few brackets, 32 bits are enough**: the counter shows zero exactly where the depth is
zero. -/
theorem Few.counter_eq_zero_iff {t : List Char} (h : b.Few t) :
    b.counter (0 : Int32) t = 0 ↔ b.depth t = 0 := by
  rw [counter_zero]
  exact ofInt_eq_zero_iff (Nat.lt_of_le_of_lt (natAbs_depth_le t) h)

end TableSchema.Text.Brackets
