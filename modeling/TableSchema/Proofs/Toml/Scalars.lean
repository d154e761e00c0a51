import Mathlib.Data.List.Basic
import Mathlib.Tactic.Common
import TableSchema.Toml.Scalars

/-!
# Reading back whole numbers

The decimal digits of a number are read as that number: they have no leading zero, no grouping and
no sign, and so fall under none of the other notations.

## Main results

* `ungroup?_of_digits` — digits without underscores between them.
* `ofDigits_toDigits` — the digits of a number make that number.
* `scalar?_toDigits` — **the digits of a number say this number.**
-/

namespace TableSchema.Toml

open Text

theorem digit?_of_isDigit {c : Char} (h : c.isDigit = true) :
    digit? 10 c = some (c.toNat - '0'.toNat) := by
  have hrange : 48 ≤ c.toNat ∧ c.toNat ≤ 57 := by
    simpa [Char.isDigit, Char.le_def, UInt32.le_iff_toNat_le] using h
  have hvalue : hexValue? c = some (c.toNat - 48) := by
    rw [hexValue?, if_pos hrange]
  have hsmall : c.toNat - 48 < 10 := by omega
  rw [digit?, hvalue]
  exact if_pos hsmall

/-- Digits without underscores between them are taken one by one. -/
theorem ungroup?_of_digits {t : List Char} (hne : t ≠ []) (h : ∀ c ∈ t, c.isDigit = true) :
    ungroup? 10 t = some (t.map fun c => c.toNat - '0'.toNat) := by
  induction t with
  | nil => exact absurd rfl hne
  | cons c t ih =>
    obtain ⟨hc, ht⟩ := List.forall_mem_cons.mp h
    cases t with
    | nil =>
      rw [ungroup?, digit?_of_isDigit hc]
      rfl
    | cons d t =>
      have hd : d ≠ '_' := by
        rintro rfl
        exact absurd (ht '_' (by simp)) (by decide)
      have hrest := ih (List.cons_ne_nil d t) ht
      rw [ungroup?.eq_def]
      split
      next heq => cases heq
      next heq => exact absurd (List.cons.inj (List.cons.inj heq).2).1 hd
      next heq => cases heq
      next heq =>
        obtain ⟨rfl, rfl⟩ := List.cons.inj heq
        simp only [digit?_of_isDigit hc, hrest, List.map_cons]

/-- The digits of a number make that number. -/
theorem ofDigits_toDigits (n : ℕ) :
    ofDigits 10 ((Nat.toDigits 10 n).map fun c => c.toNat - '0'.toNat) = n := by
  have hvalue := Nat.ofDigitChars_ten_toDigits (n := n)
  rw [Nat.ofDigitChars_eq_foldl] at hvalue
  rw [ofDigits, List.foldl_map]
  simpa only [Nat.mul_comm] using hvalue

/-- Only the number zero starts with the digit zero. -/
theorem eq_nil_of_toDigits_eq_cons_zero {n : ℕ} {t : List Char}
    (h : Nat.toDigits 10 n = '0' :: t) : t = [] := by
  induction n using Nat.strongRecOn generalizing t with
  | ind n ih =>
    rw [Nat.toDigits_eq_if (by decide)] at h
    by_cases hn : n < 10
    · rw [if_pos hn] at h
      exact (List.cons.inj h).2.symm
    · -- the digits before the last would be those of zero, but the number is not below ten
      rw [if_neg hn] at h
      obtain ⟨u, hu⟩ : ∃ u, Nat.toDigits 10 (n / 10) = '0' :: u := by
        cases hd : Nat.toDigits 10 (n / 10) with
        | nil => exact absurd hd Nat.toDigits_ne_nil
        | cons c u =>
          rw [hd, List.cons_append] at h
          exact ⟨u, by rw [(List.cons.inj h).1]⟩
      have hzero := Nat.ofDigitChars_ten_toDigits (n := n / 10)
      rw [hu, ih (n / 10) (by omega) hu] at hzero
      have : n / 10 = 0 := by rw [← hzero]; decide
      omega

theorem isDigit_toDigits {n : ℕ} {c : Char} (h : c ∈ Nat.toDigits 10 n) : c.isDigit = true :=
  Nat.isDigit_of_mem_toDigits (by decide) (by decide) h

theorem whole?_toDigits (n : ℕ) :
    whole? (Nat.toDigits 10 n) = some ((Nat.toDigits 10 n).map fun c => c.toNat - '0'.toNat) := by
  rw [whole?, ungroup?_of_digits Nat.toDigits_ne_nil fun c => isDigit_toDigits]
  split
  next a b hdigits =>
    -- a leading zero would be all of the number
    obtain ⟨c, t, ht, hc, hrest⟩ := List.map_eq_cons_iff.mp (Option.some.inj hdigits)
    obtain ⟨d, u, rfl, -, -⟩ := List.map_eq_cons_iff.mp hrest
    have hzero : c = '0' := by
      have hrange := isDigit_toDigits (c := c) (n := n) (by simp [ht])
      simp only [Char.isDigit, UInt32.le_iff_toNat_le, Bool.and_eq_true,
        decide_eq_true_eq] at hrange
      have hleast : 48 ≤ c.toNat := hrange.1
      have hvalue : c.toNat - 48 = 0 := hc
      have hchar : '0'.toNat = 48 := rfl
      exact Char.toNat_inj.mp (by omega)
    rw [hzero] at ht
    exact absurd (eq_nil_of_toDigits_eq_cons_zero ht) (List.cons_ne_nil d u)
  next => rfl

/-- The digits of a number are no other notation of whole numbers. -/
theorem anyInteger?_toDigits (n : ℕ) : anyInteger? (Nat.toDigits 10 n) = some (n : Int) := by
  have hdigit : ∀ {c t}, Nat.toDigits 10 n = '0' :: c :: t → False := by
    intro c t h
    exact List.cons_ne_nil c t (eq_nil_of_toDigits_eq_cons_zero h)
  have hsign : splitSign (Nat.toDigits 10 n) = (1, Nat.toDigits 10 n) := by
    rw [splitSign.eq_def]
    split
    next h => exact absurd (isDigit_toDigits (c := '+') (n := n) (by simp [h])) (by decide)
    next h => exact absurd (isDigit_toDigits (c := '-') (n := n) (by simp [h])) (by decide)
    next => rfl
  rw [anyInteger?.eq_def]
  split
  next h => exact absurd h hdigit
  next h => exact absurd h hdigit
  next h => exact absurd h hdigit
  next => rw [hsign, whole?_toDigits, Option.map_some, ofDigits_toDigits, Int.one_mul]

theorem integer?_toDigits {n : ℕ} (h : n < Nat.pow 2 128) :
    integer? (Nat.toDigits 10 n) = some (n : Int) := by
  have hfits : fits n = true := by
    rw [Nat.pow_eq] at h
    simp only [fits, Bool.and_eq_true, decide_eq_true_eq, Nat.pow_eq]
    omega
  rw [integer?, anyInteger?_toDigits]
  simp only [hfits, if_true]

/-- **The digits of a number say this number**, if it is not too large. -/
theorem scalar?_toDigits {n : ℕ} (h : n < Nat.pow 2 128) :
    scalar? (Nat.toDigits 10 n) = some (.integer n) := by
  have hword : ∀ {c : Char} {t}, c.isDigit = false → Nat.toDigits 10 n ≠ c :: t := by
    intro c t hc heq
    exact Bool.false_ne_true (hc.symm.trans (isDigit_toDigits (n := n) (by simp [heq])))
  have htrue : Nat.toDigits 10 n ≠ "true".toList := hword (c := 't') (by decide)
  have hfalse : Nat.toDigits 10 n ≠ "false".toList := hword (c := 'f') (by decide)
  rw [scalar?, if_neg htrue, if_neg hfalse, integer?_toDigits h]

end TableSchema.Toml
