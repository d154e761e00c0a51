import Mathlib.Data.List.Forall2
import Mathlib.Tactic.Common
import TableSchema.Text.Blank
import TableSchema.Text.LowerCase

/-!
# Names in any letter case

A text is compared with a name in lower case.  Lower-casing knows all of Unicode: a letter outside
ASCII may become an ASCII letter, and one character may become two.  Only two letters outside ASCII
come near it: the Kelvin sign becomes `k`, and the dotted capital `İ` becomes `i` and a dot that is
a character of its own.  So a text that becomes a name of small letters is spelled in their capitals
and themselves, unless the name has a `k`.

## Main definitions

* `IsSmall`, `AllSmall` — the small letters of ASCII, and texts of these.
* `Folds d c` — the character `c` becomes the small letter `d`.
* `Spells name text` — the text is the name, with some of its letters as ASCII capitals.

## Main results

* `CaseRun.lower_of_has` — the tables lead from outside ASCII to outside ASCII, the Kelvin sign
  apart.
* `lowerCase_eq_iff` — **which texts become a name of small letters.**
* `lowerCase_eq_iff_spells` — these are the spellings of the name, if it has no `k`.
* `Spells.isAlpha_of_mem` — a spelling consists of letters.
-/

namespace TableSchema.Text

/-! ### Letters -/

/-- The small letters of ASCII. -/
def IsSmall (c : Char) : Prop := 97 ≤ c.toNat ∧ c.toNat ≤ 122

instance : DecidablePred IsSmall := fun _ => instDecidableAnd

/-- The text consists of small letters. -/
def AllSmall (t : List Char) : Prop := ∀ c ∈ t, IsSmall c

instance : DecidablePred AllSmall := fun t =>
  decidable_of_iff (t.all (decide <| IsSmall ·) = true) (by simp [AllSmall])

/-- The character becomes the small letter `d`: it is this, its capital, or the Kelvin sign. -/
def Folds (d c : Char) : Prop := c = d ∨ c = d.toUpper ∨ d = 'k' ∧ c = '\u212A'

instance (d : Char) : DecidablePred (Folds d) := fun _ => instDecidableOr

/-- What holds of the first 128 characters holds of all ASCII characters. -/
theorem of_ascii {p : Char → Prop} (h : ∀ n < 128, p (Char.ofNat n)) {c : Char}
    (hc : c.toNat < 128) : p c :=
  Char.ofNat_toNat c ▸ h c.toNat hc

variable {c d : Char}

theorem IsSmall.ascii (h : IsSmall d) : d.toNat < 128 := Nat.lt_of_le_of_lt h.2 (by decide)

theorem IsSmall.isAlpha (h : IsSmall d) : d.isAlpha = true :=
  of_ascii (p := fun d => IsSmall d → d.isAlpha = true) (by decide) h.ascii h

theorem IsSmall.isAlpha_toUpper (h : IsSmall d) : d.toUpper.isAlpha = true :=
  of_ascii (p := fun d => IsSmall d → d.toUpper.isAlpha = true) (by decide) h.ascii h

theorem ascii_of_isAlpha (h : c.isAlpha = true) : c.toNat < 128 := by
  rcases (Bool.or_eq_true _ _).mp h with hupper | hlower
  · have hlast : c.val ≥ 'A'.val ∧ c.val ≤ 'Z'.val := of_decide_eq_true hupper
    exact Nat.lt_of_le_of_lt (UInt32.le_iff_toNat_le.mp hlast.2) (by decide)
  · have hlast : c.val ≤ 'z'.val := of_decide_eq_true ((Bool.and_eq_true _ _).mp hlower).2
    exact Nat.lt_of_le_of_lt (UInt32.le_iff_toNat_le.mp hlast) (by decide)

/-- No letter is a blank. -/
theorem isBlank_of_isAlpha (h : c.isAlpha = true) : isBlank c = false :=
  of_ascii (p := fun c => c.isAlpha = true → isBlank c = false) (by decide) (ascii_of_isAlpha h) h

theorem lowerLetter_ascii (h : c.toNat < 128) : lowerLetter c = [c.toLower] :=
  of_ascii (p := fun c => lowerLetter c = [c.toLower]) (by decide) h

theorem folds_toLower (h : c.toNat < 128) : IsSmall c.toLower → Folds c.toLower c :=
  of_ascii (p := fun c => IsSmall c.toLower → Folds c.toLower c) (by decide) h

theorem lowerLetter_small (h : IsSmall d) : lowerLetter d = [d] :=
  of_ascii (p := fun d => IsSmall d → lowerLetter d = [d]) (by decide) h.ascii h

theorem lowerLetter_capital (h : IsSmall d) : lowerLetter d.toUpper = [d] :=
  of_ascii (p := fun d => IsSmall d → lowerLetter d.toUpper = [d]) (by decide) h.ascii h

/-! ### Letters outside ASCII -/

theorem toNat_ofNat {n : ℕ} (h : n.isValidChar) : (Char.ofNat n).toNat = n := by
  rw [Char.ofNat, dif_pos h]
  rfl

/-- **The tables lead from outside ASCII to outside ASCII**, the Kelvin sign apart. -/
theorem CaseRun.lower_of_has {r : CaseRun} (hr : r ∈ lowerRuns) {n : ℕ} (h : r.has n = true) :
    n = 0x212A ∨ 128 ≤ (r.lower n).toNat := by
  -- each run other than that of the Kelvin sign ends up above ASCII, and on the same side of the
  -- numbers that are no characters
  have hall : ∀ r ∈ lowerRuns, (r.first = 0x212A ∧ r.last = 0x212A) ∨
      128 ≤ r.first + r.shift ∧
        (r.last + r.shift < 0xD800 ∨ 0xDFFF < r.first + r.shift ∧ r.last + r.shift < 0x110000) := by
    decide +kernel
  simp only [has, Bool.and_eq_true, decide_eq_true_eq] at h
  rcases hall r hr with ⟨hfirst, hlast⟩ | ⟨hlow, hvalid⟩
  · exact .inl (by omega)
  · have hchar : Nat.isValidChar (n + r.shift).toNat := by
      unfold Nat.isValidChar
      omega
    rw [lower, toNat_ofNat hchar]
    exact .inr (by omega)

/-- A letter outside ASCII becomes something that is not all ASCII, the Kelvin sign apart. -/
theorem exists_mem_lowerLetter (h : 128 ≤ c.toNat) (hkelvin : c ≠ '\u212A') :
    ∃ d ∈ lowerLetter c, 128 ≤ d.toNat := by
  unfold lowerLetter
  rw [if_neg (Nat.not_lt.mpr h)]
  split
  next => exact ⟨'\u0307', List.mem_cons_of_mem _ List.mem_cons_self, by decide⟩
  next =>
    split
    next r hfind =>
      have hne : c.toNat ≠ 0x212A := by
        intro he
        exact hkelvin (by rw [← Char.ofNat_toNat c, he])
      have hhas : r.has c.toNat = true := by simpa using List.find?_some hfind
      have hlower := CaseRun.lower_of_has (List.mem_of_find?_eq_some hfind) hhas
      exact ⟨_, List.mem_singleton_self _, hlower.resolve_left hne⟩
    next => exact ⟨c, List.mem_singleton_self c, h⟩

/-! ### Places of a text -/

/-- What a character becomes between what stands before it, backwards, and what stands behind it. -/
def lowerAt (before : List Char) (c : Char) (after : List Char) : List Char :=
  if c = 'Σ' then [if endsWord before after then 'ς' else 'σ'] else lowerLetter c

theorem lowerFrom_cons (before : List Char) (c : Char) (t : List Char) :
    lowerFrom before (c :: t) = lowerAt before c t ++ lowerFrom (c :: before) t := rfl

variable {before after : List Char}

theorem lowerAt_of_folds (hd : IsSmall d) (h : Folds d c) : lowerAt before c after = [d] := by
  have hsigma : c ≠ 'Σ' := by
    rintro rfl
    have hnone : ¬ Folds d 'Σ' :=
      of_ascii (p := fun d => IsSmall d → ¬ Folds d 'Σ') (by decide) hd.ascii hd
    exact hnone h
  rw [lowerAt, if_neg hsigma]
  rcases h with rfl | rfl | ⟨rfl, rfl⟩
  · exact lowerLetter_small hd
  · exact lowerLetter_capital hd
  · decide +kernel

/-- A character that becomes small letters only becomes one of them. -/
theorem exists_folds_of_lowerAt (h : AllSmall (lowerAt before c after)) :
    ∃ d, lowerAt before c after = [d] ∧ Folds d c := by
  rw [lowerAt] at h ⊢
  by_cases hsigma : c = 'Σ'
  · rw [if_pos hsigma] at h
    have hsmall := h _ (List.mem_singleton_self _)
    split at hsmall
    next => exact absurd hsmall (by decide)
    next => exact absurd hsmall (by decide)
  · rw [if_neg hsigma] at h ⊢
    rcases Nat.lt_or_ge c.toNat 128 with hascii | hbeyond
    · rw [lowerLetter_ascii hascii] at h ⊢
      exact ⟨c.toLower, rfl, folds_toLower hascii (h _ (List.mem_singleton_self _))⟩
    · by_cases hkelvin : c = '\u212A'
      · exact ⟨'k', by rw [hkelvin]; decide +kernel, .inr (.inr ⟨rfl, hkelvin⟩)⟩
      · obtain ⟨d, hd, hfar⟩ := exists_mem_lowerLetter hbeyond hkelvin
        exact absurd (h d hd).ascii (Nat.not_lt.mpr hfar)

/-! ### Texts -/

variable {name text : List Char}

theorem lowerFrom_eq_iff (hname : AllSmall name) :
    lowerFrom before text = name ↔ List.Forall₂ Folds name text := by
  induction text generalizing before name with
  | nil => rw [lowerFrom, List.forall₂_nil_right_iff, eq_comm]
  | cons c text ih =>
    rw [lowerFrom_cons]
    constructor
    · rintro rfl
      obtain ⟨hfirst, hrest⟩ := List.forall_mem_append.mp hname
      obtain ⟨d, hd, hfolds⟩ := exists_folds_of_lowerAt hfirst
      rw [hd]
      exact .cons hfolds ((ih hrest).mp rfl)
    · intro h
      cases h with
      | cons hfolds hrest =>
        obtain ⟨hd, hds⟩ := List.forall_mem_cons.mp hname
        rw [lowerAt_of_folds hd hfolds, (ih hds).mpr hrest]
        rfl

/-- **Which texts become a name of small letters**: those that have, letter by letter, the letter,
its capital, or the Kelvin sign for a `k`. -/
theorem lowerCase_eq_iff (hname : AllSmall name) :
    lowerCase text = name ↔ List.Forall₂ Folds name text :=
  lowerFrom_eq_iff hname

/-! ### Spellings -/

/-- The text is the name, with some of its letters as ASCII capitals. -/
def Spells (name text : List Char) : Prop :=
  List.Forall₂ (fun d c => c = d ∨ c = d.toUpper) name text

instance (name text : List Char) : Decidable (Spells name text) :=
  inferInstanceAs (Decidable (List.Forall₂ _ name text))

theorem lowerCase_eq_iff_spells (hname : AllSmall name) (hkelvin : 'k' ∉ name) :
    lowerCase text = name ↔ Spells name text := by
  rw [lowerCase_eq_iff hname, Spells]
  clear hname
  induction name generalizing text with
  | nil => simp only [List.forall₂_nil_left_iff]
  | cons d name ih =>
    rw [List.mem_cons, not_or] at hkelvin
    obtain ⟨hd, hrest⟩ := hkelvin
    cases text with
    | nil => simp
    | cons c text => simp [List.forall₂_cons, ih hrest, Folds, Ne.symm hd]

theorem Spells.length_eq (h : Spells name text) : text.length = name.length :=
  (List.Forall₂.length_eq h).symm

/-- A spelling of small letters consists of ASCII letters. -/
theorem Spells.isAlpha_of_mem (hname : AllSmall name) (h : Spells name text) {c : Char}
    (hc : c ∈ text) : c.isAlpha = true := by
  induction h with
  | nil => exact absurd hc List.not_mem_nil
  | cons hd _ ih =>
    obtain ⟨hsmall, hrest⟩ := List.forall_mem_cons.mp hname
    rcases List.mem_cons.mp hc with rfl | hc
    · rcases hd with rfl | rfl
      · exact hsmall.isAlpha
      · exact hsmall.isAlpha_toUpper
    · exact ih hrest hc

end TableSchema.Text
