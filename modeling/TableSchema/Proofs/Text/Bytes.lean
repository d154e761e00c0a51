import Mathlib.Tactic.Common
import TableSchema.Text.Blank
import TableSchema.Text.Nesting

/-!
# Texts by their bytes

A place of a text can be told by the number of bytes before it instead of the number of characters.
Not every number of bytes is a place: it may be too large, or lie inside of a character.  Cutting a
text at a number of bytes is partial for this reason, and so is taking one number from another.

## Main definitions

* `IsBoundary t n` — the first `n` bytes of `t` are whole characters.
* `splitBytes?`, `slice?` — a text cut at bytes; `none` where there is no boundary.
* `less?` — the difference of two numbers, if there is one.
* `charIndices` — the characters of a text, each with the byte where it starts.
* `Brackets.closeByte?`, `Brackets.findByte?` — the searches of `Brackets`, as walks along these.

## Main results

* `splitBytes?_eq_some_iff`, `slice?_eq_some_iff` — what is cut at boundaries.
* `find?_charIndices`, `Brackets.closeByte?_charIndices`, `Brackets.findByte?_charIndices` — a walk
  finds the byte at which the place starts that the search for characters finds.
-/

namespace TableSchema.Text

/-! ### Lengths -/

@[simp] theorem utf8Length_append (s t : List Char) :
    utf8Length (s ++ t) = utf8Length s + utf8Length t := by
  induction s with
  | nil => simp
  | cons c s ih => simp [ih, Nat.add_assoc]

theorem length_le_utf8Length (t : List Char) : t.length ≤ utf8Length t := by
  induction t with
  | nil => exact Nat.le_refl _
  | cons c t ih =>
    have hc : 0 < c.utf8Size := c.utf8Size_pos
    rw [List.length_cons, utf8Length_cons]
    omega

theorem utf8Length_eq_zero_iff {t : List Char} : utf8Length t = 0 ↔ t = [] := by
  constructor
  · intro h
    have hle := length_le_utf8Length t
    exact List.eq_nil_of_length_eq_zero (by omega)
  · rintro rfl
    rfl

/-- The difference of two numbers, if the first is not the smaller one. -/
def less? (m n : ℕ) : Option ℕ := if n ≤ m then some (m - n) else none

theorem less?_eq_some_iff {m n k : ℕ} : less? m n = some k ↔ m = k + n := by
  rw [less?]
  split
  · rw [Option.some.injEq]
    omega
  · simp only [reduceCtorEq, false_iff]
    omega

/-! ### Cuts -/

/-- The first `n` bytes of the text are whole characters. -/
def IsBoundary (t : List Char) (n : ℕ) : Prop := ∃ u v, t = u ++ v ∧ utf8Length u = n

/-- A text cut behind its first `n` bytes, if they are whole characters. -/
def splitBytes? : (n : ℕ) → List Char → Option (List Char × List Char)
  | 0, t => some ([], t)
  | _ + 1, [] => none
  | n + 1, c :: t =>
    if c.utf8Size ≤ n + 1 then
      (splitBytes? (n + 1 - c.utf8Size) t).map fun (u, v) => (c :: u, v)
    else none

/-- The part of a text from byte `i` up to byte `j`, if it consists of whole characters. -/
def slice? (t : List Char) (i j : ℕ) : Option (List Char) := do
  let (_, u) ← splitBytes? i t
  let n ← less? j i
  let (v, _) ← splitBytes? n u
  return v

theorem splitBytes?_utf8Length (u v : List Char) :
    splitBytes? (utf8Length u) (u ++ v) = some (u, v) := by
  induction u with
  | nil => rw [utf8Length_nil, splitBytes?, List.nil_append]
  | cons c u ih =>
    have hc : 0 < c.utf8Size := c.utf8Size_pos
    -- the number of bytes is not zero, so that the cut lies behind the first character
    have hne : c.utf8Size + utf8Length u ≠ 0 := by omega
    obtain ⟨n, hn⟩ := Nat.exists_eq_add_one_of_ne_zero hne
    have hrest : n + 1 - c.utf8Size = utf8Length u := by omega
    rw [utf8Length_cons, List.cons_append, hn, splitBytes?, if_pos (by omega), hrest, ih,
      Option.map_some]

/-- **What is cut at a boundary** is the text in two parts, of which the first has that length. -/
theorem splitBytes?_eq_some_iff {n : ℕ} {t u v : List Char} :
    splitBytes? n t = some (u, v) ↔ t = u ++ v ∧ utf8Length u = n := by
  constructor
  · intro h
    induction t generalizing n u v with
    | nil =>
      cases n with
      | zero =>
        cases h
        exact ⟨rfl, rfl⟩
      | succ n => cases h
    | cons c t ih =>
      cases n with
      | zero =>
        cases h
        exact ⟨rfl, rfl⟩
      | succ n =>
        rw [splitBytes?] at h
        split at h
        next hc =>
          obtain ⟨⟨u', v'⟩, hsplit, heq⟩ := Option.map_eq_some_iff.mp h
          cases heq
          obtain ⟨rfl, hlen⟩ := ih hsplit
          exact ⟨rfl, by rw [utf8Length_cons]; omega⟩
        next => cases h
  · rintro ⟨rfl, rfl⟩
    exact splitBytes?_utf8Length u v

/-- The middle of three parts. -/
theorem slice?_append (s u v : List Char) :
    slice? (s ++ u ++ v) (utf8Length s) (utf8Length (s ++ u)) = some u := by
  have hlen : less? (utf8Length (s ++ u)) (utf8Length s) = some (utf8Length u) :=
    less?_eq_some_iff.mpr (by rw [utf8Length_append, Nat.add_comm])
  rw [slice?, List.append_assoc, splitBytes?_utf8Length]
  simp only [Option.bind_eq_bind, Option.bind_some, hlen, splitBytes?_utf8Length]
  rfl

/-- **What is cut out between two boundaries** is the middle of three parts. -/
theorem slice?_eq_some_iff {t u : List Char} {i j : ℕ} :
    slice? t i j = some u ↔
      ∃ s v, t = s ++ u ++ v ∧ utf8Length s = i ∧ utf8Length (s ++ u) = j := by
  constructor
  · intro h
    obtain ⟨⟨s, r⟩, hs, h⟩ := Option.bind_eq_some_iff.mp h
    obtain ⟨n, hn, h⟩ := Option.bind_eq_some_iff.mp h
    obtain ⟨⟨u', v⟩, hu, h⟩ := Option.bind_eq_some_iff.mp h
    cases h
    obtain ⟨rfl, rfl⟩ := splitBytes?_eq_some_iff.mp hs
    obtain ⟨rfl, rfl⟩ := splitBytes?_eq_some_iff.mp hu
    rw [less?_eq_some_iff] at hn
    refine ⟨s, v, (List.append_assoc s u v).symm, rfl, ?_⟩
    rw [utf8Length_append]
    omega
  · rintro ⟨s, v, rfl, rfl, rfl⟩
    exact slice?_append s u v

/-- The first of two parts. -/
theorem slice?_left {t u v : List Char} (h : t = u ++ v) :
    slice? t 0 (utf8Length u) = some u := by
  rw [h]
  exact slice?_append [] u v

/-- The second of two parts. -/
theorem slice?_right {t u v : List Char} (h : t = u ++ v) :
    slice? t (utf8Length u) (utf8Length t) = some v := by
  have hparts := slice?_append u v []
  rwa [List.append_nil, ← h] at hparts

/-! ### Characters and their bytes -/

/-- The characters of a text that starts at byte `i`, each with the byte where it starts. -/
def charIndices : (i : ℕ) → List Char → List (ℕ × Char)
  | _, [] => []
  | i, c :: t => (i, c) :: charIndices (i + c.utf8Size) t

theorem getElem?_charIndices (i n : ℕ) (t : List Char) :
    (charIndices i t)[n]? = t[n]?.map fun c => (i + utf8Length (t.take n), c) := by
  induction t generalizing i n with
  | nil => rfl
  | cons c t ih =>
    cases n with
    | zero => rfl
    | succ n => simp [charIndices, ih, Nat.add_assoc]

/-- The byte behind the first `n` characters, or behind all of them if there are fewer. -/
theorem getD_getElem?_charIndices (n : ℕ) (t : List Char) :
    (((charIndices 0 t)[n]?.map Prod.fst).getD (utf8Length t)) = utf8Length (t.take n) := by
  rw [getElem?_charIndices]
  cases hn : t[n]? with
  | none =>
    rw [List.take_of_length_le (List.getElem?_eq_none_iff.mp hn)]
    rfl
  | some c => simp

/-- The first character of a kind stands behind those that are not of it. -/
theorem find?_charIndices (p : Char → Bool) (i : ℕ) (t : List Char) :
    (charIndices i t).find? (fun x => p x.2)
      = (t.dropWhile fun c => !p c).head?.map
          fun c => (i + utf8Length (t.takeWhile fun c => !p c), c) := by
  induction t generalizing i with
  | nil => rfl
  | cons c t ih =>
    cases hc : p c with
    | true => simp [charIndices, hc]
    | false => simp [charIndices, hc, ih, Nat.add_assoc]

/-- The first occurrence of a character. -/
theorem find?_charIndices_eq {t u v : List Char} {c : Char} (i : ℕ) (h : t = u ++ c :: v)
    (hu : c ∉ u) : (charIndices i t).find? (fun x => x.2 = c) = some (i + utf8Length u, c) := by
  have hall : ∀ d ∈ u, (!decide (d = c)) = true := by
    intro d hd
    simpa using fun he : d = c => hu (he ▸ hd)
  rw [find?_charIndices fun d => decide (d = c), h, List.dropWhile_append_of_pos hall,
    List.takeWhile_append_of_pos hall]
  simp

theorem find?_charIndices_eq_none {t : List Char} {c : Char} (i : ℕ) (h : c ∉ t) :
    (charIndices i t).find? (fun x => x.2 = c) = none := by
  induction t generalizing i with
  | nil => rfl
  | cons d t ih =>
    obtain ⟨hd, ht⟩ := not_or.mp (mt List.mem_cons.mpr h)
    rw [charIndices, List.find?_cons_of_neg (by simpa using Ne.symm hd), ih _ ht]

/-- A place behind the first character stands behind the bytes of that character. -/
theorem map_take_cons (i : ℕ) (c : Char) (t : List Char) (place : Option ℕ) :
    (place.map (· + 1)).map (fun n => i + utf8Length ((c :: t).take n))
      = place.map fun n => i + c.utf8Size + utf8Length (t.take n) := by
  rw [Option.map_map]
  simp [Function.comp_def, Nat.add_assoc]

/-! ### Searches -/

namespace Brackets

variable (b : Brackets)

/-- The byte where the first closing bracket starts that brings the counter, which shows `depth` at
the start, to zero. -/
def closeByte? : (depth : Int32) → List (ℕ × Char) → Option ℕ
  | _, [] => none
  | depth, (i, c) :: rest =>
    if c = b.opening then closeByte? (depth + 1) rest
    else if c = b.closing then
      if depth - 1 = 0 then some i else closeByte? (depth - 1) rest
    else closeByte? depth rest

/-- The byte where the first `target` starts in front of which the counter, which shows `depth` at
the start, shows zero. -/
def findByte? (target : Char) : (depth : Int32) → List (ℕ × Char) → Option ℕ
  | _, [] => none
  | depth, (i, c) :: rest =>
    if c = b.opening then findByte? target (depth + 1) rest
    else if c = b.closing then findByte? target (depth - 1) rest
    else if c = target ∧ depth = 0 then some i
    else findByte? target depth rest

variable {b}

theorem closeByte?_charIndices (d : Int32) (i : ℕ) (t : List Char) :
    b.closeByte? d (charIndices i t)
      = (b.closeFrom? d t).map fun n => i + utf8Length (t.take n) := by
  induction t generalizing d i with
  | nil => rfl
  | cons c t ih =>
    have hnext (e : Int32) : b.closeByte? e (charIndices (i + c.utf8Size) t)
        = ((b.closeFrom? e t).map (· + 1)).map fun n => i + utf8Length ((c :: t).take n) := by
      rw [ih, map_take_cons]
    -- the counter turns with the character: one case for each kind of it
    rw [charIndices, closeByte?, closeFrom?, turn]
    by_cases ho : c = b.opening
    · have hcloses : b.closes c = false := by simp [closes, ho]
      rw [if_pos ho, if_pos ho, hnext, hcloses, Bool.false_and, if_neg Bool.false_ne_true]
    · rw [if_neg ho, if_neg ho]
      by_cases hc : c = b.closing
      · have hcloses : b.closes c = true := by simpa [closes, ho] using hc
        rw [if_pos hc, if_pos hc, hcloses, Bool.true_and]
        by_cases hd : d - 1 = 0
        · simp [hd]
        · rw [if_neg hd, hnext, if_neg (by simp [hd])]
      · have hcloses : b.closes c = false := by simp [closes, hc]
        rw [if_neg hc, if_neg hc, hnext, hcloses, Bool.false_and, if_neg Bool.false_ne_true]

theorem findByte?_charIndices (target : Char) (d : Int32) (i : ℕ) (t : List Char) :
    b.findByte? target d (charIndices i t)
      = (b.findFrom? target d t).map fun n => i + utf8Length (t.take n) := by
  induction t generalizing d i with
  | nil => rfl
  | cons c t ih =>
    have hnext (e : Int32) : b.findByte? target e (charIndices (i + c.utf8Size) t)
        = ((b.findFrom? target e t).map (· + 1)).map fun n => i + utf8Length ((c :: t).take n) := by
      rw [ih, map_take_cons]
    rw [charIndices, findByte?, findFrom?, turn]
    by_cases ho : c = b.opening
    · have hmarks : b.marks target c = false := by simp [marks, ho]
      rw [if_pos ho, if_pos ho, hnext, hmarks, Bool.false_and, if_neg Bool.false_ne_true]
    · rw [if_neg ho, if_neg ho]
      by_cases hc : c = b.closing
      · have hmarks : b.marks target c = false := by simp [marks, hc]
        rw [if_pos hc, if_pos hc, hnext, hmarks, Bool.false_and, if_neg Bool.false_ne_true]
      · have hmarks : b.marks target c = decide (c = target) := by simp [marks, ho, hc]
        rw [if_neg hc, if_neg hc, hmarks, ← Bool.decide_and]
        by_cases hd : c = target ∧ d = 0
        · simp [hd]
        · rw [if_neg hd, hnext, if_neg (by simpa using hd)]

/-! ### The first cut -/

/-- A text without a cut is one piece. -/
theorem splitFrom_of_findFrom?_eq_none {target : Char} {d : Int32} {t : List Char}
    (h : b.findFrom? target d t = none) : b.splitFrom target d t = [t] := by
  induction t generalizing d with
  | nil => rfl
  | cons c t ih =>
    rw [findFrom?] at h
    split at h
    next => cases h
    next hc => rw [splitFrom, if_neg hc, ih (Option.map_eq_none_iff.mp h), consFirst_cons]

/-- At the first cut, the first piece ends. -/
theorem splitFrom_of_findFrom?_eq_some {target : Char} {d : Int32} {t : List Char} {n : ℕ}
    (h : b.findFrom? target d t = some n) :
    ∃ u v, t = u ++ target :: v ∧ u.length = n ∧
      b.splitFrom target d t = u :: b.splitFrom target (0 : Int32) v := by
  induction t generalizing d n with
  | nil => cases h
  | cons c t ih =>
    rw [findFrom?] at h
    split at h
    next hc =>
      cases h
      have hmarks : b.marks target c = true := (Bool.and_eq_true_iff.mp hc).1
      have htarget : c = target := of_decide_eq_true (Bool.and_eq_true_iff.mp hmarks).2
      exact ⟨[], t, by rw [htarget]; rfl, rfl, by rw [splitFrom, if_pos hc]⟩
    next hc =>
      obtain ⟨m, hm, rfl⟩ := Option.map_eq_some_iff.mp h
      obtain ⟨u, v, rfl, rfl, hsplit⟩ := ih hm
      exact ⟨c :: u, v, rfl, rfl, by rw [splitFrom, if_neg hc, hsplit, consFirst_cons]⟩

end Brackets

end TableSchema.Text
