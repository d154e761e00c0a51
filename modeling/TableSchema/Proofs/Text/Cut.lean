import TableSchema.Text.Cut

/-!
# Cutting at every occurrence

Cutting a text at every occurrence of a character is the library's `List.splitOn`, so all that is
known of it carries over.

## Main results

* `splitAt_eq_splitOn` — cutting is `List.splitOn`.
* `splitAt_append_cons` — the pieces of two texts with the character between them.
* `splitAt_eq_singleton_iff` — a text falls into one piece exactly if it lacks the character.
-/

namespace TableSchema.Text

/-- **Cutting is `List.splitOn`.** -/
theorem splitAt_eq_splitOn (sep : Char) (t : List Char) : splitAt sep t = t.splitOn sep := by
  induction t with
  | nil => rfl
  | cons c t ih =>
    rw [List.splitOn_cons_eq_if_modifyHead, ← ih]
    by_cases h : c = sep
    · rw [h, splitAt_self, beq_self_eq_true, if_pos rfl]
    · rw [splitAt_of_ne h, beq_eq_false_iff_ne.mpr h, if_neg Bool.false_ne_true]
      cases hs : splitAt sep t with
      | nil => exact absurd (ih ▸ hs) (List.splitOn_ne_nil sep t)
      | cons p ps => rfl

/-- The pieces of two texts with the character between them. -/
theorem splitAt_append_cons (sep : Char) (s t : List Char) :
    splitAt sep (s ++ sep :: t) = splitAt sep s ++ splitAt sep t := by
  rw [splitAt_eq_splitOn, splitAt_eq_splitOn, splitAt_eq_splitOn]
  exact List.splitOnP_append_cons s t (beq_self_eq_true sep)

theorem splitAt_ne_nil (sep : Char) (t : List Char) : splitAt sep t ≠ [] := by
  rw [splitAt_eq_splitOn]
  exact List.splitOn_ne_nil sep t

theorem splitAt_of_notMem {sep : Char} {t : List Char} (h : sep ∉ t) : splitAt sep t = [t] := by
  rw [splitAt_eq_splitOn, List.splitOn_eq_singleton h]

/-- No piece has the character at which the text was cut. -/
theorem notMem_of_mem_splitAt {sep : Char} {t p : List Char} (h : p ∈ splitAt sep t) :
    sep ∉ p := by
  induction t generalizing p with
  | nil => simp_all
  | cons c t ih =>
    by_cases hc : c = sep
    · rw [hc, splitAt_self, List.mem_cons] at h
      rcases h with rfl | h
      · exact List.not_mem_nil
      · exact ih h
    · rw [splitAt_of_ne hc] at h
      cases hs : splitAt sep t with
      | nil => exact absurd hs (splitAt_ne_nil sep t)
      | cons q qs =>
        rw [hs, consFirst_cons, List.mem_cons] at h
        rcases h with rfl | h
        · have hq := ih (p := q) (by simp [hs])
          simp [Ne.symm hc, hq]
        · exact ih (by simp [hs, h])

/-- A text falls into one piece exactly if it lacks the character. -/
theorem splitAt_eq_singleton_iff {sep : Char} {t p : List Char} :
    splitAt sep t = [p] ↔ p = t ∧ sep ∉ t := by
  constructor
  · intro h
    have hp : p = t := by
      have hj : [sep].intercalate (t.splitOn sep) = t := List.intercalate_splitOn sep
      rw [← splitAt_eq_splitOn, h] at hj
      simpa using hj
    exact ⟨hp, hp ▸ notMem_of_mem_splitAt (h ▸ List.mem_singleton_self p)⟩
  · rintro ⟨rfl, h⟩
    exact splitAt_of_notMem h

/-- A character of none of the texts is not in what they are put together to. -/
theorem notMem_intercalate {c : Char} {sep : List Char} (hsep : c ∉ sep) {ts : List (List Char)}
    (h : ∀ t ∈ ts, c ∉ t) : c ∉ sep.intercalate ts := by
  induction ts with
  | nil => exact List.not_mem_nil
  | cons t ts ih =>
    obtain ⟨ht, hts⟩ := List.forall_mem_cons.mp h
    cases ts with
    | nil => rwa [List.intercalate_singleton]
    | cons u us =>
      rw [List.intercalate_cons_cons, List.mem_append, List.mem_append]
      rintro ((hc | hc) | hc)
      · exact ht hc
      · exact hsep hc
      · exact ih hts hc

/-- Each of the texts is a part of what they are put together to. -/
theorem infix_intercalate {sep t : List Char} {ts : List (List Char)} (ht : t ∈ ts) :
    t <:+: sep.intercalate ts := by
  induction ts with
  | nil => exact absurd ht List.not_mem_nil
  | cons u us ih =>
    cases us with
    | nil =>
      obtain rfl := List.mem_singleton.mp ht
      exact ⟨[], [], by simp⟩
    | cons v vs =>
      rw [List.intercalate_cons_cons]
      rcases List.mem_cons.mp ht with rfl | ht
      · exact ((List.prefix_append t sep).trans (List.prefix_append _ _)).isInfix
      · exact (ih ht).trans (List.suffix_append _ _).isInfix

/-- What is in one of the texts is in what they are put together to. -/
theorem mem_intercalate {c : Char} {sep t : List Char} {ts : List (List Char)} (ht : t ∈ ts)
    (hc : c ∈ t) : c ∈ sep.intercalate ts :=
  (infix_intercalate ht).subset hc

/-- The pieces are parts of the text. -/
theorem infix_of_mem_splitAt {sep : Char} {t p : List Char} (hp : p ∈ splitAt sep t) :
    p <:+: t := by
  have htext : [sep].intercalate (t.splitOn sep) = t := List.intercalate_splitOn sep
  rw [splitAt_eq_splitOn] at hp
  rw [← htext]
  exact infix_intercalate hp

/-- What a piece has is in the text. -/
theorem mem_of_mem_splitAt {sep c : Char} {t p : List Char} (hp : p ∈ splitAt sep t) (hc : c ∈ p) :
    c ∈ t :=
  (infix_of_mem_splitAt hp).subset hc

/-- Behind a literal start stands the rest. -/
@[simp] theorem afterLiteral?_append (lit r : List Char) : afterLiteral? lit (lit ++ r) = some r :=
  afterLiteral?_eq_some.mpr rfl

theorem afterLiteral?_eq_none_iff {lit t : List Char} :
    afterLiteral? lit t = none ↔ ¬ lit <+: t := by
  rw [← Option.not_isSome_iff_eq_none, Option.isSome_iff_exists]
  refine not_congr ⟨?_, ?_⟩
  · rintro ⟨r, hr⟩
    exact ⟨r, (afterLiteral?_eq_some.mp hr).symm⟩
  · rintro ⟨r, rfl⟩
    exact ⟨r, afterLiteral?_append lit r⟩

end TableSchema.Text
