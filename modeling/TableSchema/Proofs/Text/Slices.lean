import TableSchema.Proofs.Text.Pieces

/-!
# Cuts by places

Splitting finds a place to cut, cuts there, and counts the depth anew behind the cut.  The places
can also be found in one pass over the whole text, where the depth is counted from its start, and
the text be cut at all of them afterwards.  Since the depth is zero at each cut, the two agree, also
where the depth goes below zero or characters coincide.  Among few brackets, splitting with a
counter of 32 bits is the same.

## Main definitions

* `Brackets.cutPlaces target t` — all places to cut, found in one pass.
* `slices start places t` — the parts of a text between given places.

## Main results

* `Brackets.splitFrom_induction` — splitting follows the first place to cut.
* `Brackets.split_eq_slices` — **splitting is cutting at all places.**
* `Brackets.whole_of_mem_split` — no piece has a place to cut.
-/

namespace TableSchema.Text

/-! ### Slices -/

/-- The parts of a text from `start` on between the given places, without the characters that stand
there. -/
def slices : (start : ℕ) → (places : List ℕ) → List Char → List (List Char)
  | i, [], t => [t.drop i]
  | i, j :: js, t => (t.take j).drop i :: slices (j + 1) js t

theorem length_slices (i : ℕ) (js : List ℕ) (t : List Char) :
    (slices i js t).length = js.length + 1 := by
  induction js generalizing i with
  | nil => rfl
  | cons j js ih => rw [slices, List.length_cons, List.length_cons, ih]

/-- What stands in front of the start plays no part. -/
theorem slices_append (s : List Char) (i : ℕ) (js : List ℕ) (t : List Char) :
    slices (s.length + i) (js.map (s.length + ·)) (s ++ t) = slices i js t := by
  induction js generalizing i with
  | nil => rw [List.map_nil, slices, slices, List.drop_length_add_append]
  | cons j js ih =>
    rw [List.map_cons, slices, slices, List.take_length_add_append, List.drop_length_add_append,
      Nat.add_assoc, ih]

namespace Brackets

variable {b : Brackets} {target : Char}

/-! ### Places to cut -/

variable (b) in
/-- The places at which the text is to be cut, in one pass: `target` stands there, is no bracket,
and as many brackets are opened as closed in the whole text before it. -/
def cutPlaces (target : Char) (t : List Char) : List ℕ :=
  (List.range t.length).filter fun i => t[i]? = some target ∧ b.Cuts target (b.depth (t.take i))

theorem mem_cutPlaces_iff {t : List Char} {i : ℕ} :
    i ∈ b.cutPlaces target t ↔
      ∃ u v, t = u ++ target :: v ∧ u.length = i ∧ b.Cuts target (b.depth u) := by
  simp only [cutPlaces, List.mem_filter, List.mem_range, decide_eq_true_eq]
  constructor
  · rintro ⟨hi, htarget, hcuts⟩
    obtain ⟨_, rfl⟩ := List.getElem?_eq_some_iff.mp htarget
    refine ⟨t.take i, t.drop (i + 1), ?_, List.length_take_of_le (Nat.le_of_lt hi), hcuts⟩
    rw [List.cons_getElem_drop_succ, List.take_append_drop]
  · rintro ⟨u, v, rfl, rfl, hcuts⟩
    refine ⟨by simp, by simp, ?_⟩
    rwa [List.take_left]

/-- The places come in the order of the text. -/
theorem pairwise_cutPlaces (target : Char) (t : List Char) :
    (b.cutPlaces target t).Pairwise (· < ·) :=
  List.pairwise_lt_range.filter _

theorem cutPlaces_of_whole {t : List Char} (h : b.Whole target 0 t) :
    b.cutPlaces target t = [] := by
  rw [List.eq_nil_iff_forall_not_mem]
  intro i hi
  obtain ⟨u, v, ht, -, hcuts⟩ := mem_cutPlaces_iff.mp hi
  refine h u target v ht ⟨rfl, ?_⟩
  rwa [Int.zero_add]

/-- Of a longer text, the places in its first part are those of that part. -/
theorem filter_range_append (s t : List Char) :
    (List.range s.length).filter (fun i => (s ++ t)[i]? = some target ∧
      b.Cuts target (b.depth ((s ++ t).take i))) = b.cutPlaces target s := by
  refine List.filter_congr fun i hi => ?_
  have hi : i < s.length := List.mem_range.mp hi
  rw [List.getElem?_append_left hi, List.take_append_of_le_length (Nat.le_of_lt hi)]

/-- **Behind a text of depth zero, the places are found as if the text started there.** -/
theorem cutPlaces_append {s : List Char} (hs : b.depth s = 0) (t : List Char) :
    b.cutPlaces target (s ++ t)
      = b.cutPlaces target s ++ (b.cutPlaces target t).map (s.length + ·) := by
  rw [cutPlaces, List.length_append, List.range_add, List.filter_append, filter_range_append,
    List.filter_map]
  refine congrArg _ (congrArg _ (List.filter_congr fun i _ => ?_))
  have hget : (s ++ t)[s.length + i]? = t[i]? := by
    rw [List.getElem?_append_right (Nat.le_add_right _ _), Nat.add_sub_cancel_left]
  have hdepth : b.depth ((s ++ t).take (s.length + i)) = b.depth (t.take i) := by
    rw [List.take_length_add_append, depth_append, hs, Int.zero_add]
  simp only [Function.comp_apply, hget, hdepth]

/-- A text that ends with its first place to cut. -/
theorem cutPlaces_concat {s : List Char} (hs : b.Whole target 0 s)
    (hc : b.Cuts target (b.depth s)) : b.cutPlaces target (s ++ [target]) = [s.length] := by
  rw [cutPlaces, List.length_append, List.length_singleton, List.range_succ, List.filter_append,
    filter_range_append, cutPlaces_of_whole hs, List.filter_singleton]
  simp [hc]

/-! ### Splitting -/

/-- **Splitting follows the first place to cut**: a text without one is left as it is, and another
is cut there and split behind it. -/
theorem splitFrom_induction {P : List Char → List (List Char) → Prop}
    (whole : ∀ t, b.Whole target 0 t → P t [t])
    (cut : ∀ s t, b.Whole target 0 s → b.Cuts target (b.depth s) →
      P t (b.splitFrom target (0 : ℤ) t) →
      P (s ++ target :: t) (s :: b.splitFrom target (0 : ℤ) t))
    (t : List Char) : P t (b.splitFrom target (0 : ℤ) t) := by
  induction hn : t.length using Nat.strong_induction_on generalizing t with
  | _ n ih =>
    have hpieces : b.Pieces target [] t (b.splitFrom target (0 : ℤ) t) := by
      rw [pieces_iff, depth_nil]
    generalize b.splitFrom target (0 : ℤ) t = pieces at hpieces ⊢
    cases hpieces with
    | last h =>
      rw [depth_nil] at h
      exact whole t h
    | @cut _ s t pieces h hcuts hrest =>
      rw [List.nil_append] at hcuts hrest
      rw [depth_nil] at h
      have hsplit : pieces = b.splitFrom target (0 : ℤ) t := by
        rw [pieces_iff.mp hrest, hcuts.depth_concat]
      subst hsplit
      refine cut s t h hcuts (ih t.length ?_ t rfl)
      rw [← hn, List.length_append, List.length_cons]
      omega

/-- Splitting with a counter of integers is cutting at all places. -/
theorem splitFrom_eq_slices (b : Brackets) (target : Char) (t : List Char) :
    b.splitFrom target (0 : ℤ) t = slices 0 (b.cutPlaces target t) t := by
  refine splitFrom_induction (P := fun t pieces => pieces = slices 0 (b.cutPlaces target t) t)
    ?_ ?_ t
  · intro t h
    rw [cutPlaces_of_whole h]
    rfl
  · intro s t hs hc ih
    have hparts : s ++ target :: t = (s ++ [target]) ++ t := by simp
    have hrest := slices_append (s ++ [target]) 0 (b.cutPlaces target t) t
    rw [← ih, Nat.add_zero, List.length_append, List.length_singleton] at hrest
    rw [hparts, cutPlaces_append (Cuts.depth_concat hc), cutPlaces_concat hs hc,
      List.singleton_append, slices, List.length_append, List.length_singleton, hrest,
      List.append_assoc, List.take_left, List.drop_zero]

/-- **Splitting is cutting at all places** that are found in one pass, among few brackets. -/
theorem split_eq_slices {t : List Char} (h : b.Few t) (target : Char) :
    b.split target t = slices 0 (b.cutPlaces target t) t := by
  rw [split_eq_splitFrom h, splitFrom_eq_slices]

/-- No piece has a place to cut, among few brackets. -/
theorem whole_of_mem_split {t p : List Char} (hfew : b.Few t) (h : p ∈ b.split target t) :
    b.Whole target 0 p := by
  rw [split_eq_splitFrom hfew] at h
  clear hfew
  revert h
  refine splitFrom_induction (P := fun _ pieces => p ∈ pieces → b.Whole target 0 p) ?_ ?_ t
  · intro t ht hp
    rwa [List.mem_singleton.mp hp]
  · intro s t hs _ ih hp
    rcases List.mem_cons.mp hp with rfl | hp
    · exact hs
    · exact ih hp

end Brackets

end TableSchema.Text
