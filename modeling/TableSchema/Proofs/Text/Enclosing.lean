import TableSchema.Proofs.Text.Nesting

/-!
# What a pair of brackets encloses

The first top-level pair of a text ends at the first closing bracket behind which the counter shows
zero, and starts at the first opening one.  What the search finds is said with the counter alone,
and among few brackets with the depth: the pair ends where as many brackets are opened as closed.
Then an opening bracket stands in front of the end, since the depth is one there.

Among very many brackets the search can stop too early, even in front of any opening bracket.  It
still depends only on the number of closing brackets in front of the pair and on what the pair
encloses.

## Main definitions

* `Brackets.Closes d u` — a closing bracket behind `u` brings the counter to zero.
* `Brackets.ClosesFirst t u behind` — the first closing bracket of `t` that leaves the depth zero
  stands between `u` and `behind`.
* `Brackets.Keeps t before list behind` — `list` stands in the first top-level pair of `t`.

## Main results

* `closeFrom?_eq_some_iff`, `closeFrom?_eq_none_iff` — what the search for a closing bracket finds.
* `Keeps.inside?_congr` — what is enclosed does not depend on what stands around the pair.
* `close?_eq_some_iff`, `close?_eq_none_iff` — what it finds among few brackets.
* `inside?_eq_some_iff` — what the first top-level pair encloses.
* `exists_inside?_iff` — there is such a pair exactly if some closing bracket leaves the depth zero.
* `keeps_of_balanced` — the pair around a balanced text is found.
* `Keeps.balanced_iff` — the pair encloses a balanced text exactly if none is closed in front.
-/

namespace TableSchema.Text.Brackets

variable {b : Brackets}

/-! ### The search for a closing bracket -/

section Search

variable {δ : Type} [OfNat δ 0] [OfNat δ 1] [Add δ] [Sub δ] {d : δ} {c : Char} {t u : List Char}

variable (b) in
/-- A closing bracket behind `u` brings a counter, which shows `d` before `u`, to zero. -/
def Closes (d : δ) (u : List Char) : Prop :=
  b.opening ≠ b.closing ∧ b.counter d (u ++ [b.closing]) = 0

variable (b) in
/-- No closing bracket of the text brings a counter, which shows `d` before it, to zero. -/
def Open (d : δ) (t : List Char) : Prop :=
  ∀ u x v, t = u ++ x :: v → ¬ (x = b.closing ∧ b.Closes d u)

theorem open_nil : b.Open d [] := by simp [Open]

theorem closes_cons : b.Closes d (c :: u) ↔ b.Closes (b.turn d c) u := Iff.rfl

theorem open_cons :
    b.Open d (c :: t) ↔ ¬ (c = b.closing ∧ b.Closes d []) ∧ b.Open (b.turn d c) t := by
  simp only [Open, forall_split_cons, closes_cons]

theorem open_of_closing_notMem (h : b.closing ∉ t) : b.Open d t := by
  rintro u x v rfl ⟨rfl, -⟩
  exact h (by simp)

variable [DecidableEq δ]

theorem closes_iff :
    (c = b.closing ∧ b.Closes d []) ↔ (b.closes c && b.turn d c = 0) = true := by
  simp only [Closes, closes, List.nil_append, counter_cons, counter_nil, Bool.and_eq_true,
    decide_eq_true_eq]
  constructor
  · rintro ⟨rfl, hne, h⟩
    exact ⟨⟨Ne.symm hne, rfl⟩, h⟩
  · rintro ⟨⟨hne, rfl⟩, h⟩
    exact ⟨rfl, Ne.symm hne, h⟩

/-- The search goes on behind a text in which it finds nothing. -/
theorem closeFrom?_append (d : δ) (s t : List Char) :
    b.closeFrom? d (s ++ t)
      = (b.closeFrom? d s).or ((b.closeFrom? (b.counter d s) t).map (s.length + ·)) := by
  induction s generalizing d with
  | nil => simp [closeFrom?]
  | cons c s ih =>
    rw [List.cons_append, closeFrom?, closeFrom?]
    split
    · rfl
    · rw [ih, Option.map_or, Option.map_map, counter_cons]
      refine congrArg _ (congrArg (Option.map · _) (funext fun n => ?_))
      rw [Function.comp_apply, List.length_cons]
      omega

/-- The search finds nothing exactly if no closing bracket brings the counter to zero. -/
theorem closeFrom?_eq_none_iff : b.closeFrom? d t = none ↔ b.Open d t := by
  induction t generalizing d with
  | nil => simp [closeFrom?, open_nil]
  | cons c t ih =>
    rw [open_cons, closes_iff, closeFrom?, ← ih]
    split
    case isTrue hc => simp [hc]
    case isFalse hc => simpa using fun _ => hc

theorem closeFrom?_closing (h : b.Closes d []) (t : List Char) :
    b.closeFrom? d (b.closing :: t) = some 0 := by
  rw [closeFrom?, closes_iff.mp ⟨rfl, h⟩, if_pos rfl]

/-- **Where the search for a closing bracket ends**: at the first that makes the counter zero. -/
theorem closeFrom?_eq_some_iff {i : ℕ} :
    b.closeFrom? d t = some i ↔
      ∃ u v, t = u ++ b.closing :: v ∧ u.length = i ∧ b.Open d u ∧ b.Closes d u := by
  constructor
  · intro h
    induction t generalizing d i with
    | nil => simp [closeFrom?] at h
    | cons c t ih =>
      rw [closeFrom?] at h
      split at h
      case isTrue hc =>
        obtain ⟨rfl, hcl⟩ := closes_iff.mpr hc
        exact ⟨[], t, rfl, Option.some.inj h, open_nil, hcl⟩
      case isFalse hc =>
        obtain ⟨j, hj, rfl⟩ := Option.map_eq_some_iff.mp h
        obtain ⟨u, v, rfl, rfl, hu, hcl⟩ := ih hj
        exact ⟨c :: u, v, rfl, rfl, open_cons.mpr ⟨closes_iff.not.mpr hc, hu⟩,
          closes_cons.mpr hcl⟩
  · rintro ⟨u, v, rfl, rfl, hu, hne, hzero⟩
    have h : b.Closes (b.counter d u) [] := ⟨hne, by rwa [counter_append] at hzero⟩
    rw [closeFrom?_append, closeFrom?_eq_none_iff.mpr hu, Option.none_or, closeFrom?_closing h]
    rfl

end Search

/-! ### The first top-level pair -/

variable (b) in
/-- `list` is what the first top-level pair of brackets in `t` encloses, between `before` and
`behind`: it runs from the first opening bracket to the first closing one up to which as many
brackets are opened as closed. -/
structure Keeps (t before list behind : List Char) : Prop where
  /-- The parts make up the text. -/
  text : t = before ++ b.opening :: (list ++ b.closing :: behind)
  /-- There is no opening bracket further in front. -/
  first : b.opening ∉ before
  /-- Up to the closing bracket as many brackets are opened as closed. -/
  level : b.depth (before ++ b.opening :: (list ++ [b.closing])) = 0
  /-- This is so of no closing bracket further in front. -/
  earliest : ∀ u v, before ++ b.opening :: list = u ++ b.closing :: v →
    b.depth (u ++ [b.closing]) ≠ 0

/-- An opening bracket stands in front of any closing bracket that leaves the depth zero. -/
theorem ne_of_depth_eq_zero {u : List Char} (h : b.depth (u ++ [b.closing]) = 0) :
    b.opening ≠ b.closing := by
  intro he
  simp only [depth, ← he, if_pos, List.count_append, List.count_singleton_self] at h
  omega

/-- The place behind the first opening bracket. -/
theorem afterOpening?_append {before : List Char} (h : b.opening ∉ before) (t : List Char) :
    b.afterOpening? (before ++ t) = (b.afterOpening? t).map (before.length + ·) := by
  induction before with
  | nil => simp
  | cons c before ih =>
    obtain ⟨hc, hbefore⟩ := not_or.mp (mt List.mem_cons.mpr h)
    have hskip := ih hbefore
    rw [afterOpening?, afterOpening?, Option.map_map] at hskip
    rw [List.cons_append, afterOpening?, afterOpening?, List.idxOf?_cons,
      if_neg (by simpa using Ne.symm hc), hskip, Option.map_map, Option.map_map]
    refine congrArg (Option.map · _) (funext fun n => ?_)
    simp only [Function.comp_apply, List.length_cons]
    omega

theorem afterOpening?_cons_opening (t : List Char) :
    b.afterOpening? (b.opening :: t) = some 1 := by
  simp [afterOpening?, List.idxOf?_cons]

theorem afterOpening?_eq_none_iff {t : List Char} : b.afterOpening? t = none ↔ b.opening ∉ t := by
  rw [afterOpening?, Option.map_eq_none_iff, List.idxOf?_eq_none_iff]

/-- A text without brackets in front moves the closing bracket that is found. -/
theorem close?_append_of_bare {l : List Char} (h : b.Bare l) (t : List Char) :
    b.close? (l ++ t) = (b.close? t).map (l.length + ·) := by
  have hcounter : b.counter (0 : Int32) l = 0 := by
    rw [counter_zero, h.depth]
    rfl
  rw [close?, close?, closeFrom?_append,
    closeFrom?_eq_none_iff.mpr (open_of_closing_notMem h.2), hcounter, Option.none_or]

/-- What stands in front without brackets plays no part. -/
theorem inside?_append_of_bare {l : List Char} (h : b.Bare l) (t : List Char) :
    b.inside? (l ++ t) = b.inside? t := by
  rw [inside?, inside?, close?_append_of_bare h]
  cases b.close? t with
  | none => rfl
  | some i =>
    simp only [Option.map_some, Option.bind_eq_bind, Option.bind_some, List.take_length_add_append,
      afterOpening?_append h.1]
    cases b.afterOpening? (t.take i) with
    | none => rfl
    | some j => exact congrArg some (List.drop_length_add_append _)

/-- Nothing is enclosed if no opening bracket stands in front of the closing one that is found. -/
theorem inside?_eq_none {t : List Char} {i : ℕ} (hclose : b.close? t = some i)
    (h : b.opening ∉ t.take i) : b.inside? t = none := by
  rw [inside?, hclose]
  simp only [Option.bind_eq_bind, Option.bind_some, afterOpening?_eq_none_iff.mpr h,
    Option.bind_none]

/-- What is enclosed is a part of the text. -/
theorem infix_of_inside? {t list : List Char} (h : b.inside? t = some list) : list <:+: t := by
  obtain ⟨i, -, h⟩ := Option.bind_eq_some_iff.mp h
  obtain ⟨j, -, h⟩ := Option.bind_eq_some_iff.mp h
  obtain rfl := Option.some.inj h
  exact (List.drop_suffix j _).isInfix.trans (List.take_prefix i t).isInfix

/-- What the end of the pair leaves of the text goes from the first opening bracket on. -/
theorem inside?_eq_of_close? {t u behind before list : List Char} (ht : t = u ++ behind)
    (hclose : b.close? t = some u.length) (hu : u = before ++ b.opening :: list)
    (hbefore : b.opening ∉ before) : b.inside? t = some list := by
  have htake : t.take u.length = u := by rw [ht, List.take_left]
  have hafter : b.afterOpening? u = some (before.length + 1) := by
    rw [hu, afterOpening?_append hbefore, afterOpening?_cons_opening, Option.map_some]
  rw [inside?, hclose]
  simp only [Option.bind_eq_bind, Option.bind_some, htake, hafter]
  rw [hu, List.drop_length_add_append]
  rfl

/-! ### Among very many brackets -/

theorem close?_lt {t : List Char} {i : ℕ} (h : b.close? t = some i) : i < t.length := by
  obtain ⟨u, v, rfl, rfl, -⟩ := closeFrom?_eq_some_iff.mp h
  simp

/-- A closing bracket is found where some closing bracket leaves nothing of the depth in 32 bits. -/
theorem exists_close? {u : List Char} (hne : b.opening ≠ b.closing)
    (h : Int32.ofInt (b.depth (u ++ [b.closing])) = 0) (v : List Char) :
    ∃ i, b.close? (u ++ b.closing :: v) = some i := by
  rw [← Option.ne_none_iff_exists', close?, ne_eq, closeFrom?_eq_none_iff]
  intro hopen
  exact hopen u _ v rfl ⟨rfl, hne, by rw [counter_zero, h]⟩

/-- Among closing brackets alone, one is found as soon as the counter wraps to zero. -/
theorem exists_close?_replicate (hne : b.opening ≠ b.closing) {n : ℕ} (hn : 0 < n)
    (h : Int32.ofInt (-n) = 0) : ∃ i, b.close? (List.replicate n b.closing) = some i := by
  obtain ⟨m, rfl⟩ := Nat.exists_eq_add_one_of_ne_zero (Nat.ne_of_gt hn)
  rw [List.replicate_succ']
  refine exists_close? hne ?_ []
  rw [← List.replicate_succ', ← h, depth]
  simp [Ne.symm hne, List.count_replicate]

/-- The first closing bracket ends a pair if nothing of the depth is left in 32 bits behind it. -/
theorem inside?_of_closing_notMem {before list : List Char} (hne : b.opening ≠ b.closing)
    (hbefore : b.opening ∉ before) (hclosing : b.closing ∉ before ++ b.opening :: list)
    (h : Int32.ofInt (b.depth ((before ++ b.opening :: list) ++ [b.closing])) = 0)
    (behind : List Char) :
    b.inside? ((before ++ b.opening :: list) ++ b.closing :: behind) = some list := by
  refine inside?_eq_of_close? rfl ?_ rfl hbefore
  exact closeFrom?_eq_some_iff.mpr ⟨_, behind, rfl, rfl, open_of_closing_notMem hclosing, hne,
    by rw [counter_zero, h]⟩

/-! ### Among few brackets -/

variable (b) in
/-- The text is `u`, a closing bracket and `behind`, and this is the first closing bracket up to
which as many brackets are opened as closed. -/
structure ClosesFirst (t u behind : List Char) : Prop where
  /-- The parts make up the text. -/
  text : t = u ++ b.closing :: behind
  /-- Up to the closing bracket as many brackets are opened as closed. -/
  level : b.depth (u ++ [b.closing]) = 0
  /-- This is so of no closing bracket further in front. -/
  earliest : ∀ v w, u = v ++ b.closing :: w → b.depth (v ++ [b.closing]) ≠ 0

section Few

variable {t u behind : List Char}

/-- A closing bracket brings the counter to zero exactly if it leaves the depth zero. -/
theorem Few.closes_iff (h : b.Few (u ++ [b.closing])) :
    b.Closes (0 : Int32) u ↔ b.depth (u ++ [b.closing]) = 0 := by
  rw [Closes, h.counter_eq_zero_iff]
  exact and_iff_right_of_imp ne_of_depth_eq_zero

theorem Few.open_iff (h : b.Few t) : b.Open (0 : Int32) t ↔
    ∀ u v, t = u ++ b.closing :: v → b.depth (u ++ [b.closing]) ≠ 0 := by
  have hstart : ∀ u v, t = u ++ b.closing :: v → b.Few (u ++ [b.closing]) := by
    rintro u v rfl
    exact h.part ⟨[], v, by simp⟩
  constructor
  · intro hopen u v ht hlevel
    exact hopen u _ v ht ⟨rfl, (hstart u v ht).closes_iff.mpr hlevel⟩
  · rintro hdepth u x v ht ⟨rfl, hcloses⟩
    exact hdepth u v ht ((hstart u v ht).closes_iff.mp hcloses)

/-- **The search finds the first closing bracket that leaves the depth zero.** -/
theorem close?_eq_some_iff (h : b.Few t) {i : ℕ} :
    b.close? t = some i ↔ ∃ u behind, b.ClosesFirst t u behind ∧ u.length = i := by
  rw [close?, closeFrom?_eq_some_iff]
  constructor
  · rintro ⟨u, behind, rfl, hi, hopen, hcloses⟩
    have hstart : b.Few (u ++ [b.closing]) := h.part ⟨[], behind, by simp⟩
    exact ⟨u, behind, ⟨rfl, hstart.closes_iff.mp hcloses, hstart.left.open_iff.mp hopen⟩, hi⟩
  · rintro ⟨u, behind, ⟨rfl, hlevel, hearliest⟩, hi⟩
    have hstart : b.Few (u ++ [b.closing]) := h.part ⟨[], behind, by simp⟩
    exact ⟨u, behind, rfl, hi, hstart.left.open_iff.mpr hearliest, hstart.closes_iff.mpr hlevel⟩

/-- The place that is found parts the text. -/
theorem closesFirst_of_close? (h : b.Few t) {i : ℕ} (hi : b.close? t = some i) :
    b.ClosesFirst t (t.take i) (t.drop (i + 1)) := by
  obtain ⟨u, behind, hcloses, rfl⟩ := (close?_eq_some_iff h).mp hi
  have hparts : t = (u ++ [b.closing]) ++ behind := by simp [hcloses.text]
  have htake : t.take u.length = u := by rw [hcloses.text, List.take_left]
  have hdrop : t.drop (u.length + 1) = behind := by
    rw [hparts, ← List.length_concat (a := b.closing), List.concat_eq_append, List.drop_left]
  rwa [htake, hdrop]

/-- **The search finds nothing if there is no such bracket.** -/
theorem close?_eq_none_iff (h : b.Few t) :
    b.close? t = none ↔ ∀ u v, t = u ++ b.closing :: v → b.depth (u ++ [b.closing]) ≠ 0 := by
  rw [close?, closeFrom?_eq_none_iff, h.open_iff]

/-- The part in front of the closing bracket opens one bracket more than it closes. -/
theorem ClosesFirst.depth_eq_one (h : b.ClosesFirst t u behind) : b.depth u = 1 := by
  have hlevel := h.level
  rw [depth_append, depth_cons, depth_nil, step_closing b (ne_of_depth_eq_zero h.level)] at hlevel
  omega

/-- **In front of the closing bracket that is found stands an opening one**, since the depth is one
there. -/
theorem ClosesFirst.exists_keeps (h : b.ClosesFirst t u behind) :
    ∃ before list, u = before ++ b.opening :: list ∧ b.Keeps t before list behind := by
  have hmem : b.opening ∈ u := by
    apply opening_mem_of_depth_pos
    rw [h.depth_eq_one]
    exact Int.one_pos
  obtain ⟨before, list, rfl, hbefore⟩ := List.eq_append_cons_of_mem hmem
  refine ⟨before, list, rfl, by simp [h.text], hbefore, ?_, h.earliest⟩
  simpa using h.level

/-- The pair is closed first behind the text that it encloses. -/
theorem Keeps.closesFirst {before list : List Char} (h : b.Keeps t before list behind) :
    b.ClosesFirst t (before ++ b.opening :: list) behind where
  text := by simp [h.text]
  level := by simpa using h.level
  earliest := h.earliest

theorem ClosesFirst.inside?_eq (h : b.ClosesFirst t u behind) (hfew : b.Few t) {before list}
    (hu : u = before ++ b.opening :: list) (hbefore : b.opening ∉ before) :
    b.inside? t = some list :=
  inside?_eq_of_close? h.text ((close?_eq_some_iff hfew).mpr ⟨u, behind, h, rfl⟩) hu hbefore

/-- **What the first top-level pair encloses.** -/
theorem inside?_eq_some_iff (h : b.Few t) {list : List Char} :
    b.inside? t = some list ↔ ∃ before behind, b.Keeps t before list behind := by
  constructor
  · intro hinside
    obtain ⟨i, hi, -⟩ := Option.bind_eq_some_iff.mp hinside
    obtain ⟨u, behind, hcloses, rfl⟩ := (close?_eq_some_iff h).mp hi
    obtain ⟨before, list', hu, hkeeps⟩ := hcloses.exists_keeps
    have hlist := hcloses.inside?_eq h hu hkeeps.first
    obtain rfl := Option.some.inj (hlist.symm.trans hinside)
    exact ⟨before, behind, hkeeps⟩
  · rintro ⟨before, behind, hkeeps⟩
    exact hkeeps.closesFirst.inside?_eq h rfl hkeeps.first

/-- Where a closing bracket is found, something is enclosed. -/
theorem inside?_eq_none_iff (h : b.Few t) : b.inside? t = none ↔ b.close? t = none := by
  constructor
  · intro hinside
    cases hclose : b.close? t with
    | none => rfl
    | some i =>
      obtain ⟨u, behind, hcloses, -⟩ := (close?_eq_some_iff h).mp hclose
      obtain ⟨before, list, hu, hkeeps⟩ := hcloses.exists_keeps
      rw [hcloses.inside?_eq h hu hkeeps.first] at hinside
      cases hinside
  · intro hclose
    rw [inside?, hclose]
    rfl

/-- **There is a top-level pair exactly if some closing bracket leaves the depth zero.** -/
theorem exists_inside?_iff (h : b.Few t) : (∃ list, b.inside? t = some list) ↔
    ∃ u v, t = u ++ b.closing :: v ∧ b.depth (u ++ [b.closing]) = 0 := by
  rw [← Option.isSome_iff_exists, ← Option.ne_none_iff_isSome, ne_eq, inside?_eq_none_iff h,
    close?_eq_none_iff h]
  push Not
  rfl

end Few

/-! ### Balanced texts and stray closing brackets -/

/-- The pair is found around a balanced text behind one without brackets. -/
theorem keeps_of_balanced (hne : b.opening ≠ b.closing) {before list : List Char}
    (hbefore : b.Bare before) (hlist : b.Balanced list) (behind : List Char) :
    b.Keeps (before ++ b.opening :: (list ++ b.closing :: behind)) before list behind where
  text := rfl
  first := hbefore.1
  level := by
    rw [depth_append, hbefore.depth, (hlist.wrap hne).closed, Int.zero_add]
  earliest := by
    intro u v h hd
    -- the start up to that bracket reaches into the list, where the depth is at least one
    have hu : before ++ b.opening :: list = (u ++ [b.closing]) ++ v := by simpa using h
    rcases List.append_eq_append_iff.mp hu with ⟨w, hw, hlist'⟩ | ⟨w, hw, -⟩
    · cases w with
      | nil =>
        have : b.closing ∈ before := by
          rw [← List.append_nil before, ← hw]
          simp
        exact hbefore.2 this
      | cons c w =>
        rw [List.cons_append, List.cons.injEq] at hlist'
        have := hlist.nonneg w v hlist'.2
        rw [hw, depth_append, hbefore.depth, depth_cons, ← hlist'.1, step_opening] at hd
        omega
    · have : b.closing ∈ before := by
        rw [hw]
        simp
      exact hbefore.2 this

/-- Bare texts on both sides play no part in the balance. -/
theorem balanced_pad_iff {l r t : List Char} (hl : b.Bare l) (hr : b.Bare r) :
    b.Balanced (l ++ t ++ r) ↔ b.Balanced t := by
  constructor
  · intro h
    refine ⟨?_, fun u v ht => ?_⟩
    · have hclosed := h.closed
      simpa [hl.depth, hr.depth] using hclosed
    · have hu := h.nonneg (l ++ u) (v ++ r) (by simp [ht])
      simpa [hl.depth] using hu
  · intro h
    exact (hl.balanced.append h).append hr.balanced

/-- A text that closes more than it opens does so first at a closing bracket. -/
theorem exists_closing_of_depth_neg {t : List Char} (h : b.depth t < 0) :
    ∃ u v, t = u ++ b.closing :: v ∧ b.depth (u ++ [b.closing]) = -1 := by
  induction t using List.reverseRecOn with
  | nil => simp at h
  | append_singleton t c ih =>
    by_cases ht : b.depth t < 0
    · obtain ⟨u, v, rfl, hu⟩ := ih ht
      exact ⟨u, v ++ [c], by simp, hu⟩
    · -- only the last character can have closed too much
      have hd : b.depth (t ++ [c]) = b.depth t + b.step c := by simp
      have hc : c = b.closing ∧ b.step c = -1 := by
        rw [hd, step] at h
        rw [step]
        split_ifs at h ⊢ <;> first | omega | exact ⟨‹_›, rfl⟩
      refine ⟨t, [], by rw [hc.1], ?_⟩
      rw [← hc.1]
      omega

theorem depth_of_opening_notMem {t : List Char} (hne : b.opening ≠ b.closing)
    (h : b.opening ∉ t) : b.depth t = -(t.count b.closing : ℤ) := by
  rw [depth, List.count_eq_zero_of_not_mem h, if_neg (Ne.symm hne)]
  omega

section Stray

variable {t before list behind : List Char}

theorem Keeps.opening_ne_closing (h : b.Keeps t before list behind) : b.opening ≠ b.closing := by
  have hlevel := h.level
  rw [← List.cons_append, ← List.append_assoc] at hlevel
  exact ne_of_depth_eq_zero hlevel

/-- In front of the pair stands all that comes before the first opening bracket. -/
theorem Keeps.takeWhile_eq (h : b.Keeps t before list behind) :
    t.takeWhile (· ≠ b.opening) = before := by
  have hall : ∀ c ∈ before, decide (c ≠ b.opening) = true := by
    intro c hc
    simpa using fun he : c = b.opening => h.first (he ▸ hc)
  rw [h.text, List.takeWhile_append_of_pos hall]
  simp

/-- **Each stray closing bracket is made up for within the list**, which opens as many more brackets
than it closes. -/
theorem Keeps.depth_list (h : b.Keeps t before list behind) :
    b.depth list = before.count b.closing := by
  have hne := h.opening_ne_closing
  have hlevel := h.level
  rw [depth_append, depth_cons, depth_append, depth_cons, depth_nil, step_opening,
    step_closing b hne, depth_of_opening_notMem hne h.first] at hlevel
  omega

/-- Where the search stops in front of the pair, nothing is enclosed. -/
theorem Keeps.inside?_eq_none {i : ℕ} (h : b.Keeps t before list behind)
    (hbefore : b.close? before = some i) : b.close? t = some i ∧ b.inside? t = none := by
  have hclose : b.close? t = some i := by
    rw [close?] at hbefore ⊢
    rw [h.text, closeFrom?_append, hbefore, Option.some_or]
  refine ⟨hclose, Brackets.inside?_eq_none hclose ?_⟩
  rw [h.text, List.take_append_of_le_length (Nat.le_of_lt (close?_lt hbefore))]
  exact mt List.mem_of_mem_take h.first

/-- **What the first top-level pair encloses is balanced exactly if no closing bracket stands in
front of the pair.** -/
theorem Keeps.balanced_iff (h : b.Keeps t before list behind) :
    b.Balanced list ↔ b.closing ∉ before := by
  have hdepth := h.depth_list
  constructor
  · intro hlist
    rw [hlist.closed] at hdepth
    exact List.count_eq_zero.mp (by omega)
  · intro hclosing
    have hbefore : b.depth before = 0 := Bare.depth ⟨h.first, hclosing⟩
    rw [List.count_eq_zero_of_not_mem hclosing] at hdepth
    refine ⟨hdepth, fun u v hu => ?_⟩
    by_contra hneg
    -- the pair would have been closed where `u` first closes more than it opens
    obtain ⟨w, x, rfl, hw⟩ := exists_closing_of_depth_neg (Int.not_le.mp hneg)
    refine h.earliest (before ++ b.opening :: w) (x ++ v) (by simp [hu]) ?_
    rw [List.append_assoc, List.cons_append, depth_append, depth_cons, hbefore, hw, step_opening]
    omega

end Stray


end TableSchema.Text.Brackets
