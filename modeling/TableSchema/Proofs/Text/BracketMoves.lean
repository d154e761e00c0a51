import TableSchema.Proofs.Text.Slices
import TableSchema.Proofs.Text.Window

/-!
# Moves around brackets

Two moves of a cursor go by the brackets of the unread text: one enters the first top-level pair,
the other splits the text outside of all pairs.  Both keep a counter while they walk along, and
look twice: the one for a closing bracket and then for an opening one in front of it, the other anew
behind each cut.  Here they are described by the depth of the starts of the unread text alone, as
long as fewer than `2 ^ 31` brackets are unread; beyond that, the counter can wrap and both go
astray.

## Main results

* `Cursor.enters_first_pair` — **where the first pair is, and what is left of the text in it.**
* `Cursor.splits_at_cutPlaces` — **splitting is cutting at the places found in one pass.**
-/

namespace TableSchema.Text.Cursor

/-! ### Entering a pair -/

/-- **Where the first top-level pair is, and what is left of the text in it.**  Among few brackets,
the search for its closing bracket answers the number of bytes before the first one up to which as
many brackets are opened as closed.  If there is one, the text is narrowed to what stands between
the first opening bracket and this closing one, trimmed, and an opening bracket is never missing.
There is none if both brackets are the same character.  Where none is found, the move is refused and
the cursor stays.  On windows the same happens. -/
theorem enters_first_pair (c : Cursor) (b : Brackets) :
    (b.Few c.unread →
      (∀ n, c.run (.findClose b) = (.place (some n), c) ↔
        ∃ u behind, b.ClosesFirst c.unread u behind ∧ utf8Length u = n) ∧
      (c.run (.findClose b) = (.place none, c) ↔
        ∀ u v, c.unread = u ++ b.closing :: v → b.depth (u ++ [b.closing]) ≠ 0) ∧
      (∀ u behind, b.ClosesFirst c.unread u behind → ∃ before list d,
        u = before ++ b.opening :: list ∧ b.opening ∉ before ∧
          c.run (.enter b) = (.done, d) ∧ d.unread = Text.trim list) ∧
      (c.run (.enter b)).1 ≠ .refused (.unopened b.opening b.closing)) ∧
    (b.opening = b.closing → c.run (.findClose b) = (.place none, c)) ∧
    (c.run (.findClose b) = (.place none, c) → c.run (.enter b)
      = (.refused (.unbalanced b.opening b.closing (excerpt c.unread)), c)) ∧
    ∀ m ∈ [Move.findClose b, .enter b],
      c.window.run? m = some ((c.run m).1, (c.run m).2.window) := by
  have hfind : c.run (.findClose b) = (.place ((b.close? c.unread).map c.offset), c) := rfl
  have hnone : c.run (.findClose b) = (.place none, c) ↔ b.close? c.unread = none := by
    simp [hfind]
  refine ⟨fun hfew => ⟨fun n => ?_, ?_, fun u behind h => ?_, fun h => ?_⟩, fun hsame => ?_,
    fun h => ?_, fun m _ => Window.run?_window c m⟩
  · simp only [hfind, Prod.mk.injEq, and_true, Answer.place.injEq, Option.map_eq_some_iff,
      Brackets.close?_eq_some_iff hfew]
    constructor
    · rintro ⟨i, ⟨u, behind, h, rfl⟩, rfl⟩
      refine ⟨u, behind, h, ?_⟩
      rw [offset, h.text, List.take_left]
    · rintro ⟨u, behind, h, rfl⟩
      refine ⟨u.length, ⟨u, behind, h, rfl⟩, ?_⟩
      rw [offset, h.text, List.take_left]
  · rw [hnone, Brackets.close?_eq_none_iff hfew]
  · obtain ⟨before, list, rfl, hkeeps⟩ := h.exists_keeps
    have hinside := (Brackets.inside?_eq_some_iff hfew).mpr ⟨before, behind, hkeeps⟩
    rcases c.enter_cases b with ⟨hclose, -⟩ | ⟨-, hmissing, -⟩ | ⟨list', d, hlist, hrun, hunread⟩
    · rw [← Brackets.inside?_eq_none_iff hfew, hinside] at hclose
      cases hclose
    · cases hinside.symm.trans hmissing
    · obtain rfl := Option.some.inj (hinside.symm.trans hlist)
      exact ⟨before, list, d, rfl, hkeeps.first, hrun, hunread⟩
  · have hrefused := congrArg Prod.fst (enter_eq_of_refused hfew h)
    rw [run, hrefused] at h
    cases h
  · rw [hnone, Brackets.close?, Brackets.closeFrom?_eq_none_iff]
    rintro u x v - ⟨-, hne, -⟩
    exact hne hsame
  · rcases c.enter_cases b with ⟨-, hrun⟩ | ⟨hclose, -⟩ | ⟨list, d, hlist, -, -⟩
    · exact hrun
    · exact absurd (hnone.mp h) hclose
    · rw [Brackets.inside?, hnone.mp h] at hlist
      cases hlist

/-- Behind a stray closing bracket and a character of two bytes, the pair that makes up for both. -/
theorem enters_pair_behind_stray_closing :
    let c : Cursor := ⟨"x".toList, ") é ( (a), b) (c)".toList, []⟩
    Brackets.round.Few c.unread ∧
      Brackets.round.ClosesFirst c.unread ") é ( (a".toList ", b) (c)".toList ∧
      c.run (.findClose .round) = (.place (some 9), c) ∧
      ∃ d, c.run (.enter .round) = (.done, d) ∧ d.unread = "(a".toList := by
  intro c
  have hfew : Brackets.round.Few c.unread := by decide
  have hcloses : Brackets.round.ClosesFirst c.unread ") é ( (a".toList ", b) (c)".toList :=
    Brackets.closesFirst_of_close? hfew (i := 8) (by decide)
  obtain ⟨hplace, -, hdone, -⟩ := (enters_first_pair c .round).1 hfew
  obtain ⟨before, list, d, hu, hbefore, hrun, hunread⟩ := hdone _ _ hcloses
  -- the first opening bracket leaves no choice of the list
  have hlist : list = " (a".toList := by
    have hstart : some (4 + 1) = some (before.length + 1) := by
      have hafter := congrArg Brackets.round.afterOpening? hu
      rwa [Brackets.afterOpening?_append hbefore, Brackets.afterOpening?_cons_opening] at hafter
    have hparts : ") é ".toList ++ '(' :: " (a".toList = before ++ '(' :: list := hu
    obtain ⟨-, htail⟩ := List.append_inj hparts (Nat.succ.inj (Option.some.inj hstart))
    exact (List.cons.inj htail).2.symm
  refine ⟨hfew, hcloses, (hplace 9).mpr ⟨_, _, hcloses, by decide⟩, d, hrun, ?_⟩
  rw [hunread, hlist]
  decide

/-- Behind `2 ^ 32` closing brackets the counter has wrapped to zero: a place is found, though more
brackets are closed than opened, and then no opening bracket stands in front of it. -/
theorem enters_no_pair :
    let c : Cursor := .ofText (List.replicate (2 ^ 32) ')')
    (∃ n, c.run (.findClose .round) = (.place (some n), c)) ∧
      (∀ u v, c.unread = u ++ ')' :: v → Brackets.round.depth (u ++ [')']) ≠ 0) ∧
      (c.run (.enter .round)).1 = .refused (.unopened '(' ')') := by
  intro c
  have hopening : '(' ∉ c.unread := fun h => absurd (List.eq_of_mem_replicate h) (by decide)
  obtain ⟨i, hi⟩ : ∃ i, Brackets.round.close? c.unread = some i :=
    Brackets.exists_close?_replicate (by decide) (Nat.two_pow_pos 32) (by decide)
  refine ⟨⟨c.offset i, ?_⟩, fun u v hu => ?_, ?_⟩
  · rw [run, hi, Option.map_some]
  · have hmem : '(' ∉ u ++ [')'] := by
      rw [hu] at hopening
      simp_all
    have hcount : 0 < (u ++ [')']).count ')' := by simp
    rw [Brackets.depth_of_opening_notMem (by decide) hmem, Brackets.round_closing]
    omega
  · rw [run, enter_of_opening_notMem hi hopening]
    rfl

/-! ### Splitting -/

/-- **Splitting is cutting at the places found in one pass** over the whole unread text: where the
character stands, is no bracket, and as many brackets are opened as closed before it.  The loop that
starts anew behind each cut needs a turn for each piece and gives the same; everything is read, and
the pieces with the character between them are the text.  Among few brackets, the pieces are what
stands between those places; there is one piece more than places, and none has the character at
depth zero, unless it is a bracket. -/
theorem splits_at_cutPlaces (c : Cursor) (target : Char) (b : Brackets) :
    let places := b.cutPlaces target c.unread
    let d := (c.run (.split target b)).2
    ∃ pieces, (c.run (.split target b)).1 = .pieces (pieces.map Text.trim) ∧ d.unread = [] ∧
      (∀ fuel, pieces.length ≤ fuel → Window.splitLoop? target b fuel c.window
        = some (pieces.map Text.trim, d.window)) ∧
      d.window.isEmpty = true ∧
      [target].intercalate pieces = c.unread ∧
      (∀ i, i ∈ places ↔ ∃ u v, c.unread = u ++ target :: v ∧ u.length = i ∧
        target ≠ b.opening ∧ target ≠ b.closing ∧ b.depth u = 0) ∧
      places.Pairwise (· < ·) ∧
      (b.Few c.unread →
        pieces = slices 0 places c.unread ∧
        pieces.length = places.length + 1 ∧
        ∀ p ∈ pieces, ∀ u v, p = u ++ target :: v →
          target = b.opening ∨ target = b.closing ∨ b.depth u ≠ 0) := by
  intro places d
  have hend : d.unread = [] := List.drop_length
  refine ⟨b.split target c.unread, rfl, hend,
    fun fuel hfuel => Window.splitLoop?_window c target b hfuel,
    (Window.isEmpty_iff d.remaining?_window).mpr hend, Brackets.intercalate_splitFrom c.unread,
    fun i => Brackets.mem_cutPlaces_iff, Brackets.pairwise_cutPlaces target c.unread,
    fun hfew => ?_⟩
  have hpieces := Brackets.split_eq_slices hfew target
  refine ⟨hpieces, by rw [hpieces, length_slices], fun p hp u v hpuv => ?_⟩
  have hcuts := Brackets.whole_of_mem_split hfew hp u target v hpuv
  rw [Int.zero_add, Brackets.Cuts] at hcuts
  tauto

/-- A stray closing bracket puts the first comma below depth zero; the next two are places to cut,
with nothing between them, and the one inside of the pair is not. -/
theorem splits_behind_stray_closing :
    let c : Cursor := ⟨[], "a), (é,, b(c,d)".toList, []⟩
    Brackets.round.Few c.unread ∧
      Brackets.round.cutPlaces ',' c.unread = [6, 7] ∧
      (c.run (.split ',' .round)).1 = .pieces ["a), (é".toList, [], "b(c,d)".toList] ∧
      Window.splitLoop? ',' .round 3 c.window
        = some (["a), (é".toList, [], "b(c,d)".toList], (c.run (.split ',' .round)).2.window) := by
  intro c
  have hfew : Brackets.round.Few c.unread := by decide
  have hplaces : Brackets.round.cutPlaces ',' c.unread = [6, 7] := by decide
  obtain ⟨pieces, hrun, -, hloop, -, -, -, -, hcut⟩ := splits_at_cutPlaces c ',' .round
  obtain ⟨hpieces, hlength, -⟩ := hcut hfew
  rw [hplaces] at hpieces hlength
  have htrimmed : pieces.map Text.trim = ["a), (é".toList, [], "b(c,d)".toList] := by
    rw [hpieces]
    decide
  rw [htrimmed] at hrun hloop
  exact ⟨hfew, hplaces, hrun, hloop 3 (Nat.le_of_eq hlength)⟩

/-- Behind `2 ^ 32` opening brackets the counter has wrapped to zero: the text is cut there, though
more brackets are opened than closed. -/
theorem splits_within_brackets :
    let c : Cursor := .ofText (List.replicate (2 ^ 32) '(' ++ ",x".toList)
    Brackets.round.cutPlaces ',' c.unread = [] ∧
      ∃ piece, (c.run (.split ',' .round)).1 = .pieces [piece, "x".toList] := by
  intro c
  have hcomma : ',' ∉ List.replicate (2 ^ 32) '(' :=
    fun h => absurd (List.eq_of_mem_replicate h) (by decide)
  have hdepth : Brackets.round.depth (List.replicate (2 ^ 32) '(') = (2 ^ 32 : ℕ) :=
    Brackets.depth_replicate_opening .round (2 ^ 32)
  constructor
  · refine Brackets.cutPlaces_of_whole ((Brackets.whole_of_notMem hcomma).append ?_)
    rw [hdepth]
    refine Brackets.whole_cons.mpr ⟨?_, Brackets.whole_of_notMem (by decide)⟩
    rintro ⟨-, -, -, h⟩
    omega
  · have hzero : Brackets.round.counter (0 : Int32) (List.replicate (2 ^ 32) '(') = 0 := by
      rw [Brackets.counter_zero, hdepth]
      decide
    refine ⟨Text.trim (List.replicate (2 ^ 32) '('), ?_⟩
    have hsplit : Brackets.round.split ',' c.unread = [List.replicate (2 ^ 32) '(', "x".toList] :=
      Brackets.splitFrom_append_of_notMem hcomma (by decide) (by decide) hzero ['x']
    rw [run, hsplit]
    rfl

end TableSchema.Text.Cursor
