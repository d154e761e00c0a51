import TableSchema.Proofs.Text.Blank
import TableSchema.Proofs.Text.Bytes
import TableSchema.Proofs.Text.Enclosing
import TableSchema.Proofs.Text.Pieces
import TableSchema.Text.Cursor

/-!
# Windows

A cursor can be kept as a text and two numbers of bytes, between which the unread text stands.  The
moves then are sums and differences of such numbers, and nothing but their being right keeps the
window in the text and its ends off the insides of characters.  Here each move is written in that
way, and gives nothing where a cut misses a boundary or a difference does not exist.  Followed along
the moves of a cursor, nothing is ever missing.

## Main definitions

* `Window`, `Window.run?`, `Window.runAll?` — windows and their moves.
* `Window.Placed` — both ends of a window are places of the text, in their order.
* `Cursor.window` — the window that belongs to a cursor.
* `Cursor.Within` — one cursor stands inside of another.

## Main results

* `Window.run?_window` — **a move on a window is the move on the cursor.**
* `Cursor.within_run`, `Cursor.run_of_refused` — a move only narrows a cursor, and one that is
  refused leaves it as it is.
* `Window.narrows_along_moves` — **the invariant of whole runs.**
-/

namespace TableSchema.Text

open Cursor (Answer Move)

/-! ### Windows and their moves -/

/-- A text, and the bytes between which it is unread. -/
structure Window where
  /-- The text. -/
  input : List Char
  /-- The bytes before the unread text. -/
  start : ℕ
  /-- The bytes before its end. -/
  stop : ℕ
  deriving DecidableEq, Repr

namespace Window

/-- The window on the whole text. -/
def ofText (t : List Char) : Window := ⟨t, 0, utf8Length t⟩

/-- The unread text. -/
def remaining? (w : Window) : Option (List Char) := slice? w.input w.start w.stop

/-- Whether nothing is left to read. -/
def isEmpty (w : Window) : Bool := w.stop ≤ w.start

/-- The first characters of a text, up to a number of them, and three dots where some are left. -/
def abbreviate? (limit : ℕ) (t : List Char) : Option (List Char) :=
  match (charIndices 0 t)[limit]? with
  | some (cut, _) => (slice? t 0 cut).map (· ++ ['.', '.', '.'])
  | none => some t

/-- The wording of an unread text in a refusal. -/
def excerpt? (t : List Char) : Option String := (abbreviate? 30 t).map String.ofList

/-- Reads a literal. -/
def skip? (w : Window) (lit : List Char) : Option (Answer × Window) := do
  let rest ← w.remaining?
  if (afterLiteral? lit rest).isSome then
    return (.done, { w with start := w.start + utf8Length lit })
  else
    let found ← excerpt? rest
    return (.refused (.expected (String.ofList lit) found), w)

/-- Reads this many characters, or all that are left. -/
def skipChars? (w : Window) (count : ℕ) : Option Window := do
  let rest ← w.remaining?
  let offset := ((charIndices 0 rest)[count]?.map Prod.fst).getD (utf8Length rest)
  return { w with start := w.start + offset }

/-- Reads a word and the blanks behind it. -/
def readWord? (w : Window) : Option (List Char × Window) := do
  let rest ← w.remaining?
  match (charIndices 0 rest).find? fun x => isBlank x.2 with
  | some (pos, _) =>
    let token ← slice? rest 0 pos
    let after ← slice? rest pos (utf8Length rest)
    let gap ← less? (utf8Length after) (utf8Length (trimStart after))
    return (token, { w with start := w.start + (pos + gap) })
  | none => return (rest, { w with start := w.stop })

/-- Leaves out the blanks at the start. -/
def trimStart? (w : Window) : Option Window := do
  let rest ← w.remaining?
  let gap ← less? (utf8Length rest) (utf8Length (trimStart rest))
  return { w with start := w.start + gap }

/-- Leaves out the blanks at the end. -/
def trimEnd? (w : Window) : Option Window := do
  let rest ← w.remaining?
  let gap ← less? (utf8Length rest) (utf8Length (trimEnd rest))
  let stop ← less? w.stop gap
  return { w with stop := stop }

/-- Leaves out the outer blanks. -/
def trim? (w : Window) : Option Window := do
  let w ← w.trimStart?
  w.trimEnd?

/-- Narrows the window to the inside of the first top-level pair of brackets.  The end is moved
before the opening bracket is looked for, also where there is none. -/
def enter? (w : Window) (b : Brackets) : Option (Answer × Window) := do
  let rest ← w.remaining?
  match b.closeByte? 0 (charIndices 0 rest) with
  | none =>
    let found ← excerpt? rest
    return (.refused (.unbalanced b.opening b.closing found), w)
  | some close =>
    let w := { w with stop := w.start + close }
    let rest ← w.remaining?
    match (charIndices 0 rest).find? fun x => x.2 = b.opening with
    | none => return (.refused (.unopened b.opening b.closing), w)
    | some (pos, _) =>
      let w ← trim? { w with start := w.start + (pos + b.opening.utf8Size) }
      return (.done, w)

/-- Reads everything in pieces between the occurrences of `target` outside the brackets, of which
there are fewer than `fuel`. -/
def splitLoop? (target : Char) (b : Brackets) :
    (fuel : ℕ) → Window → Option (List (List Char) × Window)
  | 0, _ => none
  | fuel + 1, w => do
    let rest ← w.remaining?
    match b.findByte? target 0 (charIndices 0 rest) with
    | none => return ([Text.trim rest], { w with start := w.stop })
    | some pos =>
      let piece ← slice? rest 0 pos
      let w := { w with start := w.start + (pos + target.utf8Size) }
      let (pieces, w) ← splitLoop? target b fuel w
      return (Text.trim piece :: pieces, w)

/-- Makes a move. -/
def run? (w : Window) : Move → Option (Answer × Window)
  | .startsWith lit => do
    let rest ← w.remaining?
    return (.truth ((afterLiteral? lit rest).isSome), w)
  | .skip lit => w.skip? lit
  | .skipChars n => do
    let w ← w.skipChars? n
    return (.done, w)
  | .readWord => do
    let (token, w) ← w.readWord?
    return (.piece token, w)
  | .trim => do
    let w ← w.trim?
    return (.done, w)
  | .findClose b => do
    let rest ← w.remaining?
    return (.place (b.closeByte? 0 (charIndices 0 rest)), w)
  | .enter b => w.enter? b
  | .findOutside target b => do
    let rest ← w.remaining?
    return (.place (b.findByte? target 0 (charIndices 0 rest)), w)
  | .split target b => do
    let (pieces, w) ← splitLoop? target b (utf8Length w.input + 1) w
    return (.pieces pieces, w)
  | .abbreviate limit => do
    let rest ← w.remaining?
    let t ← abbreviate? limit rest
    return (.piece t, w)

end Window

/-! ### The window of a cursor -/

namespace Cursor

/-- The window that belongs to a cursor. -/
def window (c : Cursor) : Window :=
  ⟨c.text, utf8Length c.before, utf8Length (c.before ++ c.unread)⟩

@[simp] theorem window_ofText (t : List Char) : (ofText t).window = Window.ofText t := by
  simp [window, ofText, text, Window.ofText]

theorem remaining?_window (c : Cursor) : c.window.remaining? = some c.unread :=
  slice?_append c.before c.unread c.after

/-- Reading on moves the start by the bytes that are read. -/
theorem window_advance (n : ℕ) (c : Cursor) :
    (c.advance n).window
      = { c.window with start := c.window.start + utf8Length (c.unread.take n) } := by
  have hstop : (c.advance n).before ++ (c.advance n).unread = c.before ++ c.unread := by
    rw [advance, List.append_assoc, List.take_append_drop]
  rw [window, text_advance, hstop, advance, utf8Length_append]
  rfl

/-- Cutting off moves the end to behind the bytes that are kept. -/
theorem window_keep (n : ℕ) (c : Cursor) :
    (c.keep n).window
      = { c.window with stop := c.window.start + utf8Length (c.unread.take n) } := by
  rw [window, text_keep, keep, utf8Length_append]
  rfl

theorem window_advance_length {c : Cursor} {u v : List Char} (h : c.unread = u ++ v) :
    (c.advance u.length).window = { c.window with start := c.window.start + utf8Length u } := by
  rw [window_advance, h, List.take_left]

theorem window_keep_length {c : Cursor} {u v : List Char} (h : c.unread = u ++ v) :
    (c.keep u.length).window = { c.window with stop := c.window.start + utf8Length u } := by
  rw [window_keep, h, List.take_left]

/-- The end stands behind the start by the bytes that are unread. -/
theorem stop_window (c : Cursor) : c.window.stop = c.window.start + utf8Length c.unread :=
  utf8Length_append c.before c.unread

end Cursor

/-! ### Moves on windows and on cursors -/

namespace Window

theorem abbreviate?_eq (limit : ℕ) (t : List Char) :
    abbreviate? limit t = some (Text.abbreviate limit t) := by
  rw [abbreviate?, getElem?_charIndices, Text.abbreviate]
  rcases Nat.lt_or_ge limit t.length with h | h
  · have hcut := slice?_left (List.take_append_drop limit t).symm
    rw [List.getElem?_eq_getElem h, if_neg (Nat.not_le.mpr h)]
    simp [hcut]
  · rw [List.getElem?_eq_none h, if_pos h]
    rfl

theorem excerpt?_eq (t : List Char) : excerpt? t = some (excerpt t) := by
  rw [excerpt?, abbreviate?_eq, Option.map_some, excerpt]

variable (c : Cursor)

theorem skip?_window (lit : List Char) :
    c.window.skip? lit = some ((c.run (.skip lit)).1, (c.run (.skip lit)).2.window) := by
  rw [skip?, c.remaining?_window, Cursor.run]
  cases h : afterLiteral? lit c.unread with
  | none => simp [h, excerpt?_eq]
  | some r =>
    have htake : c.unread.take lit.length = lit := by
      rw [afterLiteral?_eq_some.mp h, List.take_left]
    simp [h, Cursor.window_advance, htake]

theorem skipChars?_window (count : ℕ) :
    c.window.skipChars? count = some (c.advance count).window := by
  rw [skipChars?, c.remaining?_window, Cursor.window_advance]
  simp [getD_getElem?_charIndices]

theorem trimStart?_window :
    c.window.trimStart? = some (c.advance (c.unread.takeWhile isBlank).length).window := by
  have hparts : c.unread = c.unread.takeWhile isBlank ++ trimStart c.unread :=
    List.takeWhile_append_dropWhile.symm
  have hgap : less? (utf8Length c.unread) (utf8Length (trimStart c.unread))
      = some (utf8Length (c.unread.takeWhile isBlank)) :=
    less?_eq_some_iff.mpr (by rw [← utf8Length_append, ← hparts])
  rw [trimStart?, c.remaining?_window, Cursor.window_advance_length hparts]
  simp only [Option.bind_eq_bind, Option.bind_some, hgap]
  rfl

theorem trimEnd?_window :
    c.window.trimEnd? = some (c.keep (trimEnd c.unread).length).window := by
  obtain ⟨r, -, hparts⟩ := exists_eq_trimEnd_append c.unread
  have hlen : utf8Length c.unread = utf8Length (trimEnd c.unread) + utf8Length r := by
    rw [← utf8Length_append, ← hparts]
  have hgap : less? (utf8Length c.unread) (utf8Length (trimEnd c.unread)) = some (utf8Length r) :=
    less?_eq_some_iff.mpr (by omega)
  have hstop : less? c.window.stop (utf8Length r)
      = some (c.window.start + utf8Length (trimEnd c.unread)) :=
    less?_eq_some_iff.mpr (by rw [c.stop_window]; omega)
  rw [trimEnd?, c.remaining?_window, Cursor.window_keep_length hparts]
  simp only [Option.bind_eq_bind, Option.bind_some, hgap, hstop]
  rfl

theorem trim?_window : c.window.trim? = some c.trim.window := by
  rw [trim?, trimStart?_window]
  exact trimEnd?_window _

/-- The word and the blanks behind it are what is read. -/
theorem skipWord_eq {u v : List Char} (h : c.unread = u ++ v) (hv : afterWord c.unread = v) :
    c.skipWord = c.advance u.length := by
  rw [Cursor.skipWord, hv, h, List.length_append, Nat.add_sub_cancel]

theorem readWord?_window : c.window.readWord? = some (word c.unread, c.skipWord.window) := by
  obtain ⟨r, hr⟩ : ∃ r, r = c.unread.dropWhile fun d => !isBlank d := ⟨_, rfl⟩
  have hparts : c.unread = word c.unread ++ r := hr ▸ (word_append_dropWhile c.unread).symm
  have hfind := find?_charIndices isBlank 0 c.unread
  rw [← hr, ← word, Nat.zero_add] at hfind
  rw [readWord?, c.remaining?_window]
  simp only [Option.bind_eq_bind, Option.bind_some, hfind]
  cases r with
  | nil =>
    -- without a blank, the word is all that is unread
    have hafter : afterWord c.unread = [] := by rw [afterWord, ← hr, trimStart_nil]
    have hall : c.unread = c.unread ++ [] := (List.append_nil _).symm
    rw [skipWord_eq c hall hafter, Cursor.window_advance_length hall, ← c.stop_window]
    rw [List.append_nil] at hparts
    simp [← hparts]
  | cons d r =>
    have hgap : d :: r = (d :: r).takeWhile isBlank ++ afterWord c.unread := by
      rw [afterWord, ← hr]
      exact List.takeWhile_append_dropWhile.symm
    have hread :
        c.unread = (word c.unread ++ (d :: r).takeWhile isBlank) ++ afterWord c.unread := by
      rw [List.append_assoc, ← hgap, ← hparts]
    have hless : less? (utf8Length (d :: r)) (utf8Length (trimStart (d :: r)))
        = some (utf8Length ((d :: r).takeWhile isBlank)) :=
      less?_eq_some_iff.mpr
        (by rw [← utf8Length_append, trimStart, List.takeWhile_append_dropWhile])
    rw [skipWord_eq c hread rfl, Cursor.window_advance_length hread, utf8Length_append]
    simp only [List.head?_cons, Option.map_some, slice?_left hparts, slice?_right hparts,
      Option.bind_some, hless]
    rfl

theorem enter?_window (b : Brackets) :
    c.window.enter? b = some ((c.enter b).1, (c.enter b).2.window) := by
  rw [enter?, c.remaining?_window]
  simp only [Option.bind_eq_bind, Option.bind_some, Brackets.closeByte?_charIndices, Nat.zero_add]
  rw [Cursor.enter, Brackets.close?]
  cases b.closeFrom? (0 : Int32) c.unread with
  | none => simp [excerpt?_eq]
  | some n =>
    -- the window is cut off at the closing bracket, whatever is left in it
    obtain ⟨d, hd⟩ : ∃ d, d = c.keep n := ⟨_, rfl⟩
    have hcut : d.window
        = { c.window with stop := c.window.start + utf8Length (c.unread.take n) } := by
      rw [hd, Cursor.window_keep]
    simp only [Option.map_some, ← hcut, ← hd, d.remaining?_window, Option.bind_some]
    by_cases hopening : b.opening ∈ d.unread
    · obtain ⟨before, list, hunread, hbefore⟩ := List.eq_append_cons_of_mem hopening
      have hfind := find?_charIndices_eq 0 hunread hbefore
      rw [Nat.zero_add] at hfind
      -- the opening bracket is read together with what stands before it
      have hread : d.unread = (before ++ [b.opening]) ++ list := by
        rw [hunread, List.append_assoc, List.singleton_append]
      have hafter : b.afterOpening? d.unread = some (before ++ [b.opening]).length := by
        rw [hunread, Brackets.afterOpening?_append hbefore, Brackets.afterOpening?_cons_opening,
          List.length_append]
        rfl
      have htrim : trim? { d.window with
            start := d.window.start + (utf8Length before + b.opening.utf8Size) }
          = some (d.advance (before ++ [b.opening]).length).trim.window := by
        rw [← trim?_window, Cursor.window_advance_length hread, utf8Length_append]
        rfl
      rw [hcut] at htrim
      simp only [hfind, hafter, htrim]
      rfl
    · simp only [find?_charIndices_eq_none 0 hopening,
        Brackets.afterOpening?_eq_none_iff.mpr hopening]
      rfl

/-- Behind everything that is unread stands the end. -/
theorem window_advance_all :
    (c.advance c.unread.length).window = { c.window with start := c.window.stop } := by
  rw [Cursor.window_advance_length (List.append_nil _).symm, ← c.stop_window]

/-- With a turn for each piece, everything is read in pieces. -/
theorem splitLoop?_window (target : Char) (b : Brackets) {fuel : ℕ}
    (h : (b.split target c.unread).length ≤ fuel) :
    splitLoop? target b fuel c.window
      = some ((b.split target c.unread).map Text.trim, (c.advance c.unread.length).window) := by
  rw [window_advance_all]
  induction fuel generalizing c with
  | zero =>
    exact absurd (List.eq_nil_of_length_eq_zero (Nat.le_zero.mp h)) (Brackets.splitFrom_ne_nil _)
  | succ fuel ih =>
    rw [splitLoop?, c.remaining?_window]
    simp only [Option.bind_eq_bind, Option.bind_some, Brackets.findByte?_charIndices, Nat.zero_add]
    cases hfind : b.findFrom? target (0 : Int32) c.unread with
    | none =>
      rw [Brackets.split, Brackets.splitFrom_of_findFrom?_eq_none hfind]
      rfl
    | some n =>
      -- the first piece is read, and the character that ends it
      obtain ⟨u, v, hparts, hlen, hsplit⟩ := Brackets.splitFrom_of_findFrom?_eq_some hfind
      have htake : c.unread.take n = u := by rw [hparts, ← hlen, List.take_left]
      have hread : c.unread = (u ++ [target]) ++ v := by
        rw [hparts, List.append_assoc, List.singleton_append]
      obtain ⟨d, hd⟩ : ∃ d, d = c.advance (u ++ [target]).length := ⟨_, rfl⟩
      have hunread : d.unread = v := by rw [hd, Cursor.unread_advance, hread, List.drop_left]
      have hnext : d.window
          = { c.window with start := c.window.start + (utf8Length u + target.utf8Size) } := by
        rw [hd, Cursor.window_advance_length hread, utf8Length_append]
        rfl
      have hfewer : (b.split target d.unread).length ≤ fuel := by
        rw [Brackets.split, hsplit, List.length_cons] at h
        rw [hunread]
        exact Nat.le_of_succ_le_succ h
      have hrest := ih d hfewer
      rw [hunread, hnext] at hrest
      rw [Brackets.split] at hrest ⊢
      simp only [Option.map_some, htake, slice?_left hparts, Option.bind_some, hrest, hsplit]
      rfl

/-- There is a turn for each piece: a cut is a character, and a text has no more characters than
bytes. -/
theorem length_split_le (target : Char) (b : Brackets) :
    (b.split target c.unread).length ≤ utf8Length c.window.input + 1 := by
  have hcuts : (b.split target c.unread).length ≤ c.unread.length + 1 :=
    Brackets.length_splitFrom_le c.unread
  have hle := length_le_utf8Length c.unread
  have htext : utf8Length c.window.input
      = utf8Length c.before + utf8Length c.unread + utf8Length c.after := by
    rw [Cursor.window, Cursor.text, utf8Length_append, utf8Length_append]
  omega

/-- **A move on a window is the move on the cursor**: it gives the same answer, and no cut misses a
boundary. -/
theorem run?_window (m : Move) :
    c.window.run? m = some ((c.run m).1, (c.run m).2.window) := by
  cases m with
  | startsWith lit => rw [run?, c.remaining?_window]; rfl
  | skip lit => exact skip?_window c lit
  | skipChars n => rw [run?, skipChars?_window]; rfl
  | readWord => rw [run?, readWord?_window]; rfl
  | trim => rw [run?, trim?_window]; rfl
  | findClose b =>
    rw [run?, c.remaining?_window]
    simp only [Option.bind_eq_bind, Option.bind_some, Brackets.closeByte?_charIndices, Nat.zero_add]
    rfl
  | enter b => exact enter?_window c b
  | findOutside target b =>
    rw [run?, c.remaining?_window]
    simp only [Option.bind_eq_bind, Option.bind_some, Brackets.findByte?_charIndices, Nat.zero_add]
    rfl
  | split target b => rw [run?, splitLoop?_window c target b (length_split_le c target b)]; rfl
  | abbreviate limit =>
    rw [run?, c.remaining?_window]
    simp only [Option.bind_eq_bind, Option.bind_some, abbreviate?_eq]
    rfl

end Window

/-! ### What a move does to a cursor -/

namespace Cursor

/-- The cursor `d` stands inside of `c`: `left` has been read, and `right` has been cut off. -/
structure Narrows (c d : Cursor) (left right : List Char) : Prop where
  /-- What has been read follows what had been read. -/
  before : d.before = c.before ++ left
  /-- The unread text is part of what it was. -/
  unread : c.unread = left ++ d.unread ++ right
  /-- What has been cut off comes before what had been cut off. -/
  after : d.after = right ++ c.after

/-- One cursor stands inside of another. -/
def Within (d c : Cursor) : Prop := ∃ left right, Narrows c d left right

theorem within_refl (c : Cursor) : c.Within c := ⟨[], [], by simp, by simp, by simp⟩

theorem Within.trans {c d e : Cursor} (hed : e.Within d) (hdc : d.Within c) : e.Within c := by
  obtain ⟨l, r, hl, hu, hr⟩ := hed
  obtain ⟨l', r', hl', hu', hr'⟩ := hdc
  exact ⟨l' ++ l, r ++ r', by rw [hl, hl', List.append_assoc], by rw [hu', hu]; simp,
    by rw [hr, hr', List.append_assoc]⟩

theorem within_advance (n : ℕ) (c : Cursor) : (c.advance n).Within c :=
  ⟨c.unread.take n, [], rfl, by simp, rfl⟩

theorem within_keep (n : ℕ) (c : Cursor) : (c.keep n).Within c :=
  ⟨[], c.unread.drop n, by simp [keep], by simp, rfl⟩

theorem within_trim (c : Cursor) : c.trim.Within c :=
  (within_keep _ _).trans (within_advance _ c)

theorem within_enter (b : Brackets) (c : Cursor) : (c.enter b).2.Within c := by
  rw [enter]
  cases b.close? c.unread with
  | none => exact within_refl c
  | some i =>
    simp only
    cases b.afterOpening? (c.keep i).unread with
    | none => exact within_keep i c
    | some j => exact ((within_trim _).trans (within_advance j _)).trans (within_keep i c)

/-- **A move only narrows a cursor.** -/
theorem within_run (c : Cursor) (m : Move) : (c.run m).2.Within c := by
  cases m with
  | startsWith lit => exact within_refl c
  | skip lit =>
    rw [run]
    cases afterLiteral? lit c.unread with
    | none => exact within_refl c
    | some r => exact within_advance _ c
  | skipChars n => exact within_advance n c
  | readWord => exact within_advance _ c
  | trim => exact within_trim c
  | findClose b => exact within_refl c
  | enter b => exact within_enter b c
  | findOutside target b => exact within_refl c
  | split target b => exact within_advance _ c
  | abbreviate limit => exact within_refl c

theorem unread_trim (c : Cursor) : c.trim.unread = Text.trim c.unread := by
  have hparts : c.unread = c.unread.takeWhile isBlank ++ trimStart c.unread :=
    List.takeWhile_append_dropWhile.symm
  have hstart : (c.advance (c.unread.takeWhile isBlank).length).unread = trimStart c.unread :=
    (congrArg (List.drop _) hparts).trans List.drop_left
  obtain ⟨r, -, hend⟩ := exists_eq_trimEnd_append (trimStart c.unread)
  rw [Cursor.trim, unread_keep, hstart]
  exact (congrArg (List.take _) hend).trans List.take_left

/-- **What can come of entering a pair**: no closing bracket is found, and the cursor stays; or no
opening one stands in front of it, and the cursor is cut off; or what the pair encloses is left,
trimmed. -/
theorem enter_cases (b : Brackets) (c : Cursor) :
    (b.close? c.unread = none ∧
      c.enter b = (.refused (.unbalanced b.opening b.closing (excerpt c.unread)), c)) ∨
    (b.close? c.unread ≠ none ∧ b.inside? c.unread = none ∧
      ∃ d, c.enter b = (.refused (.unopened b.opening b.closing), d)) ∨
    ∃ list d, b.inside? c.unread = some list ∧ c.enter b = (.done, d) ∧
      d.unread = Text.trim list := by
  rw [enter, Brackets.inside?]
  cases b.close? c.unread with
  | none => exact .inl ⟨rfl, rfl⟩
  | some i =>
    simp only [Option.bind_eq_bind, Option.bind_some, unread_keep]
    cases b.afterOpening? (c.unread.take i) with
    | none => exact .inr (.inl ⟨Option.some_ne_none i, rfl, _, rfl⟩)
    | some j => exact .inr (.inr ⟨_, _, rfl, rfl, unread_trim _⟩)

/-- Among few brackets, a pair is entered or the cursor stays: an opening bracket stands in front of
the closing one that is found. -/
theorem enter_eq_of_refused {b : Brackets} {c : Cursor} {cause : Malformation}
    (hfew : b.Few c.unread) (h : (c.enter b).1 = .refused cause) :
    c.enter b = (.refused (.unbalanced b.opening b.closing (excerpt c.unread)), c) := by
  rcases c.enter_cases b with ⟨-, hrun⟩ | ⟨hclose, hinside, -⟩ | ⟨list, d, -, hrun, -⟩
  · exact hrun
  · exact absurd ((Brackets.inside?_eq_none_iff hfew).mp hinside) hclose
  · rw [hrun] at h
    cases h

/-- **A move that is refused leaves the cursor as it is**, unless it enters a pair of brackets among
very many of them. -/
theorem run_of_refused {c : Cursor} {m : Move} {cause : Malformation}
    (h : (c.run m).1 = .refused cause) (hfew : ∀ b, m = .enter b → b.Few c.unread) :
    (c.run m).2 = c := by
  cases m with
  | skip lit =>
    rw [run] at h ⊢
    cases hlit : afterLiteral? lit c.unread with
    | none => rfl
    | some r => rw [hlit] at h; cases h
  | enter b =>
    rw [run] at h ⊢
    rw [enter_eq_of_refused (hfew b rfl) h]
  | startsWith | skipChars | readWord | trim | findClose | findOutside | split | abbreviate =>
    cases h

/-- A text without opening brackets is cut off where a closing one is found. -/
theorem enter_of_opening_notMem {b : Brackets} {c : Cursor} {i : ℕ}
    (hclose : b.close? c.unread = some i) (h : b.opening ∉ c.unread) :
    c.enter b = (.refused (.unopened b.opening b.closing), c.keep i) := by
  have hafter : b.afterOpening? (c.keep i).unread = none :=
    Brackets.afterOpening?_eq_none_iff.mpr (mt List.mem_of_mem_take h)
  simp only [enter, hclose, hafter]

/-- Cutting something off moves the end. -/
theorem window_keep_ne {c : Cursor} {i : ℕ} (h : i < c.unread.length) :
    (c.keep i).window ≠ c.window := by
  intro hsame
  have hunread := congrArg Window.remaining? hsame
  rw [remaining?_window, remaining?_window] at hunread
  have hlength := congrArg List.length (Option.some.inj hunread)
  rw [unread_keep, List.length_take] at hlength
  omega

/-- Moves one after the other keep the text. -/
theorem Within.text_eq {c d : Cursor} (h : d.Within c) : d.text = c.text := by
  obtain ⟨l, r, hl, hu, hr⟩ := h
  rw [text, text, hl, hu, hr]
  simp

/-- The cursor after moves one after the other. -/
def runAll (c : Cursor) : List Move → Cursor
  | [] => c
  | m :: ms => (c.run m).2.runAll ms

/-- **Moves one after the other only narrow a cursor.** -/
theorem within_runAll (c : Cursor) (ms : List Move) : (c.runAll ms).Within c := by
  induction ms generalizing c with
  | nil => exact within_refl c
  | cons m ms ih => exact (ih _).trans (within_run c m)

theorem start_window_le {c d : Cursor} (h : d.Within c) : c.window.start ≤ d.window.start := by
  obtain ⟨l, r, hl, -, -⟩ := h
  simp only [window, hl, utf8Length_append]
  omega

theorem stop_window_le {c d : Cursor} (h : d.Within c) : d.window.stop ≤ c.window.stop := by
  obtain ⟨l, r, hl, hu, -⟩ := h
  simp only [window, hl, hu, utf8Length_append]
  omega

end Cursor

/-! ### Whole runs -/

namespace Window

/-- The window after moves one after the other. -/
def runAll? (w : Window) : List Move → Option Window
  | [] => some w
  | m :: ms => do
    let (_, w) ← w.run? m
    w.runAll? ms

/-- **No cut misses a boundary in a whole run.** -/
theorem runAll?_window (c : Cursor) (ms : List Move) :
    c.window.runAll? ms = some (c.runAll ms).window := by
  induction ms generalizing c with
  | nil => rfl
  | cons m ms ih =>
    rw [runAll?, run?_window]
    exact ih _

/-- The two numbers are places of the text, in their order. -/
structure Placed (w : Window) : Prop where
  /-- The start does not stand behind the end. -/
  start_le : w.start ≤ w.stop
  /-- The end does not stand behind the text. -/
  stop_le : w.stop ≤ utf8Length w.input
  /-- The start lies inside of no character. -/
  start_boundary : IsBoundary w.input w.start
  /-- The end lies inside of no character. -/
  stop_boundary : IsBoundary w.input w.stop

/-- Where there is an unread text, it stands between its own bytes. -/
theorem stop_eq {w : Window} {rest : List Char} (h : w.remaining? = some rest) :
    w.stop = w.start + utf8Length rest := by
  obtain ⟨u, v, -, hstart, hstop⟩ := slice?_eq_some_iff.mp h
  rw [← hstart, ← hstop, utf8Length_append]

theorem placed {w : Window} {rest : List Char} (h : w.remaining? = some rest) : w.Placed where
  start_le := by
    rw [stop_eq h]
    exact Nat.le_add_right _ _
  stop_le := by
    obtain ⟨u, v, htext, -, hstop⟩ := slice?_eq_some_iff.mp h
    rw [htext, ← hstop, utf8Length_append (u ++ rest)]
    exact Nat.le_add_right _ _
  start_boundary := by
    obtain ⟨u, v, htext, hstart, -⟩ := slice?_eq_some_iff.mp h
    exact ⟨u, rest ++ v, by rw [htext, List.append_assoc], hstart⟩
  stop_boundary := by
    obtain ⟨u, v, htext, -, hstop⟩ := slice?_eq_some_iff.mp h
    exact ⟨u ++ rest, v, htext, hstop⟩

theorem isEmpty_iff {w : Window} {rest : List Char} (h : w.remaining? = some rest) :
    w.isEmpty = true ↔ rest = [] := by
  rw [isEmpty, decide_eq_true_eq, stop_eq h, ← utf8Length_eq_zero_iff]
  omega

/-- **The invariant of whole runs.**  After any moves, one more move succeeds or is refused, but
never misses a boundary.  Both numbers stay places of the text; the start never moves back and the
end never forth, so that the unread text is part of what it was; the window is empty exactly if no
text is unread; and a refused move leaves the window as it is, if it does not enter a pair of
brackets or fewer than `2 ^ 31` of them are unread.  Answers and unread texts are those of the
cursor. -/
theorem narrows_along_moves (t : List Char) (ms : List Move) (m : Move) :
    ∃ w w' a rest rest',
      (ofText t).runAll? ms = some w ∧ w.run? m = some (a, w') ∧
      w.remaining? = some rest ∧ w'.remaining? = some rest' ∧
      (w.input = t ∧ w.Placed) ∧ (w'.input = t ∧ w'.Placed) ∧
      w.start ≤ w'.start ∧ w'.stop ≤ w.stop ∧ rest' <:+: rest ∧
      (w.isEmpty = true ↔ rest = []) ∧ (w'.isEmpty = true ↔ rest' = []) ∧
      (∀ cause, a = .refused cause → (∀ b, m = .enter b → b.Few rest) → w' = w) ∧
      a = (((Cursor.ofText t).runAll ms).run m).1 ∧
      rest' = (((Cursor.ofText t).runAll ms).run m).2.unread := by
  obtain ⟨c, hc⟩ : ∃ c, c = (Cursor.ofText t).runAll ms := ⟨_, rfl⟩
  have hstep := c.within_run m
  have hinput : c.window.input = t := by
    have htext : (Cursor.ofText t).text = t := by simp [Cursor.text, Cursor.ofText]
    rw [hc]
    exact (Cursor.within_runAll (Cursor.ofText t) ms).text_eq.trans htext
  have hinput' : (c.run m).2.window.input = t := hstep.text_eq.trans hinput
  have hrest : (c.run m).2.unread <:+: c.unread := by
    obtain ⟨l, r, -, hu, -⟩ := hstep
    exact ⟨l, r, hu.symm⟩
  have hrefused : ∀ cause, (c.run m).1 = .refused cause →
      (∀ b, m = .enter b → b.Few c.unread) → (c.run m).2.window = c.window :=
    fun cause h hfew => by rw [Cursor.run_of_refused h hfew]
  have hunread := c.remaining?_window
  have hunread' := (c.run m).2.remaining?_window
  refine ⟨c.window, (c.run m).2.window, (c.run m).1, c.unread, (c.run m).2.unread, ?_,
    run?_window c m, hunread, hunread', ⟨hinput, placed hunread⟩, ⟨hinput', placed hunread'⟩,
    Cursor.start_window_le hstep, Cursor.stop_window_le hstep, hrest, isEmpty_iff hunread,
    isEmpty_iff hunread', hrefused, by rw [hc], by rw [hc]⟩
  rw [hc, ← Cursor.window_ofText, runAll?_window]

/-- Behind a character of two bytes, a bracket that is never closed. -/
theorem narrows_along_moves_refused :
    let t := "é (b".toList
    let ms : List Move := [.skipChars 1, .trim]
    let refusal : Answer := .refused (.unbalanced '(' ')' "(b")
    (((Cursor.ofText t).runAll ms).run (.enter .round)).1 = refusal ∧
      ∃ w w' rest, (ofText t).runAll? ms = some w ∧ w.run? (.enter .round) = some (refusal, w') ∧
        w.remaining? = some rest ∧ Brackets.round.Few rest ∧ w' = w := by
  intro t ms refusal
  have hrefused : (((Cursor.ofText t).runAll ms).run (.enter .round)).1 = refusal := by decide
  obtain ⟨w, w', a, rest, -, hw, hw', hrest, -, ⟨hinput, -⟩, -, -, -, -, -, -, hsame, ha, -⟩ :=
    narrows_along_moves t ms (.enter .round)
  rw [hrefused] at ha
  have hfew : Brackets.round.Few rest := by
    have hall : Brackets.round.Few t := by decide
    obtain ⟨u, v, htext, -⟩ := slice?_eq_some_iff.mp hrest
    rw [hinput] at htext
    exact hall.part ⟨u, v, htext.symm⟩
  refine ⟨hrefused, w, w', rest, hw, ha ▸ hw', hrest, hfew, hsame _ ha ?_⟩
  rintro b hb
  obtain rfl := Move.enter.inj hb
  exact hfew

/-- Behind `2 ^ 32` closing brackets the counter has wrapped to zero.  The window is cut off at the
last of them before the move is refused. -/
theorem narrows_when_refused :
    let w := ofText (List.replicate (2 ^ 32) ')')
    ∃ w', w.run? (.enter .round) = some (.refused (.unopened '(' ')'), w') ∧ w' ≠ w := by
  intro w
  let c : Cursor := Cursor.ofText (List.replicate (2 ^ 32) ')')
  obtain ⟨i, hi⟩ : ∃ i, Brackets.round.close? c.unread = some i :=
    Brackets.exists_close?_replicate (by decide) (Nat.two_pow_pos 32) (by decide)
  have henter : c.enter .round = (.refused (.unopened '(' ')'), c.keep i) :=
    Cursor.enter_of_opening_notMem hi fun h => absurd (List.eq_of_mem_replicate h) (by decide)
  have hw : w = c.window := (Cursor.window_ofText _).symm
  refine ⟨(c.keep i).window, ?_, ?_⟩
  · rw [hw, run?, enter?_window, henter]
  · rw [hw]
    exact Cursor.window_keep_ne (Brackets.close?_lt hi)

end Window

end TableSchema.Text
