import TableSchema.Proofs.Ddl.Acceptance

/-!
# Which lists are balanced

The list of a declaration ends at the first closing bracket up to which as many brackets are opened
as closed, and starts at the first opening one.  These two are a pair only if no closing bracket
stands in front of the list.  A stray one is made up for within the list, which then opens more
brackets than it closes, and is accepted all the same.

## Main definitions

* `beforeList rest` — what stands between the name of a table and its list.

## Main results

* `keptList_balanced_iff` — among few brackets, the list that is kept is balanced exactly if nothing
  in front is closed.
* `Session.accepted_list_balanced_iff` — **the lists of an accepted script.**
-/

namespace TableSchema

open Text

/-- What stands between the name of a table and the first opening bracket behind it, in the text
behind the words `CREATE TABLE`. -/
def beforeList (rest : List Char) : List Char := (afterWord rest).takeWhile (· ≠ '(')

/-- **The list that is kept opens a bracket too many for each closing one in front of it**, so it is
balanced exactly if there is none. -/
theorem keptList_balanced_iff {rest list : List Char} (hfew : Brackets.round.Few rest)
    (h : Brackets.round.inside? (afterWord rest) = some list) :
    Brackets.round.depth (trim list) = (beforeList rest).count ')' ∧
      (Brackets.round.Balanced (trim list) ↔ ')' ∉ beforeList rest) := by
  obtain ⟨before, behind, hkeeps⟩ := (Brackets.inside?_eq_some_iff (few_afterWord hfew)).mp h
  have hbefore : beforeList rest = before := hkeeps.takeWhile_eq
  -- the blanks that trimming takes off hold no brackets
  obtain ⟨l, r, hl, hr, hlr⟩ := exists_eq_pad_trim list
  have hbl := (inert_of_blank hl).1
  have hbr := (inert_of_blank hr).1
  have hdepth : Brackets.round.depth (trim list) = Brackets.round.depth list := by
    conv_rhs => rw [hlr, Brackets.depth_append, Brackets.depth_append, hbl.depth, hbr.depth]
    omega
  have hbalanced : Brackets.round.Balanced (trim list) ↔ Brackets.round.Balanced list := by
    conv_rhs => rw [hlr, Brackets.balanced_pad_iff hbl hbr]
  rw [hdepth, hbalanced, hbefore]
  exact ⟨hkeeps.depth_list, hkeeps.balanced_iff⟩

/-- A declaration that can be read has a list. -/
theorem exists_inside?_of_createTranscript_outcome {s : ParseSettings} {rest : List Char}
    {tables : List TableDraft} (h : (Statement.createTranscript s rest).outcome = .ok tables) :
    ∃ list, Brackets.round.inside? (afterWord rest) = some list := by
  obtain ⟨-, list, hlist, -⟩ := createTranscript_outcome_eq_ok_iff_clausesOf.mp h
  exact ⟨list, hlist⟩

/-- **The lists of an accepted script.**  Each declaration has one, and among few brackets it is
balanced exactly if no closing bracket stands between it and the name of the table. -/
theorem Session.accepted_list_balanced_iff {σ : Session} {script : String}
    {tables : List TableDraft} (h : (σ.read script).1.outcome = .ok tables) :
    ∀ rest ∈ declarations script.toList, ∃ list,
      Brackets.round.inside? (afterWord rest) = some list ∧
      (Brackets.round.Few script.toList →
        Brackets.round.depth (trim list) = (beforeList rest).count ')' ∧
        (Brackets.round.Balanced (trim list) ↔ ')' ∉ beforeList rest)) := by
  intro rest hrest
  have hall := Session.outcome_read_eq_ok_iff.mp h
  obtain ⟨d, hd⟩ := exists_forall₂_iff.mp ⟨tables, hall⟩ rest hrest
  obtain ⟨list, hlist⟩ := exists_inside?_of_createTranscript_outcome hd
  exact ⟨list, hlist, fun hfew =>
    keptList_balanced_iff (few_of_mem_declarations hfew hrest) hlist⟩

/-- Behind a name and a blank, the list of a table with a key is balanced. -/
theorem Session.accepted_list_balanced_behind_blank :
    ((Session.mk {} []).read "CREATE TABLE t (a DECIMAL(10, 2), PRIMARY KEY (a))").1.outcome =
        .ok [⟨"t", [⟨"a", .decimal⟩], some "a"⟩] ∧
      Brackets.round.Few "CREATE TABLE t (a DECIMAL(10, 2), PRIMARY KEY (a))".toList ∧
      ∀ rest ∈ declarations "CREATE TABLE t (a DECIMAL(10, 2), PRIMARY KEY (a))".toList, ∃ list,
        Brackets.round.inside? (afterWord rest) = some list ∧
        Brackets.round.depth (trim list) = (beforeList rest).count ')' ∧
        (Brackets.round.Balanced (trim list) ↔ ')' ∉ beforeList rest) := by
  have hok : ((Session.mk {} []).read
      "CREATE TABLE t (a DECIMAL(10, 2), PRIMARY KEY (a))").1.outcome =
        .ok [⟨"t", [⟨"a", .decimal⟩], some "a"⟩] := by decide
  have hfew : Brackets.round.Few
      "CREATE TABLE t (a DECIMAL(10, 2), PRIMARY KEY (a))".toList := by decide
  refine ⟨hok, hfew, fun rest hrest => ?_⟩
  obtain ⟨list, hlist, hbalanced⟩ := Session.accepted_list_balanced_iff hok rest hrest
  exact ⟨list, hlist, hbalanced hfew⟩

/-- Behind a stray closing bracket, a list that is not balanced is accepted. -/
theorem Session.accepts_unbalanced_list :
    ((Session.mk {} []).read "CREATE TABLE t ) ((a INT)").1.outcome =
        .ok [⟨"t", [⟨"(a", .integer⟩], none⟩] ∧
      declarations "CREATE TABLE t ) ((a INT)".toList = ["t ) ((a INT)".toList] ∧
      Brackets.round.inside? (afterWord "t ) ((a INT)".toList) = some "(a INT".toList ∧
      ¬ Brackets.round.Balanced (trim "(a INT".toList) := by
  refine ⟨by decide, by decide, by decide, by decide⟩

end TableSchema
