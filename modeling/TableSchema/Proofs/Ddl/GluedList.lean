import TableSchema.Proofs.Ddl.Malformation

/-!
# Lists glued to a name

The name of a table goes up to the first blank.  Where a list follows the name without a blank, or
there is no name, the first word of the list is taken into the name, and the search for a list
starts within the list.  If it finds the brackets of a type there, what they enclose is read as the
list.

## Main definitions

* `Glued rest head list behind` — the list follows `head`, a name or nothing, without a blank.
* `ReadAsWritten outcome place head list` — a script is refused as malformed, or the table at this
  place is read as this list.

## Main results

* `Glued.readAsWritten_iff` — a declaration with a glued list is read as written exactly if it is
  malformed from the first blank on.
* `Session.glued_list_read_iff` — **names with brackets, and when glued lists are read as written.**
-/

namespace TableSchema

open Text

/-- The text behind the words `CREATE TABLE` consists of a head, which is the name of a table or
empty, a list in brackets that follows at once, and what stands behind the list. -/
structure Glued (rest head list behind : List Char) : Prop where
  /-- The parts make up the text. -/
  text : rest = head ++ '(' :: (list ++ ')' :: behind)
  /-- The head has no blanks. -/
  solid : Solid head
  /-- The head has no brackets. -/
  bare : Brackets.round.Bare head
  /-- The brackets in the list are balanced. -/
  balanced : Brackets.round.Balanced list

/-- The script is refused as malformed, or the table at this place has the name in front of the list
and what the segments of the list say. -/
def ReadAsWritten (outcome : Except Fault (List TableDraft)) (place : ℕ) (head list : List Char) :
    Prop :=
  (∃ cause, outcome = .error (.malformed cause)) ∨
    ∃ tables d segments, outcome = .ok tables ∧ tables[place]? = some d ∧ head ≠ [] ∧
      Segments list segments ∧ Describes segments head d

/-! ### One declaration -/

section Declaration

variable {rest head list behind : List Char}

/-- The name reaches into the list. -/
theorem Glued.word_eq (h : Glued rest head list behind) :
    word rest = head ++ '(' :: word (list ++ ')' :: behind) := by
  have hopen : isBlank '(' = false := by decide
  rw [h.text, word, List.takeWhile_append_of_pos fun c hc => by simp [h.solid c hc], ← word,
    word_cons, hopen, if_neg Bool.false_ne_true]

theorem Glued.opening_mem_word (h : Glued rest head list behind) : '(' ∈ word rest := by
  rw [h.word_eq]
  simp

/-- A table that is read has the first word for its name. -/
theorem name_eq_of_createTranscript_outcome {s : ParseSettings} {d : TableDraft}
    (h : (Statement.createTranscript s rest).outcome = .ok [d]) :
    d.name = String.ofList (word rest) := by
  obtain ⟨-, _, -, cs, -, -, hd⟩ := createTranscript_outcome_eq_ok_iff_clausesOf.mp h
  rw [List.singleton_inj.mp hd]
  rfl

/-- **Among few brackets, a declaration with a glued list is read as written exactly if it is
malformed from its first blank on**: there is no list behind that blank, or its segments break off
at a malformed one. -/
theorem Glued.readAsWritten_iff {s : ParseSettings} (hfew : Brackets.round.Few rest)
    (h : Glued rest head list behind) (before after : List TableDraft) :
    ReadAsWritten ((Statement.createTranscript s rest).outcome.map (before ++ · ++ after))
        before.length head list ↔
      ∀ name segments, Layout rest name segments → BreaksOff s.strictTypes segments := by
  have hne : ∀ name segments, Layout rest name segments → name ≠ [] := by
    intro name segments hlayout
    rw [← ((layout_iff hfew).mp hlayout).1]
    exact List.ne_nil_of_mem h.opening_mem_word
  have hmalformed : (∃ cause,
      (Statement.createTranscript s rest).outcome = .error (.malformed cause)) ↔
      ∀ name segments, Layout rest name segments → BreaksOff s.strictTypes segments := by
    rw [createTranscript_malformed_iff hfew]
    constructor
    · intro hall name segments hlayout
      exact hall name segments hlayout (hne name segments hlayout)
    · intro hall name segments hlayout _
      exact hall name segments hlayout
  rw [← hmalformed]
  cases hout : (Statement.createTranscript s rest).outcome with
  | error f => simp [ReadAsWritten, Except.map]
  | ok tables =>
    obtain ⟨d, rfl⟩ := exists_of_createTranscript_outcome_eq_ok hout
    refine iff_of_false ?_ (by simp)
    rintro (⟨cause, hcause⟩ | ⟨tables, e, segments, hok, hplace, -, -, hdescribes⟩)
    · simp [Except.map] at hcause
    · obtain rfl := Except.ok.inj hok
      obtain rfl : d = e := by simpa using hplace
      -- the name that is read has a bracket, and the one in front of the list has none
      have hname := (name_eq_of_createTranscript_outcome hout).symm.trans hdescribes.name
      have hword : word rest = head := by simpa using congrArg String.toList hname
      have hopen := h.opening_mem_word
      rw [hword] at hopen
      exact h.bare.1 hopen

end Declaration

/-! ### Scripts -/

/-- **Names with brackets, and when glued lists are read as written.**  The tables of an accepted
script have no brackets in their names exactly if no declaration has one in its first word.  In a
script with few brackets, among declarations that can be read, one whose list is glued to its name,
or that has none, is refused as malformed or read as that list exactly if it is malformed from its
first blank on. -/
theorem Session.glued_list_read_iff (σ : Session) (script : String) :
    (∀ tables, (σ.read script).1.outcome = .ok tables →
      ((∀ d ∈ tables, Brackets.round.Bare d.name.toList) ↔
        ∀ rest ∈ declarations script.toList, Brackets.round.Bare (word rest))) ∧
    (Brackets.round.Few script.toList →
      ∀ before rest after, declarations script.toList = before ++ rest :: after →
      (∀ other ∈ before ++ after, ∃ d,
        (Statement.createTranscript σ.settings other).outcome = .ok [d]) →
      ∀ head list behind, Glued rest head list behind →
        (ReadAsWritten (σ.read script).1.outcome before.length head list ↔
          ∀ name segments, Layout rest name segments →
            BreaksOff σ.settings.strictTypes segments)) := by
  refine ⟨fun tables hok => ?_,
    fun hfew before rest after hscript hothers head list behind hglued => ?_⟩
  · have hall := Session.outcome_read_eq_ok_iff.mp hok
    clear hok
    generalize declarations script.toList = rests at hall
    induction hall with
    | nil => simp
    | @cons rest d rests tables hd _ ih =>
      have hname : d.name.toList = word rest := by
        rw [name_eq_of_createTranscript_outcome hd, String.toList_ofList]
      rw [List.forall_mem_cons, List.forall_mem_cons, hname]
      exact and_congr_right fun _ => ih
  · obtain ⟨hbefore, hafter⟩ := List.forall_mem_append.mp hothers
    obtain ⟨ds, hds⟩ := exists_forall₂_iff.mpr hbefore
    obtain ⟨es, hes⟩ := exists_forall₂_iff.mpr hafter
    have hrun : (σ.read script).1.outcome
        = (Statement.createTranscript σ.settings rest).outcome.map (ds ++ · ++ es) :=
      Script.outcome_eq_map_outcome hscript hds hes
    have hrest : Brackets.round.Few rest := few_of_mem_declarations hfew (by simp [hscript])
    rw [hrun, hds.length_eq]
    exact hglued.readAsWritten_iff hrest ds es

/-- Behind a table that can be read, a glued list without types in brackets is refused. -/
theorem Session.glued_plain_list_refused :
    Brackets.round.Few "CREATE TABLE s (k INT); CREATE TABLE t(a INT, b INT)".toList ∧
      declarations "CREATE TABLE s (k INT); CREATE TABLE t(a INT, b INT)".toList
          = ["s (k INT)".toList] ++ "t(a INT, b INT)".toList :: [] ∧
      (∀ other ∈ ["s (k INT)".toList] ++ [], ∃ d,
        (Statement.createTranscript {} other).outcome = .ok [d]) ∧
      Glued "t(a INT, b INT)".toList "t".toList "a INT, b INT".toList [] ∧
      ReadAsWritten ((Session.mk {} []).read
        "CREATE TABLE s (k INT); CREATE TABLE t(a INT, b INT)").1.outcome 1 "t".toList
        "a INT, b INT".toList := by
  have hscript : declarations "CREATE TABLE s (k INT); CREATE TABLE t(a INT, b INT)".toList
      = ["s (k INT)".toList] ++ "t(a INT, b INT)".toList :: [] := by decide
  have hothers : ∀ other ∈ ["s (k INT)".toList] ++ [], ∃ d,
      (Statement.createTranscript {} other).outcome = .ok [d] := by
    intro other hother
    obtain rfl := List.mem_singleton.mp hother
    exact ⟨⟨"s", [⟨"k", .integer⟩], none⟩, by decide⟩
  have hglued : Glued "t(a INT, b INT)".toList "t".toList "a INT, b INT".toList [] :=
    ⟨by decide, by decide, by decide, by decide⟩
  have hfew : Brackets.round.Few
      "CREATE TABLE s (k INT); CREATE TABLE t(a INT, b INT)".toList := by decide
  have hread := (Session.glued_list_read_iff (Session.mk {} []) _).2 hfew
  refine ⟨hfew, hscript, hothers, hglued, (hread _ _ _ hscript hothers _ _ _ hglued).mpr
    fun name segments h => ?_⟩
  have hrest : Brackets.round.Few "t(a INT, b INT)".toList := by decide
  obtain ⟨-, list, hlist, -⟩ := (layout_iff hrest).mp h
  have hnone : Brackets.round.inside? (afterWord "t(a INT, b INT)".toList) = none := by decide
  exact absurd (hnone.symm.trans hlist) (Option.some_ne_none list).symm

/-- Without a name, the arguments of a type are read as the list. -/
theorem Session.accepts_list_without_name :
    declarations "CREATE TABLE (a DECIMAL(10, 2), b INT)".toList
        = ["(a DECIMAL(10, 2), b INT)".toList] ∧
      Glued "(a DECIMAL(10, 2), b INT)".toList [] "a DECIMAL(10, 2), b INT".toList [] ∧
      ((Session.mk {} []).read "CREATE TABLE (a DECIMAL(10, 2), b INT)").1.outcome =
        .ok [⟨"(a", [⟨"10", .text⟩, ⟨"2", .text⟩], none⟩] ∧
      ¬ Brackets.round.Bare "(a".toList ∧
      ¬ ReadAsWritten ((Session.mk {} []).read "CREATE TABLE (a DECIMAL(10, 2), b INT)").1.outcome
        0 [] "a DECIMAL(10, 2), b INT".toList := by
  have hok : ((Session.mk {} []).read "CREATE TABLE (a DECIMAL(10, 2), b INT)").1.outcome =
      .ok [⟨"(a", [⟨"10", .text⟩, ⟨"2", .text⟩], none⟩] := by decide
  refine ⟨by decide, ⟨by decide, by decide, by decide, by decide⟩, hok, by decide, ?_⟩
  rw [hok]
  rintro (⟨cause, h⟩ | ⟨tables, d, segments, -, -, hne, -⟩)
  · cases h
  · exact hne rfl

end TableSchema
