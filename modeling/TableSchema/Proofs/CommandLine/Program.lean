import Mathlib.Logic.Nonempty
import Mathlib.Tactic.Common
import TableSchema.CommandLine.Program
import TableSchema.Proofs.Ddl.Session

/-!
# Runs that translate a file

A run that is asked to translate a file prints the tables of the file or nothing.  What it prints is
what the parts of the library give one after the other: the settings, the text of the file, the
drafts in it, their tables, and their print.  If one of these is missing, the run fails.

## Main definitions

* `Surroundings.over vars standing` — the variables, and what stands at each path.
* `OutputFormat.render` — tables in print.
* `Translation` — everything that has to succeed for a file to be translated.

## Main results

* `Invocation.executeParse_of_tables`, `Invocation.executeParse_of_no_tables` — how the command
  ends.
* `Program.code_runWith`, `Program.output_runWith` — how the run ends that carries it out.
* `Program.translates_or_fails` — **a run prints the tables of the file or nothing.**
-/

namespace TableSchema

/-! ### What a run works with -/

/-- The surroundings with these variables, where `standing` is what stands at each path. -/
def Surroundings.over (vars : Variables) (standing : String → Except ReadFault Item) :
    Surroundings where
  vars := vars
  read path := Folder.textAt (standing path)

/-- Tables in print, without the line break that ends the output. -/
def OutputFormat.render : OutputFormat → List Table → String
  | .text => report
  | .json => printTables

theorem OutputFormat.print_eq (f : OutputFormat) (tables : List Table) :
    f.print tables = f.render tables ++ "\n" := by
  cases f with
  | text => rfl
  | json => rfl

/-- Everything that has to succeed for a file to be translated. -/
structure Translation (inv : Invocation) (vars : Variables)
    (standing : String → Except ReadFault Item) (file : String) where
  /-- The settings of the run. -/
  config : Config
  /-- The text of the file. -/
  text : String
  /-- The drafts in the text. -/
  drafts : List TableDraft
  /-- The tables of the drafts. -/
  tables : List Table
  /-- The settings can be gathered. -/
  loads : inv.loadConfig (.over vars standing) = .ok config
  /-- The file holds the text in UTF-8. -/
  stands : standing file = .ok (.file text.toUTF8)
  /-- A session that has read nothing yet can read the text. -/
  reads : ((Session.mk config.parseSettings []).read text).1.outcome = .ok drafts
  /-- All drafts are tables. -/
  checks : tablesOfDrafts drafts = .ok tables

/-! ### The command -/

namespace Invocation

variable {c : Config} {sur : Surroundings} {file : String}

/-- **A file with tables is translated.** -/
theorem executeParse_of_tables {text : String} {drafts : List TableDraft} {tables : List Table}
    (htext : sur.read file = .ok text)
    (hread : ((Session.mk c.parseSettings []).read text).1.outcome = .ok drafts)
    (htables : tablesOfDrafts drafts = .ok tables) :
    (executeParse c sur file).failure = none ∧
      (executeParse c sur file).output = c.outputFormat.print tables := by
  have houtcome : ((Session.mk c.parseSettings []).readFrom file (.ok text)).1.outcome
      = .ok drafts := hread
  unfold executeParse
  rw [htext]
  simp only [houtcome, htables, and_self]

/-- **A file without tables is refused**, and nothing is printed. -/
theorem executeParse_of_no_tables
    (h : ∀ text drafts tables, sur.read file = .ok text →
      ((Session.mk c.parseSettings []).read text).1.outcome = .ok drafts →
      tablesOfDrafts drafts ≠ .ok tables) :
    (∃ failure, (executeParse c sur file).failure = some failure) ∧
      (executeParse c sur file).output = "" := by
  unfold executeParse
  cases houtcome : ((Session.mk c.parseSettings []).readFrom file (sur.read file)).1.outcome with
  | error fault => simp [houtcome]
  | ok drafts =>
    cases htables : tablesOfDrafts drafts with
    | error fault => simp [houtcome, htables]
    | ok tables =>
      -- the drafts can only come from the text of the file
      cases htext : sur.read file with
      | error cause =>
        rw [htext] at houtcome
        exact nomatch houtcome
      | ok text =>
        rw [htext] at houtcome
        exact absurd htables (h text drafts tables htext houtcome)

/-- What carries out the command of an invocation that is to translate a file. -/
theorem execute_of_parse {inv : Invocation} {strict : Bool} {format : Option String}
    (h : inv.command = some (.parse file strict format)) (c : Config) (sur : Surroundings) :
    inv.execute c sur = executeParse c sur file := by
  unfold execute
  rw [h]

end Invocation

/-! ### The run -/

namespace Program

/-- The exit code says whether the command failed. -/
theorem code_runWith (inv : Invocation) (c : Config) (sur : Surroundings) :
    (runWith inv c sur).code = if (inv.execute c sur).failure = none then 0 else 1 := by
  unfold runWith
  cases hfailure : (inv.execute c sur).failure with
  | none => simp [hfailure]
  | some failure => simp [hfailure]

/-- The output is that of the command. -/
theorem output_runWith (inv : Invocation) (c : Config) (sur : Surroundings) :
    (runWith inv c sur).output = (inv.execute c sur).output := by
  unfold runWith
  cases hfailure : (inv.execute c sur).failure with
  | none => simp [hfailure]
  | some failure => simp [hfailure]

variable {args : List String} {inv : Invocation} {file : String} {strict : Bool}
  {format : Option String} {vars : Variables} {standing : String → Except ReadFault Item}

/-- A run carries out its command under the settings it has gathered. -/
theorem run_eq_runWith {sur : Surroundings} {c : Config}
    (hargs : Invocation.ofArguments args = .ok inv) (hload : inv.loadConfig sur = .ok c) :
    run args sur = runWith inv c sur := by
  unfold run
  rw [hargs]
  simp only [hload]

/-- A run without settings fails and prints nothing. -/
theorem run_of_loadConfig_error {sur : Surroundings} {failure : Failure}
    (hargs : Invocation.ofArguments args = .ok inv) (hload : inv.loadConfig sur = .error failure) :
    run args sur = ⟨1, "", failure.report⟩ := by
  unfold run
  rw [hargs]
  simp only [hload]

/-- **A translation is printed.** -/
theorem run_of_translation (hargs : Invocation.ofArguments args = .ok inv)
    (hcommand : inv.command = some (.parse file strict format))
    (t : Translation inv vars standing file) :
    (run args (.over vars standing)).code = 0 ∧
      (run args (.over vars standing)).output
        = t.config.outputFormat.render t.tables ++ "\n" := by
  have htext : (Surroundings.over vars standing).read file = .ok t.text :=
    Folder.textAt_eq_ok_iff.mpr t.stands
  obtain ⟨hfailure, houtput⟩ := Invocation.executeParse_of_tables htext t.reads t.checks
  rw [run_eq_runWith hargs t.loads, code_runWith, output_runWith,
    Invocation.execute_of_parse hcommand, hfailure, houtput, OutputFormat.print_eq]
  exact ⟨rfl, rfl⟩

/-- **Where nothing can be translated, nothing is printed**, and the run fails. -/
theorem run_of_no_translation (hargs : Invocation.ofArguments args = .ok inv)
    (hcommand : inv.command = some (.parse file strict format))
    (h : ¬ Nonempty (Translation inv vars standing file)) :
    (run args (.over vars standing)).code = 1 ∧ (run args (.over vars standing)).output = "" := by
  cases hload : inv.loadConfig (.over vars standing) with
  | error failure =>
    rw [run_of_loadConfig_error hargs hload]
    exact ⟨rfl, rfl⟩
  | ok c =>
    have hnone : ∀ text drafts tables, (Surroundings.over vars standing).read file = .ok text →
        ((Session.mk c.parseSettings []).read text).1.outcome = .ok drafts →
        tablesOfDrafts drafts ≠ .ok tables := by
      intro text drafts tables htext hread htables
      exact h ⟨⟨c, text, drafts, tables, hload, Folder.textAt_eq_ok_iff.mp htext, hread, htables⟩⟩
    obtain ⟨⟨failure, hfailure⟩, houtput⟩ := Invocation.executeParse_of_no_tables hnone
    rw [run_eq_runWith hargs hload, code_runWith, output_runWith,
      Invocation.execute_of_parse hcommand, hfailure, houtput]
    exact ⟨rfl, rfl⟩

/-- **A run prints the tables of the file or nothing.**  It succeeds exactly if the file can be
translated, and then prints what the parts of the library give; otherwise it fails and prints
nothing. -/
theorem translates_or_fails (vars : Variables) (standing : String → Except ReadFault Item)
    (hargs : Invocation.ofArguments args = .ok inv)
    (hcommand : inv.command = some (.parse file strict format)) :
    let ended := run args (.over vars standing)
    (ended.code = 0 ↔ Nonempty (Translation inv vars standing file)) ∧
    (∀ t : Translation inv vars standing file,
      ended.output = t.config.outputFormat.render t.tables ++ "\n") ∧
    (¬ Nonempty (Translation inv vars standing file) → ended.code = 1 ∧ ended.output = "") := by
  intro ended
  refine ⟨?_, ?_, run_of_no_translation hargs hcommand⟩
  · constructor
    · intro hcode
      by_contra hnone
      obtain ⟨hfails, -⟩ := run_of_no_translation hargs hcommand hnone
      exact absurd (hcode.symm.trans hfails) (by decide)
    · rintro ⟨t⟩
      exact (run_of_translation hargs hcommand t).1
  · intro t
    exact (run_of_translation hargs hcommand t).2

/-- A run with one file, which declares one table. -/
theorem translates_one_file :
    let standing : String → Except ReadFault Item := fun path =>
      if path = "a.sql" then .ok (.file "CREATE TABLE t (a INT)".toUTF8) else .error .notFound
    let inv : Invocation := ⟨none, none, some (.parse "a.sql" true (some "TEXT"))⟩
    let ended := run ["parse", "a.sql", "--strict", "-f", "TEXT"] (.over (fun _ => none) standing)
    Invocation.ofArguments ["parse", "a.sql", "--strict", "-f", "TEXT"] = .ok inv ∧
      ended.code = 0 ∧ ended.output = "Parsed types: 1\nType: t\n  Property: a [integer]\n" := by
  intro standing inv ended
  have hargs : Invocation.ofArguments ["parse", "a.sql", "--strict", "-f", "TEXT"] = .ok inv := by
    decide
  let t : Translation inv (fun _ => none) standing "a.sql" :=
    { config := ⟨30, true, "info", .text⟩
      text := "CREATE TABLE t (a INT)"
      drafts := [⟨"t", [⟨"a", .integer⟩], none⟩]
      tables := [⟨"t", [⟨"a", .integer⟩], none⟩]
      loads := by decide
      stands := rfl
      reads := by decide
      checks := by decide }
  obtain ⟨hcode, houtput, -⟩ := translates_or_fails (fun _ => none) standing hargs rfl
  refine ⟨hargs, hcode.mpr ⟨t⟩, ?_⟩
  rw [houtput t]
  decide

end Program

end TableSchema
