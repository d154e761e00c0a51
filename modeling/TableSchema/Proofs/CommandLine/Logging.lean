import TableSchema.Proofs.CommandLine.LevelOption
import TableSchema.Proofs.CommandLine.Program
import TableSchema.Proofs.Config.Environment
import TableSchema.Proofs.Config.Names
import TableSchema.Proofs.Config.Precedence
import TableSchema.Proofs.Log.Level

/-!
# The log stands beside the results

The log level is a setting like the others, but all that is done with it is to select log records.
So the exit code and the output of a run depend on it only through the check that it is the name of
a level.  What the variable `RUST_LOG` says plays no part in them at all.  The log itself has the
lines of the records down to the level, in order.

## Main definitions

* `Exit.result` — exit code and output.
* `Config.muted`, `Invocation.mutedConfig` — settings apart from the log level.
* `Surroundings.SameBut` — surroundings that differ in one variable.
* `Program.MisnamesLevel` — the file of a run names a log level that does not exist.

## Main results

* `Invocation.mutedConfig_eq` — the settings depend on the log level through its check.
* `Invocation.result_eq_of_mutedConfig_eq` — the results depend on the other settings only.
* `Program.errors_runWith` — which lines the log has.
* `Program.logs_beside_results` — **the log stands beside the results.**
* `Program.level_variable_hides_file` — a variable can hide a log level that does not exist.
-/

namespace TableSchema

open Toml (PlainEntry document read_document denotes_string writeString)

/-! ### Settings apart from the log level -/

namespace Config

/-- The settings with another log level. -/
def withLevel (level : String) (c : Config) : Config := { c with logLevel := level }

/-- The settings apart from the log level, in whose place the usual one stands. -/
def muted (c : Config) : Config := c.withLevel default.logLevel

/-- Settings that are checked with a log level depend on it through its check. -/
theorem map_muted_checked (c : Config) (level : String) :
    (match (c.withLevel level).check with
      | .error cause => (.error ⟨none, .misconfigured cause⟩ : Except Failure Config)
      | .ok () => .ok (c.withLevel level)).toOption.map muted
      = if IsLevel level then (some c.muted).filter (·.abbreviationLength ≠ 0) else none := by
  have hcheck : (c.withLevel level).check = .ok () ↔ c.abbreviationLength ≠ 0 ∧ IsLevel level :=
    check_eq_ok_iff
  cases h : (c.withLevel level).check with
  | ok u =>
    obtain ⟨hlength, hlevel⟩ := hcheck.mp h
    have hmuted : c.muted.abbreviationLength ≠ 0 := hlength
    rw [if_pos hlevel, Option.filter_some, if_pos (decide_eq_true hmuted)]
    rfl
  | error cause =>
    have hnot : ¬ (c.abbreviationLength ≠ 0 ∧ IsLevel level) := by
      intro hboth
      rw [hcheck.mpr hboth] at h
      cases h
    by_cases hlevel : IsLevel level
    · have hzero : ¬ c.muted.abbreviationLength ≠ 0 := fun hlength => hnot ⟨hlength, hlevel⟩
      rw [if_pos hlevel, Option.filter_some, if_neg (by simpa using hzero)]
      rfl
    · rw [if_neg hlevel]
      rfl

end Config

namespace Invocation

/-- The settings of a run have been checked. -/
theorem isLevel_of_loadConfig_eq_ok {inv : Invocation} {sur : Surroundings} {c : Config}
    (h : inv.loadConfig sur = .ok c) : IsLevel c.logLevel := by
  unfold loadConfig at h
  split at h
  next => cases h
  next =>
    split at h
    next => cases h
    next =>
      split at h
      next => cases h
      next =>
        split at h
        next => cases h
        next hcheck =>
          cases h
          exact (Config.check_eq_ok_iff.mp hcheck).2

theorem overrideLevel_eq (inv : Invocation) (c : Config) :
    inv.overrideLevel c = c.withLevel (inv.logLevel.getD c.logLevel) := by
  unfold overrideLevel
  cases inv.logLevel with
  | none => rfl
  | some level => rfl

theorem overrideCommand_withLevel (inv : Invocation) (level : String) (c : Config) :
    inv.overrideCommand (c.withLevel level)
      = (inv.overrideCommand c).map (Config.withLevel level) := by
  rcases inv with ⟨config, logLevel, _ | ⟨file, strict, format⟩ | _ | _⟩
  case some.parse =>
    cases format with
    | none => cases strict <;> rfl
    | some name =>
      simp only [overrideCommand]
      cases OutputFormat.ofName name with
      | error cause => rfl
      | ok found => cases strict <;> rfl
  all_goals rfl

/-- The settings of a run apart from the log level, if it has any. -/
def mutedConfig (inv : Invocation) (sur : Surroundings) : Option Config :=
  (inv.loadConfig sur).toOption.map Config.muted

/-- The settings of a run apart from the log level, given those of its file and its variables. -/
def mutedMerge (inv : Invocation) (file vars : Config) : Option Config :=
  (inv.overrideCommand (file.merge vars).muted).toOption.filter (·.abbreviationLength ≠ 0)

/-- The log level of a run, given the settings of its file and its variables. -/
def level (inv : Invocation) (file vars : Config) : String :=
  inv.logLevel.getD (file.merge vars).logLevel

/-- **The other settings depend on the log level through its check.** -/
theorem mutedConfig_eq (inv : Invocation) (sur : Surroundings) :
    inv.mutedConfig sur =
      (inv.fileConfig sur).toOption.bind fun file =>
        (Config.ofVariables sur.vars).toOption.bind fun vars =>
          if IsLevel (inv.level file vars) then inv.mutedMerge file vars else none := by
  unfold mutedConfig loadConfig
  cases inv.fileConfig sur with
  | error failure => rfl
  | ok file =>
    cases Config.ofVariables sur.vars with
    | error cause => rfl
    | ok vars =>
      have hlevel : inv.overrideCommand (inv.overrideLevel (file.merge vars))
          = (inv.overrideCommand (file.merge vars)).map (.withLevel (inv.level file vars)) := by
        rw [overrideLevel_eq, overrideCommand_withLevel, level]
      have hmuted : inv.mutedMerge file vars
          = ((inv.overrideCommand (file.merge vars)).map .muted).toOption.filter
            (·.abbreviationLength ≠ 0) := by
        rw [mutedMerge, Config.muted, overrideCommand_withLevel]
        rfl
      simp only [Except.toOption, Option.bind_some]
      rw [hlevel, hmuted]
      cases inv.overrideCommand (file.merge vars) with
      | error cause => exact (ite_self none).symm
      | ok c => exact Config.map_muted_checked c (inv.level file vars)

/-! ### Results -/

/-- What a run gives: its exit code and its output. -/
def result (inv : Invocation) (sur : Surroundings) : ℕ × String :=
  match inv.loadConfig sur with
  | .error _ => (1, "")
  | .ok c => (if (inv.execute c sur).failure = none then 0 else 1, (inv.execute c sur).output)

/-- No command looks at the log level. -/
theorem execute_muted (inv : Invocation) (c : Config) (sur : Surroundings) :
    inv.execute c.muted sur = inv.execute c sur := rfl

/-- No command looks at the variables, or at other arguments than its own. -/
theorem execute_congr {inv inv' : Invocation} {sur sur' : Surroundings}
    (hcommand : inv'.command = inv.command) (hread : sur'.read = sur.read) (c : Config) :
    inv'.execute c sur' = inv.execute c sur := by
  unfold execute executeParse
  rw [hcommand, hread]

/-- **The results depend on the other settings only.** -/
theorem result_eq_of_mutedConfig_eq {inv inv' : Invocation} {sur sur' : Surroundings}
    (hcommand : inv'.command = inv.command) (hread : sur'.read = sur.read)
    (hmuted : inv'.mutedConfig sur' = inv.mutedConfig sur) : inv'.result sur' = inv.result sur := by
  unfold mutedConfig at hmuted
  unfold result
  cases h : inv.loadConfig sur with
  | error failure =>
    cases h' : inv'.loadConfig sur' with
    | error failure' => rfl
    | ok c' =>
      rw [h, h'] at hmuted
      cases hmuted
  | ok c =>
    cases h' : inv'.loadConfig sur' with
    | error failure' =>
      rw [h, h'] at hmuted
      cases hmuted
    | ok c' =>
      rw [h, h'] at hmuted
      have hc : c'.muted = c.muted := Option.some.inj hmuted
      have hexecute : inv'.execute c' sur' = inv.execute c sur := by
        rw [← execute_muted inv', hc, execute_congr hcommand hread, execute_muted]
      simp only [hexecute]

/-- A run without settings gives nothing. -/
theorem result_of_mutedConfig_eq_none {inv : Invocation} {sur : Surroundings}
    (h : inv.mutedConfig sur = none) : inv.result sur = (1, "") := by
  unfold mutedConfig at h
  unfold result
  cases hload : inv.loadConfig sur with
  | error failure => rfl
  | ok c =>
    rw [hload] at h
    cases h

theorem fileConfig_congr {inv inv' : Invocation} {sur sur' : Surroundings}
    (hconfig : inv'.config = inv.config) (hread : sur'.read = sur.read) :
    inv'.fileConfig sur' = inv.fileConfig sur := by
  unfold fileConfig
  rw [hconfig, hread]

/-- Another log level among the arguments changes no result, if it is the name of a level exactly
where the old one is. -/
theorem result_relevel {f : String → String} (hf : ∀ level, IsLevel (f level) ↔ IsLevel level)
    (inv : Invocation) (sur : Surroundings) : (inv.relevel f).result sur = inv.result sur := by
  have hfile : (inv.relevel f).fileConfig sur = inv.fileConfig sur := fileConfig_congr rfl rfl
  have hmerge : (inv.relevel f).mutedMerge = inv.mutedMerge := rfl
  have hlevel : ∀ file vars, IsLevel ((inv.relevel f).level file vars)
      ↔ IsLevel (inv.level file vars) := by
    intro file vars
    unfold level relevel
    cases inv.logLevel with
    | none => rfl
    | some level => exact hf level
  apply result_eq_of_mutedConfig_eq
  · rfl
  · rfl
  · simp only [mutedConfig_eq, hfile, hmerge, hlevel]

end Invocation

/-! ### Surroundings that differ in one variable -/

/-- Surroundings that differ at most in what one variable says. -/
structure Surroundings.SameBut (name : String) (sur sur' : Surroundings) : Prop where
  /-- The files are the same. -/
  read : sur'.read = sur.read
  /-- So are the other variables. -/
  vars : ∀ other ≠ name, sur'.vars other = sur.vars other

/-- The log level that the variables say. -/
def Variables.level (vars : Variables) : String :=
  (vars "DDLSCHEMA_LOG_LEVEL").getD Config.default.logLevel

theorem Variables.get_congr {α : Type} {vars vars' : Variables} {name : String}
    (h : vars' name = vars name) (usual : α) (read : String → Except Misconfiguration α) :
    vars'.get name usual read = vars.get name usual read := by
  unfold get
  rw [h]

theorem Variables.get_level (vars : Variables) :
    vars.get "DDLSCHEMA_LOG_LEVEL" Config.default.logLevel .ok = .ok vars.level := by
  unfold get level
  cases vars "DDLSCHEMA_LOG_LEVEL" with
  | none => rfl
  | some text => rfl

/-- The settings that the variables give, with the log level apart. -/
theorem Config.ofVariables_of_sameBut {sur sur' : Surroundings}
    (h : sur.SameBut "DDLSCHEMA_LOG_LEVEL" sur') :
    ofVariables sur'.vars = (ofVariables sur.vars).map (withLevel sur'.vars.level) := by
  unfold ofVariables
  rw [Variables.get_level, Variables.get_level, Variables.get_congr (h.vars _ (by decide)),
    Variables.get_congr (h.vars _ (by decide)), Variables.get_congr (h.vars _ (by decide))]
  cases sur.vars.get "DDLSCHEMA_ABBREVIATION_LENGTH" default.abbreviationLength
    lengthOfVariable with
  | error cause => rfl
  | ok length =>
    cases sur.vars.get "DDLSCHEMA_STRICT_TYPES" default.strictTypes strictnessOfVariable with
    | error cause => rfl
    | ok strict =>
      cases sur.vars.get "DDLSCHEMA_OUTPUT_FORMAT" default.outputFormat OutputFormat.ofName with
      | error cause => rfl
      | ok format => rfl

theorem Config.logLevel_of_ofVariables {vars : Variables} {c : Config}
    (h : ofVariables vars = .ok c) : c.logLevel = vars.level := by
  unfold Variables.level
  generalize hlevel : c.logLevel = level
  have hgives : vars.GivesLevel level := hlevel ▸ (ofVariables_eq_ok_iff.mp h).level
  cases hgives with
  | unset hnone => rw [hnone]; rfl
  | set hsome hmeans => rw [hsome, hmeans]; rfl

/-- A log level that lies over another hides it unless it is the usual one. -/
theorem Config.isLevel_prevail_iff {usual earlier later : String} (hlater : IsLevel later) :
    IsLevel (prevail usual earlier later) ↔ later ≠ usual ∨ IsLevel earlier := by
  unfold prevail
  by_cases h : later = usual
  · rw [if_pos h]
    exact ⟨.inr, fun hor => hor.resolve_left (not_not_intro h)⟩
  · rw [if_neg h]
    exact iff_of_true hlater (.inl h)

/-- How a run ended, apart from the log and the report of a failure. -/
def Exit.result (e : Exit) : ℕ × String := (e.code, e.output)

namespace Program

variable {args args' : List String} {inv : Invocation} {sur sur' : Surroundings}

theorem result_run (hargs : Invocation.ofArguments args = .ok inv) :
    (run args sur).result = inv.result sur := by
  unfold Exit.result Invocation.result
  cases hload : inv.loadConfig sur with
  | error failure => rw [run_of_loadConfig_error hargs hload]
  | ok c => rw [run_eq_runWith hargs hload, code_runWith, output_runWith]

theorem run_of_ofArguments_error {refusal : Refusal}
    (hargs : Invocation.ofArguments args = .error refusal) : run args sur = refused refusal := by
  unfold run
  rw [hargs]

/-- Where a variable has no part in the other settings, it has none in the results. -/
theorem result_eq_of_sameBut {name : String} (h : sur.SameBut name sur')
    (hmuted : ∀ inv, Invocation.ofArguments args = .ok inv →
      inv.mutedConfig sur' = inv.mutedConfig sur) :
    (run args sur').result = (run args sur).result := by
  cases hargs : Invocation.ofArguments args with
  | error refusal => rw [run_of_ofArguments_error hargs, run_of_ofArguments_error hargs]
  | ok inv =>
    rw [result_run hargs, result_run hargs]
    exact Invocation.result_eq_of_mutedConfig_eq rfl h.read (hmuted inv hargs)

/-! ### What steers nothing -/

/-- **What `RUST_LOG` says changes no result.** -/
theorem result_of_sameBut_filter (h : sur.SameBut "RUST_LOG" sur') :
    (run args sur').result = (run args sur).result := by
  apply result_eq_of_sameBut h
  intro inv _
  have hfile : inv.fileConfig sur' = inv.fileConfig sur := Invocation.fileConfig_congr rfl h.read
  have hvars : Config.ofVariables sur'.vars = Config.ofVariables sur.vars := by
    unfold Config.ofVariables
    rw [Variables.get_congr (h.vars _ (by decide)), Variables.get_congr (h.vars _ (by decide)),
      Variables.get_congr (h.vars _ (by decide)), Variables.get_congr (h.vars _ (by decide))]
  rw [Invocation.mutedConfig_eq, Invocation.mutedConfig_eq, hfile, hvars]

/-- **Another log level among the arguments changes no result.** -/
theorem result_of_swapsLevel {v v' : String} (hv : IsLevel v) (hv' : IsLevel v')
    (h : SwapsLevel v v' args args') : (run args' sur).result = (run args sur).result := by
  -- both levels are read as the first, and this is done to invocations that are equal then
  let f : String → String := Function.update id v' v
  have hnew : f v' = v := Function.update_self v' v id
  have hother : ∀ level, level ≠ v' → f level = level := by
    intro level hne
    exact Function.update_of_ne hne v id
  have hold : f v = v := by
    by_cases hvv' : v = v'
    · rw [hvv', hnew, hvv']
    · exact hother v hvv'
  have hf : ∀ level, f (f level) = f level := by
    intro level
    by_cases hlevel : level = v'
    · rw [hlevel, hnew, hold]
    · rw [hother level hlevel, hother level hlevel]
  have hlevel : ∀ level, IsLevel (f level) ↔ IsLevel level := by
    intro level
    by_cases hlevel : level = v'
    · rw [hlevel, hnew]
      exact iff_of_true hv hv'
    · rw [hother level hlevel]
  have hargs := Invocation.ofArguments_of_swaps hf hv.head?_ne_dash hv'.head?_ne_dash
    (hold.trans hnew.symm) h
  rcases alike_of_map_eq hargs with ⟨refusal, hinv, hinv'⟩ | ⟨inv, inv', hinv, hinv', hrelevel⟩
  · rw [run_of_ofArguments_error hinv, run_of_ofArguments_error hinv']
  · rw [result_run hinv, result_run hinv', ← Invocation.result_relevel hlevel inv,
      ← Invocation.result_relevel hlevel inv', hrelevel]

/-- The file of the run names a log level that does not exist, and no argument names another. -/
def MisnamesLevel (args : List String) (sur : Surroundings) : Prop :=
  ∃ inv file, Invocation.ofArguments args = .ok inv ∧ inv.logLevel = none ∧
    inv.fileConfig sur = .ok file ∧ ¬ IsLevel file.logLevel

/-- **Another log level in the variables changes no result** unless one of the two is the usual one
and lies over one in the file that does not exist. -/
theorem result_of_sameBut_level (h : sur.SameBut "DDLSCHEMA_LOG_LEVEL" sur')
    (hlevel : IsLevel sur.vars.level) (hlevel' : IsLevel sur'.vars.level)
    (hmask : (sur.vars.level = Config.default.logLevel ↔
        sur'.vars.level = Config.default.logLevel) ∨ ¬ MisnamesLevel args sur) :
    (run args sur').result = (run args sur).result := by
  apply result_eq_of_sameBut h
  intro inv hargs
  have hread : inv.fileConfig sur' = inv.fileConfig sur := Invocation.fileConfig_congr rfl h.read
  rw [Invocation.mutedConfig_eq, Invocation.mutedConfig_eq, hread, Config.ofVariables_of_sameBut h]
  cases hfile : inv.fileConfig sur with
  | error failure => rfl
  | ok file =>
    cases hvars : Config.ofVariables sur.vars with
    | error cause => rfl
    | ok vars =>
      have hboth : IsLevel (inv.level file (vars.withLevel sur'.vars.level))
          ↔ IsLevel (inv.level file vars) := by
        unfold Invocation.level
        cases hnone : inv.logLevel with
        | some level => rfl
        | none =>
          have hover : vars.logLevel = sur.vars.level := Config.logLevel_of_ofVariables hvars
          simp only [Option.getD_none, Config.merge, Config.withLevel, hover,
            Config.isLevel_prevail_iff hlevel, Config.isLevel_prevail_iff hlevel']
          rcases hmask with hmask | hmask
          · rw [ne_eq, ne_eq, hmask]
          · have hgood : IsLevel file.logLevel := by
              by_contra hbad
              exact hmask ⟨inv, file, hargs, hnone, hfile, hbad⟩
            exact iff_of_true (.inr hgood) (.inr hgood)
      have hmerge : inv.mutedMerge file (vars.withLevel sur'.vars.level)
          = inv.mutedMerge file vars := rfl
      show (if _ then _ else none) = if _ then _ else none
      simp only [hboth, hmerge]

/-- A log level in the file that does not exist is refused if nothing lies over it. -/
theorem result_of_misnamesLevel (h : MisnamesLevel args sur)
    (hlevel : sur.vars.level = Config.default.logLevel) : (run args sur).result = (1, "") := by
  obtain ⟨inv, file, hargs, hnone, hfile, hbad⟩ := h
  rw [result_run hargs]
  apply Invocation.result_of_mutedConfig_eq_none
  rw [Invocation.mutedConfig_eq, hfile]
  cases hvars : Config.ofVariables sur.vars with
  | error cause => rfl
  | ok vars =>
    have hshown : inv.level file vars = file.logLevel := by
      unfold Invocation.level
      rw [hnone]
      show Config.prevail Config.default.logLevel file.logLevel vars.logLevel = file.logLevel
      unfold Config.prevail
      rw [if_pos ((Config.logLevel_of_ofVariables hvars).trans hlevel)]
    have hrefused : ¬ IsLevel (inv.level file vars) := by
      rw [hshown]
      exact hbad
    exact if_neg hrefused

/-! ### The lines of the log -/

/-- Without `RUST_LOG`, the log has the lines of the records down to the level. -/
theorem errors_runWith {c : Config} {v : Verbosity} (hlevel : v.NamedBy c.logLevel)
    (hfilter : sur.vars "RUST_LOG" = none) :
    (runWith inv c sur).errors =
      String.join (((beginning c :: (inv.execute c sur).log).filter
          fun r => v.admits r.severity).map LogRecord.line) ++
        ((inv.execute c sur).failure.map Failure.report).getD "" := by
  have hadmits : (LogFilter.extend {} (FilterSpec.ofText c.logLevel.toList)).admits
      = fun r => v.admits r.severity := by
    funext r
    exact LogFilter.admits_of_namedBy hlevel r
  have hcomplaints : (FilterSpec.ofText c.logLevel.toList).complaints = [] := by
    rw [FilterSpec.ofText_of_namedBy hlevel]
  unfold runWith filter
  simp only [hfilter, hcomplaints, logLines, hadmits, warnings]
  cases (inv.execute c sur).failure with
  | none => simp
  | some failure => simp

/-- **The log stands beside the results.**  Neither what `RUST_LOG` says nor another level in the
arguments changes the exit code or the output, and another level in the variables changes them only
if one of the two is the usual one and lies over one in the file that does not exist: the latter is
refused then.  Without `RUST_LOG`, the log has the lines of the records down to the level of the
settings, whatever the letter case of its name. -/
theorem logs_beside_results (args : List String) (sur : Surroundings) :
    (∀ sur', sur.SameBut "RUST_LOG" sur' → (run args sur').result = (run args sur).result) ∧
    (∀ v v' args', IsLevel v → IsLevel v' → SwapsLevel v v' args args' →
      (run args' sur).result = (run args sur).result) ∧
    (∀ sur', sur.SameBut "DDLSCHEMA_LOG_LEVEL" sur' →
      IsLevel sur.vars.level → IsLevel sur'.vars.level →
      ((sur.vars.level = Config.default.logLevel ↔ sur'.vars.level = Config.default.logLevel) ∨
        ¬ MisnamesLevel args sur) →
      (run args sur').result = (run args sur).result) ∧
    (MisnamesLevel args sur → sur.vars.level = Config.default.logLevel →
      (run args sur).result = (1, "")) ∧
    ∀ inv c, Invocation.ofArguments args = .ok inv → inv.loadConfig sur = .ok c →
      sur.vars "RUST_LOG" = none →
      ∃ v : Verbosity, v.NamedBy c.logLevel ∧
        (run args sur).errors =
          String.join (((beginning c :: (inv.execute c sur).log).filter
              fun r => v.admits r.severity).map LogRecord.line) ++
            ((inv.execute c sur).failure.map Failure.report).getD "" := by
  refine ⟨?_, ?_, ?_, result_of_misnamesLevel, ?_⟩
  · intro sur' h
    exact result_of_sameBut_filter h
  · intro v v' args' hv hv' h
    exact result_of_swapsLevel hv hv' h
  · intro sur' h hlevel hlevel' hmask
    exact result_of_sameBut_level h hlevel hlevel' hmask
  · intro inv c hargs hload hfilter
    obtain ⟨v, hv⟩ := Invocation.isLevel_of_loadConfig_eq_ok hload
    refine ⟨v, hv, ?_⟩
    rw [run_eq_runWith hargs hload]
    exact errors_runWith hv hfilter

/-! ### A file with a log level that does not exist -/

theorem read_loud :
    Toml.read "log_level = \"loud\"\n".toList = .ok [("log_level", .string "loud")] := by
  have hes : ∀ e ∈ [PlainEntry.mk "log_level" (writeString "loud".toList) (.string "loud")],
      e.Readable := by
    intro e he
    rw [List.mem_singleton.mp he]
    exact Config.readable_of_bare (by decide) (by decide) (denotes_string "loud")
  have htext : "log_level = \"loud\"\n".toList
      = document [⟨"log_level", writeString "loud".toList, .string "loud"⟩] := by
    decide
  rw [htext]
  exact read_document hes (by simp)

theorem ofFile_loud :
    Config.ofFile (.ok "log_level = \"loud\"\n") = .ok ⟨30, false, "loud", .text⟩ := by
  rw [Config.ofFile, Config.ofToml, read_loud]
  rfl

/-- Surroundings with this log level in the variables, and one in the files that does not exist. -/
def loudSurroundings (level : Option String) : Surroundings where
  vars name := if name = "DDLSCHEMA_LOG_LEVEL" then level else none
  read _ := .ok "log_level = \"loud\"\n"

theorem fileConfig_loud (logLevel : Option String) (command : Option Command)
    (level : Option String) :
    (Invocation.mk (some "c.toml") logLevel command).fileConfig (loudSurroundings level)
      = .ok ⟨30, false, "loud", .text⟩ := by
  unfold Invocation.fileConfig
  simp only [loudSurroundings, ofFile_loud]

theorem sameBut_loud (level level' : Option String) :
    (loudSurroundings level).SameBut "DDLSCHEMA_LOG_LEVEL" (loudSurroundings level') where
  read := rfl
  vars other hother := by simp [loudSurroundings, hother]

/-- A level in the arguments lies over the one in the file, so whatever it is, and whatever other
sources of levels say, the run prints the same.  Without it the file is refused. -/
theorem logs_beside_results_of_info :
    let args := ["--config", "c.toml", "--log-level", "OFF", "info"]
    let args' := ["--config", "c.toml", "--log-level", "Debug", "info"]
    let sur := loudSurroundings none
    let filtered : Surroundings := { sur with
      vars := fun name => if name = "RUST_LOG" then some "trace" else sur.vars name }
    (run args sur).errors = "" ∧
      (run args filtered).result = (run args sur).result ∧
      (run args' sur).result = (run args sur).result ∧
      (run args (loudSurroundings (some "warn"))).result = (run args sur).result ∧
      (run ["--config", "c.toml", "info"] sur).result = (1, "") := by
  intro args args' sur filtered
  have hargs : Invocation.ofArguments args = .ok ⟨some "c.toml", some "OFF", some .info⟩ := by
    decide
  have hload : Invocation.loadConfig ⟨some "c.toml", some "OFF", some .info⟩ sur
      = .ok ⟨30, false, "OFF", .text⟩ := by
    unfold Invocation.loadConfig
    rw [fileConfig_loud]
    decide
  obtain ⟨hfilter, hswap, hvariable, -, hlines⟩ := logs_beside_results args sur
  obtain ⟨-, -, -, hmisnamed, -⟩ := logs_beside_results ["--config", "c.toml", "info"] sur
  refine ⟨?_, ?_, ?_, ?_, ?_⟩
  · obtain ⟨v, hv, herrors⟩ := hlines _ _ hargs hload rfl
    have hoff : Verbosity.ofName? "OFF".toList = some .off := by decide
    obtain rfl := Option.some.inj ((Verbosity.ofName?_eq_some_iff.mpr hv).symm.trans hoff)
    exact herrors
  · apply hfilter
    refine ⟨rfl, fun other hother => ?_⟩
    simp [filtered, hother]
  · exact hswap "OFF" "Debug" args' (by decide) (by decide) (.apart ["--config", "c.toml"] ["info"])
  · apply hvariable _ (sameBut_loud none (some "warn")) (by decide) (by decide)
    right
    rintro ⟨inv, file, hinv, hnone, -, -⟩
    obtain rfl := Except.ok.inj (hargs.symm.trans hinv)
    cases hnone
  · apply hmisnamed
    · exact ⟨⟨some "c.toml", none, some .info⟩, _, by decide, rfl, fileConfig_loud _ _ _, by decide⟩
    · rfl

/-- **A variable can hide a log level that does not exist**, if it does not say the usual one: of
two levels that both exist, one makes the run succeed and the other makes it fail. -/
theorem level_variable_hides_file :
    let args := ["--config", "c.toml", "info"]
    IsLevel "debug" ∧ IsLevel "info" ∧
      (loudSurroundings (some "debug")).SameBut "DDLSCHEMA_LOG_LEVEL"
        (loudSurroundings (some "info")) ∧
      (run args (loudSurroundings (some "debug"))).result
        = (0, "ddlschema 0.1.0\nStrict types: false\nOutput format: Text\n") ∧
      (run args (loudSurroundings (some "info"))).result = (1, "") := by
  intro args
  have hargs : Invocation.ofArguments args = .ok ⟨some "c.toml", none, some .info⟩ := by
    decide
  refine ⟨by decide, by decide, sameBut_loud _ _, ?_, ?_⟩
  · have hload : Invocation.loadConfig ⟨some "c.toml", none, some .info⟩
        (loudSurroundings (some "debug")) = .ok ⟨30, false, "debug", .text⟩ := by
      unfold Invocation.loadConfig
      rw [fileConfig_loud]
      decide
    rw [result_run hargs]
    unfold Invocation.result
    rw [hload]
    decide
  · have hload : Invocation.loadConfig ⟨some "c.toml", none, some .info⟩
        (loudSurroundings (some "info"))
          = .error ⟨none, .misconfigured (.unknownLevel "loud")⟩ := by
      unfold Invocation.loadConfig
      rw [fileConfig_loud]
      decide
    rw [result_run hargs]
    unfold Invocation.result
    rw [hload]

end Program

end TableSchema
