import Mathlib.Tactic.Common
import TableSchema.Proofs.Config.File

/-!
# Which source decides a setting

The file, the variables and the arguments each give some of the settings: each is a **layer**.  A
layer lies over another, and where the upper one gives nothing the lower one shows.  The variables
are gathered into settings before they meet those of the file, so a variable that gives the usual
value cannot be told from one that is not set.

## Main definitions

* `Layer`, `Layer.above`, `Layer.settle` — what a source gives, layers over each other, and the
  settings where nothing else is said.
* `Layer.unusual` — a layer without the usual values.
* `Layer.ofArguments`, `Layer.ofVariables`, `Layer.ofEntries` — the layers of a run.
* `Layer.Masked` — a variable with the usual value lies over an entry with another.

## Main results

* `Layer.merge_settle` — what merging does to layers.
* `Layer.settle_above_unusual_eq_iff` — when the usual values may be left out.
* `Invocation.loadConfig_eq_settle` — **the settings of a run are those of its layers**, without the
  usual values of the variables.
* `Invocation.loadConfig_masked` — a variable that is set does not always prevail over the file.
-/

namespace TableSchema

open Toml (PlainEntry document read_document denotes_boolean)

/-! ### One setting -/

section Setting

variable {α : Type} [DecidableEq α]

/-- The later source wherever it gives another value than the usual one. -/
theorem Config.prevail_getD (usual : α) (earlier later : Option α) :
    prevail usual (earlier.getD usual) (later.getD usual)
      = ((later.filter (· ≠ usual)).or earlier).getD usual := by
  cases later with
  | none => simp [prevail]
  | some v => by_cases h : v = usual <;> simp [prevail, Option.filter, h]

/-- The argument is silent, the variable gives the usual value, and the entry another. -/
def MaskedBy (usual : α) (arg var entry : Option α) : Prop :=
  arg = none ∧ var = some usual ∧ entry.getD usual ≠ usual

/-- The usual value of a variable may be left out unless it lies over another. -/
theorem getD_or_filter_eq_iff (usual : α) (arg var entry : Option α) :
    (arg.or ((var.filter (· ≠ usual)).or entry)).getD usual = (arg.or (var.or entry)).getD usual ↔
      ¬ MaskedBy usual arg var entry := by
  cases arg with
  | some v => simp [MaskedBy]
  | none =>
    cases var with
    | none => simp [MaskedBy]
    | some v => by_cases h : v = usual <;> simp [MaskedBy, Option.filter, h]

end Setting

/-! ### What a run is given -/

namespace Invocation

/-- The entries of the file that a run has; a run without a file has none. -/
def fileEntries (inv : Invocation) (sur : Surroundings) : List (String × Toml.Value) :=
  match inv.config.map sur.read with
  | some (.ok text) =>
    match Toml.read text.toList with
    | .ok es => es
    | .error _ => []
  | _ => []

/-- Whether the arguments ask for strict types. -/
def asksStrict (inv : Invocation) : Bool :=
  match inv.command with
  | some (.parse _ strict _) => strict
  | _ => false

/-- The output format that the arguments name. -/
def formatName? (inv : Invocation) : Option String :=
  match inv.command with
  | some (.parse _ _ format) => format
  | _ => none

end Invocation

/-! ### Layers -/

/-- What a source gives of the settings. -/
structure Layer where
  /-- How many characters of an unsupported statement its notice shows. -/
  abbreviationLength : Option UInt64 := none
  /-- Whether a column of an unlisted type is a fault. -/
  strictTypes : Option Bool := none
  /-- The name of the log level. -/
  logLevel : Option String := none
  /-- How tables are printed. -/
  outputFormat : Option OutputFormat := none
  deriving DecidableEq

namespace Layer

/-- A layer over another. -/
def above (upper lower : Layer) : Layer where
  abbreviationLength := upper.abbreviationLength.or lower.abbreviationLength
  strictTypes := upper.strictTypes.or lower.strictTypes
  logLevel := upper.logLevel.or lower.logLevel
  outputFormat := upper.outputFormat.or lower.outputFormat

/-- A layer without the usual values. -/
def unusual (l : Layer) : Layer where
  abbreviationLength := l.abbreviationLength.filter (· ≠ Config.default.abbreviationLength)
  strictTypes := l.strictTypes.filter (· ≠ Config.default.strictTypes)
  logLevel := l.logLevel.filter (· ≠ Config.default.logLevel)
  outputFormat := l.outputFormat.filter (· ≠ Config.default.outputFormat)

/-- The settings of a layer, with the usual value wherever it gives none. -/
def settle (l : Layer) : Config where
  abbreviationLength := l.abbreviationLength.getD Config.default.abbreviationLength
  strictTypes := l.strictTypes.getD Config.default.strictTypes
  logLevel := l.logLevel.getD Config.default.logLevel
  outputFormat := l.outputFormat.getD Config.default.outputFormat

/-- Which settings a layer gives. -/
def given (l : Layer) : List Bool :=
  [l.abbreviationLength.isSome, l.strictTypes.isSome, l.logLevel.isSome, l.outputFormat.isSome]

/-- **Merging the settings of two layers** puts one over the other without its usual values. -/
theorem merge_settle (lower upper : Layer) :
    lower.settle.merge upper.settle = (upper.unusual.above lower).settle := by
  simp only [Config.merge, settle, unusual, above, Config.prevail_getD]

/-- A setting whose variable gives the usual value lies over another value in the file. -/
def Masked (args vars file : Layer) : Prop :=
  MaskedBy Config.default.abbreviationLength args.abbreviationLength vars.abbreviationLength
      file.abbreviationLength ∨
    MaskedBy Config.default.strictTypes args.strictTypes vars.strictTypes file.strictTypes ∨
    MaskedBy Config.default.logLevel args.logLevel vars.logLevel file.logLevel ∨
    MaskedBy Config.default.outputFormat args.outputFormat vars.outputFormat file.outputFormat

/-- **The usual values of the variables may be left out** unless one of them lies over another value
in the file. -/
theorem settle_above_unusual_eq_iff (args vars file : Layer) :
    (args.above (vars.unusual.above file)).settle = (args.above (vars.above file)).settle ↔
      ¬ Masked args vars file := by
  simp only [settle, above, unusual, Config.mk.injEq, getD_or_filter_eq_iff, Masked, not_or]

/-! ### Variables -/

/-- What a variable gives. -/
def ofVariable {α : Type} (vars : Variables) (name : String)
    (read : String → Except Misconfiguration α) : Option α :=
  (vars name).bind fun text => (read text).toOption

/-- What the variables give. -/
def ofVariables (vars : Variables) : Layer where
  abbreviationLength := ofVariable vars "DDLSCHEMA_ABBREVIATION_LENGTH" lengthOfVariable
  strictTypes := ofVariable vars "DDLSCHEMA_STRICT_TYPES" strictnessOfVariable
  logLevel := ofVariable vars "DDLSCHEMA_LOG_LEVEL" .ok
  outputFormat := ofVariable vars "DDLSCHEMA_OUTPUT_FORMAT" OutputFormat.ofName

/-- The variables of the settings. -/
def variableNames : List String :=
  ["DDLSCHEMA_ABBREVIATION_LENGTH", "DDLSCHEMA_STRICT_TYPES", "DDLSCHEMA_LOG_LEVEL",
    "DDLSCHEMA_OUTPUT_FORMAT"]

theorem get_eq_ok {α : Type} {vars : Variables} {name : String} {usual v : α}
    {read : String → Except Misconfiguration α} (h : vars.get name usual read = .ok v) :
    v = (ofVariable vars name read).getD usual ∧
      (ofVariable vars name read).isSome = (vars name).isSome := by
  rw [Variables.get] at h
  rw [ofVariable]
  cases hname : vars name with
  | none =>
    rw [hname] at h
    exact ⟨(Except.ok.inj h).symm, rfl⟩
  | some text =>
    rw [hname] at h
    simp only at h
    rw [Option.bind_some, h]
    exact ⟨rfl, rfl⟩

/-- Variables that can be read give their settings, each that is set its own. -/
theorem ofVariables_of_eq_ok {vars : Variables} {c : Config} (h : Config.ofVariables vars = .ok c) :
    c = (ofVariables vars).settle ∧
      (ofVariables vars).given = variableNames.map fun name => (vars name).isSome := by
  -- the variables are read one after the other, and none of them has failed
  rw [Config.ofVariables] at h
  split at h
  next => cases h
  next length hlength =>
    split at h
    next => cases h
    next strict hstrict =>
      split at h
      next => cases h
      next level hlevel =>
        split at h
        next => cases h
        next format hformat =>
          cases h
          obtain ⟨rfl, h₁⟩ := get_eq_ok hlength
          obtain ⟨rfl, h₂⟩ := get_eq_ok hstrict
          obtain ⟨rfl, h₃⟩ := get_eq_ok hlevel
          obtain ⟨rfl, h₄⟩ := get_eq_ok hformat
          refine ⟨rfl, ?_⟩
          simp only [given, ofVariables, h₁, h₂, h₃, h₄, variableNames, List.map_cons, List.map_nil]

/-! ### Files -/

/-- What the entry of a file gives. -/
def ofEntry {α : Type} (es : List (String × Toml.Value)) (name : String)
    (read : Toml.Value → Option α) : Option α :=
  (Toml.entry? name es).bind read

/-- What the entries of a file give. -/
def ofEntries (es : List (String × Toml.Value)) : Layer where
  abbreviationLength := ofEntry es "abbreviation_length" lengthOfToml?
  strictTypes := ofEntry es "strict_types" truthOfToml?
  logLevel := ofEntry es "log_level" textOfToml?
  outputFormat := ofEntry es "output_format" OutputFormat.ofToml?

/-- The entries of the settings. -/
def entryNames : List String :=
  ["abbreviation_length", "strict_types", "log_level", "output_format"]

theorem settingOfToml?_eq_some {α : Type} {es : List (String × Toml.Value)} {name : String}
    {usual v : α} {read : Toml.Value → Option α}
    (h : settingOfToml? es name usual read = some v) :
    v = (ofEntry es name read).getD usual ∧
      (ofEntry es name read).isSome = (Toml.entry? name es).isSome := by
  rw [settingOfToml?] at h
  rw [ofEntry]
  cases hname : Toml.entry? name es with
  | none =>
    rw [hname] at h
    exact ⟨(Option.some.inj h).symm, rfl⟩
  | some value =>
    rw [hname] at h
    simp only at h
    rw [Option.bind_some, h]
    exact ⟨rfl, rfl⟩

/-- Entries that can be read give their settings, each that is there its own. -/
theorem ofEntries_of_eq_some {es : List (String × Toml.Value)} {c : Config}
    (h : Config.ofEntries? es = some c) :
    c = (ofEntries es).settle ∧
      (ofEntries es).given = entryNames.map fun name => (Toml.entry? name es).isSome := by
  rw [Config.ofEntries?] at h
  split at h
  next length strict level format hlength hstrict hlevel hformat =>
    cases h
    obtain ⟨rfl, h₁⟩ := settingOfToml?_eq_some hlength
    obtain ⟨rfl, h₂⟩ := settingOfToml?_eq_some hstrict
    obtain ⟨rfl, h₃⟩ := settingOfToml?_eq_some hlevel
    obtain ⟨rfl, h₄⟩ := settingOfToml?_eq_some hformat
    refine ⟨rfl, ?_⟩
    simp only [given, ofEntries, h₁, h₂, h₃, h₄, entryNames, List.map_cons, List.map_nil]
  next => cases h

/-- A file that can be read gives its settings. -/
theorem ofEntries_of_fileConfig_eq_ok {inv : Invocation} {sur : Surroundings} {c : Config}
    (h : inv.fileConfig sur = .ok c) :
    c = (ofEntries (inv.fileEntries sur)).settle ∧
      (ofEntries (inv.fileEntries sur)).given
        = entryNames.map fun name => (Toml.entry? name (inv.fileEntries sur)).isSome := by
  -- a file is read in three stages, and a fault in any of them would not be settings
  rw [Invocation.fileConfig] at h
  rw [Invocation.fileEntries]
  cases hpath : inv.config with
  | none =>
    rw [hpath] at h
    cases h
    exact ⟨rfl, rfl⟩
  | some path =>
    rw [hpath] at h
    simp only [Config.ofFile] at h
    rw [Option.map_some]
    cases htext : sur.read path with
    | error cause =>
      rw [htext] at h
      cases h
    | ok text =>
      rw [htext] at h
      simp only [Config.ofToml] at h ⊢
      cases hread : Toml.read text.toList with
      | error problem =>
        rw [hread] at h
        cases problem <;> cases h
      | ok es =>
        rw [hread] at h
        simp only at h ⊢
        cases hes : Config.ofEntries? es with
        | none =>
          rw [hes] at h
          cases h
        | some found =>
          rw [hes] at h
          cases h
          exact ofEntries_of_eq_some hes

/-! ### Arguments -/

/-- What the arguments give.  They can ask for strict types only, not against them. -/
def ofArguments (inv : Invocation) : Layer where
  strictTypes := if inv.asksStrict then some true else none
  logLevel := inv.logLevel
  outputFormat := inv.formatName?.bind fun name => (OutputFormat.ofName name).toOption

/-- Arguments that can be read lie over the other layers. -/
theorem ofArguments_of_eq_ok {inv : Invocation} {lower : Layer} {c : Config}
    (h : inv.overrideCommand (inv.overrideLevel lower.settle) = .ok c) :
    c = ((ofArguments inv).above lower).settle ∧
      (ofArguments inv).given
        = [false, inv.asksStrict, inv.logLevel.isSome, inv.formatName?.isSome] := by
  have hlevel : inv.overrideLevel lower.settle
      = (above { logLevel := inv.logLevel } lower).settle := by
    rw [Invocation.overrideLevel]
    cases inv.logLevel <;> rfl
  rw [hlevel] at h
  rcases inv with ⟨config, level, _ | ⟨file, strict, format⟩ | _ | _⟩
  case some.parse =>
    cases format with
    | none =>
      cases h
      cases strict <;> exact ⟨rfl, rfl⟩
    | some name =>
      simp only [Invocation.overrideCommand] at h
      cases hname : OutputFormat.ofName name with
      | error cause =>
        rw [hname] at h
        cases h
      | ok found =>
        rw [hname] at h
        cases h
        have hformat : ofArguments ⟨config, level, some (.parse file strict (some name))⟩
            = ⟨none, if strict then some true else none, level, some found⟩ := by
          simp only [ofArguments, Invocation.formatName?, Option.bind_some, hname]
          rfl
        rw [hformat]
        cases strict <;> exact ⟨rfl, rfl⟩
  all_goals
    cases h
    exact ⟨rfl, rfl⟩

end Layer

/-! ### Runs -/

/-- **The settings of a run are those of its layers**: the arguments lie over the variables, and
these over the file, where a variable with the usual value is as good as none.  That makes a
difference exactly if it lies over another value in the file and under no argument.  Everything that
a source gives is in its layer. -/
theorem Invocation.loadConfig_eq_settle {inv : Invocation} {sur : Surroundings} {c : Config}
    (h : inv.loadConfig sur = .ok c) :
    let args := Layer.ofArguments inv
    let vars := Layer.ofVariables sur.vars
    let file := Layer.ofEntries (inv.fileEntries sur)
    c = (args.above (vars.unusual.above file)).settle ∧
      (c = (args.above (vars.above file)).settle ↔ ¬ Layer.Masked args vars file) ∧
      args.given
        = [false, inv.asksStrict, inv.logLevel.isSome, inv.formatName?.isSome] ∧
      vars.given = Layer.variableNames.map (fun name => (sur.vars name).isSome) ∧
      file.given = Layer.entryNames.map
        fun name => (Toml.entry? name (inv.fileEntries sur)).isSome := by
  intro args vars file
  -- each source in turn becomes a layer, and merging puts the variables over the file
  rw [loadConfig] at h
  split at h
  next => cases h
  next base hfile =>
    obtain ⟨rfl, hentries⟩ := Layer.ofEntries_of_fileConfig_eq_ok hfile
    split at h
    next => cases h
    next set hvars =>
      obtain ⟨rfl, hset⟩ := Layer.ofVariables_of_eq_ok hvars
      rw [Layer.merge_settle] at h
      split at h
      next => cases h
      next found hargs =>
        obtain ⟨hsettle, hgiven⟩ := Layer.ofArguments_of_eq_ok hargs
        split at h
        next => cases h
        next =>
          cases h
          refine ⟨hsettle, ?_, hgiven, hset, hentries⟩
          rw [hsettle]
          exact Layer.settle_above_unusual_eq_iff args vars file

/-! ### A file that asks for strict types -/

theorem Layer.read_strict :
    Toml.read "strict_types = true\n".toList = .ok [("strict_types", .boolean true)] := by
  have hes : ∀ e ∈ [PlainEntry.mk "strict_types" (toString true).toList (.boolean true)],
      e.Readable := by
    intro e he
    rw [List.mem_singleton.mp he]
    exact Config.readable_of_bare (by decide) (by decide) (denotes_boolean true)
  have htext : "strict_types = true\n".toList
      = document [⟨"strict_types", (toString true).toList, .boolean true⟩] := by
    have htrue : toString true = "true" := rfl
    simp [document, PlainEntry.line, htrue]
  rw [htext]
  exact read_document hes (by simp)

theorem Config.ofFile_strict :
    Config.ofFile (.ok "strict_types = true\n") = .ok ⟨30, true, "info", .text⟩ := by
  rw [Config.ofFile, Config.ofToml, Layer.read_strict]
  rfl

/-- Strict types come from the file, the log level from the arguments although a variable gives
another, and the output format from a variable. -/
theorem Invocation.loadConfig_three_layers :
    let inv : Invocation := ⟨some "c.toml", some "trace", some (.parse "a.sql" false none)⟩
    let sur : Surroundings :=
      ⟨fun name => if name = "DDLSCHEMA_OUTPUT_FORMAT" then some "JSON" else
          if name = "DDLSCHEMA_LOG_LEVEL" then some "debug" else none,
        fun _ => .ok "strict_types = true\n"⟩
    inv.loadConfig sur = .ok ⟨30, true, "trace", .json⟩ ∧
      Config.mk 30 true "trace" .json = ((Layer.ofArguments inv).above
        ((Layer.ofVariables sur.vars).unusual.above
          (Layer.ofEntries (inv.fileEntries sur)))).settle := by
  intro inv sur
  have hload : inv.loadConfig sur = .ok ⟨30, true, "trace", .json⟩ := by
    rw [loadConfig, fileConfig]
    simp only [inv, sur, Config.ofFile_strict]
    decide
  exact ⟨hload, (loadConfig_eq_settle hload).1⟩

/-- A variable that asks against strict types has no effect on a file that asks for them, although
it lies over the file. -/
theorem Invocation.loadConfig_masked :
    let inv : Invocation := ⟨some "c.toml", none, some .info⟩
    let sur : Surroundings :=
      ⟨fun name => if name = "DDLSCHEMA_STRICT_TYPES" then some "false" else none,
        fun _ => .ok "strict_types = true\n"⟩
    Invocation.ofArguments ["--config", "c.toml", "info"] = .ok inv ∧
      inv.loadConfig sur = .ok ⟨30, true, "info", .text⟩ ∧
      ((Layer.ofArguments inv).above ((Layer.ofVariables sur.vars).above
          (Layer.ofEntries (inv.fileEntries sur)))).settle = ⟨30, false, "info", .text⟩ := by
  intro inv sur
  refine ⟨by decide, ?_, ?_⟩
  · rw [loadConfig, fileConfig]
    simp only [inv, sur, Config.ofFile_strict]
    decide
  · have hes : inv.fileEntries sur = [("strict_types", .boolean true)] := by
      simp only [fileEntries, inv, sur, Option.map_some, Layer.read_strict]
    rw [hes]
    decide

end TableSchema
