import TableSchema.Ddl.Clause
import TableSchema.Log.Verbosity

/-!
# Settings of the program

Four settings, each with a default.  Settings come from several sources, the later of which
**prevail**: wherever a later source differs from the default, its value is taken.

## Main definitions

* `OutputFormat`, `OutputFormat.ofName?` — how tables are printed.
* `Config`, `Config.default` — the settings and their defaults.
* `Config.merge` — two sources, one after the other.
* `Config.check` — whether the settings can be worked with.
* `Config.parseSettings` — the part that matters for reading statements.
-/

namespace TableSchema

/-! ### Output formats -/

/-- How tables are printed. -/
inductive OutputFormat where
  /-- As a report for human readers. -/
  | text
  /-- As a JSON array. -/
  | json
  deriving DecidableEq, Repr

namespace OutputFormat

/-- The name of a format in print. -/
def label : OutputFormat → String
  | .text => "Text"
  | .json => "Json"

/-- The name of a format in settings files. -/
def name : OutputFormat → String
  | .text => "text"
  | .json => "json"

/-- The format of exactly this name. -/
def ofExactName? (name : String) : Option OutputFormat :=
  if name = "text" then some .text else if name = "json" then some .json else none

/-- The format of a name in any letter case.  A refusal shows the name in lower case. -/
def ofName (name : String) : Except Misconfiguration OutputFormat :=
  let lower := String.ofList (Text.lowerCase name.toList)
  match ofExactName? lower with
  | some format => .ok format
  | none => .error (.unknownFormat lower)

@[simp] theorem ofExactName?_name (f : OutputFormat) : ofExactName? f.name = some f := by
  cases f <;> decide

end OutputFormat

/-! ### Settings -/

/-- The settings of the program.  The log level is the name of one; it is looked at only by
`Config.check`. -/
structure Config where
  /-- How many characters of an unsupported statement its notice shows. -/
  abbreviationLength : UInt64 := 30
  /-- Whether a column of an unlisted type is a fault. -/
  strictTypes : Bool := false
  /-- The name of the log level. -/
  logLevel : String := "info"
  /-- How tables are printed. -/
  outputFormat : OutputFormat := .text
  deriving DecidableEq, Repr

namespace Config

/-- The settings where nothing else is said. -/
def default : Config := {}

/-- The later value wherever it is not the default. -/
def prevail {α : Type} [DecidableEq α] (usual earlier later : α) : α :=
  if later = usual then earlier else later

/-- Two sources of settings, of which the later prevails. -/
def merge (earlier later : Config) : Config where
  abbreviationLength :=
    prevail default.abbreviationLength earlier.abbreviationLength later.abbreviationLength
  strictTypes := prevail default.strictTypes earlier.strictTypes later.strictTypes
  logLevel := prevail default.logLevel earlier.logLevel later.logLevel
  outputFormat := prevail default.outputFormat earlier.outputFormat later.outputFormat

/-- Refuses settings that cannot be worked with: an abbreviation length of zero, or a log level that
does not exist. -/
def check (c : Config) : Except Misconfiguration Unit :=
  if c.abbreviationLength = 0 then .error .zeroLength
  else
    match Verbosity.ofName? c.logLevel.toList with
    | some _ => .ok ()
    | none => .error (.unknownLevel c.logLevel)

/-- The part of the settings that matters for reading statements. -/
def parseSettings (c : Config) : ParseSettings :=
  ⟨c.abbreviationLength.toNat, c.strictTypes⟩

end Config

end TableSchema
