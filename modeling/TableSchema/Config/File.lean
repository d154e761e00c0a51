import TableSchema.Config.Basic
import TableSchema.Toml.Reader
import TableSchema.Toml.Written

/-!
# Settings files

Settings in TOML, with an entry for each setting.  On reading, entries of other names are left out,
and a setting without an entry has its default.

## Main definitions

* `Config.toToml` — the text of a settings file.
* `Config.ofToml` — the settings of a file.
-/

namespace TableSchema

open Toml

/-! ### Writing -/

/-- The text of a settings file: an entry for each setting, one to a line. -/
def Config.toToml (c : Config) : String :=
  s!"abbreviation_length = {c.abbreviationLength.toNat}\n" ++
  s!"strict_types = {c.strictTypes}\n" ++
  "log_level = " ++ String.ofList (writeString c.logLevel.toList) ++ "\n" ++
  "output_format = " ++ String.ofList (writeString c.outputFormat.name.toList) ++ "\n"

/-! ### Reading -/

/-- A length: a whole number of 64 bits without a sign. -/
def lengthOfToml? : Value → Option UInt64
  | .integer (.ofNat n) => if n < UInt64.size then some (UInt64.ofNat n) else none
  | _ => none

/-- A truth value. -/
def truthOfToml? : Value → Option Bool
  | .boolean b => some b
  | _ => none

/-- A text. -/
def textOfToml? : Value → Option String
  | .string t => some t
  | _ => none

/-- An output format: its name, or a table that has nothing but an empty entry of this name. -/
def OutputFormat.ofToml? : Value → Option OutputFormat
  | .string name => ofExactName? name
  | .table [(name, .table [])] => ofExactName? name
  | .table [(name, .array [])] => ofExactName? name
  | _ => none

/-- The value of a setting, where `usual` is its value if it has no entry. -/
def settingOfToml? {α : Type} (entries : List (String × Value)) (name : String) (usual : α)
    (read : Value → Option α) : Option α :=
  match entry? name entries with
  | none => some usual
  | some v => read v

/-- The settings that the entries of a file give. -/
def Config.ofEntries? (es : List (String × Value)) : Option Config :=
  match settingOfToml? es "abbreviation_length" default.abbreviationLength lengthOfToml?,
    settingOfToml? es "strict_types" default.strictTypes truthOfToml?,
    settingOfToml? es "log_level" default.logLevel textOfToml?,
    settingOfToml? es "output_format" default.outputFormat OutputFormat.ofToml? with
  | some length, some strict, some level, some format => some ⟨length, strict, level, format⟩
  | _, _, _, _ => none

/-- The settings of a file with this text. -/
def Config.ofToml (text : String) : Except Misconfiguration Config :=
  match read text.toList with
  | .error .deepKey => .error .deepKey
  | .error .malformed => .error .badFile
  | .ok es =>
    match Config.ofEntries? es with
    | some c => .ok c
    | none => .error .badFile

end TableSchema
