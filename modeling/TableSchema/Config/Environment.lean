import TableSchema.Config.Basic

/-!
# Settings from variables

Each setting has a variable of its own; a variable that is not set leaves the default.  The
variables are read in a fixed order, and the first that cannot be understood decides the refusal.

## Main definitions

* `readLength?` — the length that a text gives.
* `readTruth?` — the truth value that a text gives.
* `Config.ofVariables` — the settings that the variables give.
-/

namespace TableSchema

/-! ### Values -/

/-- The number that a text of decimal digits gives; `none` where something else stands. -/
def readDigits? (t : List Char) : Option Nat :=
  t.foldl
    (fun n c => n.bind fun n =>
      if '0' ≤ c ∧ c ≤ '9' then some (n * 10 + (c.toNat - '0'.toNat)) else none)
    (some 0)

/-- The text without a plus sign at its start. -/
def dropPlus : List Char → List Char
  | '+' :: t => t
  | t => t

/-- The length that a text gives: decimal digits, perhaps behind a plus sign, for a number of at
most 64 bits. -/
def readLength? (t : List Char) : Option UInt64 :=
  if dropPlus t = [] then none
  else
    match readDigits? (dropPlus t) with
    | some n => if n < UInt64.size then some (UInt64.ofNat n) else none
    | none => none

/-- The truth value that a text gives. -/
def readTruth? (text : String) : Option Bool :=
  if text = "true" then some true else if text = "false" then some false else none

/-! ### Variables -/

/-- The texts of the variables that are set. -/
abbrev Variables := String → Option String

/-- The value of a variable, where `usual` is its value if it is not set. -/
def Variables.get {α : Type} (vars : Variables) (name : String) (usual : α)
    (read : String → Except Misconfiguration α) : Except Misconfiguration α :=
  match vars name with
  | none => .ok usual
  | some text => read text

/-- Reads the text of the variable for the abbreviation length. -/
def lengthOfVariable (text : String) : Except Misconfiguration UInt64 :=
  match readLength? text.toList with
  | some n => .ok n
  | none => .error (.badLength text)

/-- Reads the text of the variable for strict types. -/
def strictnessOfVariable (text : String) : Except Misconfiguration Bool :=
  match readTruth? text with
  | some b => .ok b
  | none => .error (.badStrictness text)

/-- The settings that the variables give. -/
def Config.ofVariables (vars : Variables) : Except Misconfiguration Config :=
  match vars.get "DDLSCHEMA_ABBREVIATION_LENGTH" default.abbreviationLength lengthOfVariable with
  | .error cause => .error cause
  | .ok length =>
    match vars.get "DDLSCHEMA_STRICT_TYPES" default.strictTypes strictnessOfVariable with
    | .error cause => .error cause
    | .ok strict =>
      match vars.get "DDLSCHEMA_LOG_LEVEL" default.logLevel .ok with
      | .error cause => .error cause
      | .ok level =>
        match vars.get "DDLSCHEMA_OUTPUT_FORMAT" default.outputFormat OutputFormat.ofName with
        | .error cause => .error cause
        | .ok format => .ok ⟨length, strict, level, format⟩

end TableSchema
