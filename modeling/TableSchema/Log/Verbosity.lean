import TableSchema.Log.Record
import TableSchema.Text.LowerCase

/-!
# Verbosity

How much of the log is shown: nothing, or all records down to a severity.  Levels are given by name,
in any letter case.

## Main definitions

* `Verbosity` — the six levels.
* `Verbosity.ofName?` — the level of a name.
* `Verbosity.admits` — whether records of a severity are shown.
-/

namespace TableSchema

/-- How much of the log is shown. -/
inductive Verbosity where
  /-- Nothing. -/
  | off
  /-- Records down to this severity. -/
  | upTo (severity : Severity)
  deriving DecidableEq, Repr

namespace Verbosity

/-- The levels by name, from the least to the most talkative. -/
def named : List (String × Verbosity) :=
  [("off", .off), ("error", .upTo .error), ("warn", .upTo .warn), ("info", .upTo .info),
   ("debug", .upTo .debug), ("trace", .upTo .trace)]

/-- The level of a name, in any letter case. -/
def ofName? (name : List Char) : Option Verbosity :=
  named.lookup (String.ofList (Text.lowerCase name))

/-- Whether records of a severity are shown. -/
def admits : Verbosity → Severity → Bool
  | .off, _ => false
  | .upTo least, severity => severity.rank ≤ least.rank

end Verbosity

end TableSchema
