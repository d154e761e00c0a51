/-!
# Log records

What the program notes on its way: a severity, the part of the program that speaks, and a message.

## Main definitions

* `Severity` — how serious a record is.
* `Origin` — the part of the program a record comes from.
* `LogRecord`, `LogRecord.line` — a record, and how it is printed.
-/

namespace TableSchema

/-! ### Severity -/

/-- How serious a record is, the most serious first. -/
inductive Severity where
  /-- Something failed. -/
  | error
  /-- Something was ignored that the user may have meant. -/
  | warn
  /-- Something was left out on purpose. -/
  | info
  /-- A step on the way. -/
  | debug
  /-- A detail of a step. -/
  | trace
  deriving DecidableEq, Repr

/-- The number of a severity; the more serious, the smaller. -/
def Severity.rank : Severity → Nat
  | .error => 1
  | .warn => 2
  | .info => 3
  | .debug => 4
  | .trace => 5

/-- The name of a severity in print. -/
def Severity.label : Severity → String
  | .error => "ERROR"
  | .warn => "WARN"
  | .info => "INFO"
  | .debug => "DEBUG"
  | .trace => "TRACE"

/-! ### Origin -/

/-- The part of the program a record comes from. -/
inductive Origin where
  /-- The program as a whole. -/
  | program
  /-- The reading of statements. -/
  | statements
  deriving DecidableEq, Repr

/-- The name of an origin in print, by which records can be selected. -/
def Origin.target : Origin → String
  | .program => "ddlschema"
  | .statements => "ddlschema::parser::ddl"

/-! ### Records -/

/-- A log record. -/
structure LogRecord where
  /-- How serious it is. -/
  severity : Severity
  /-- Where it comes from. -/
  origin : Origin
  /-- What it says. -/
  message : String
  deriving DecidableEq, Repr

/-- The text with every line after the first indented by `margin`. -/
def hangingIndent (margin : String) (text : String) : String :=
  String.join (text.toList.map fun c => if c = '\n' then "\n" ++ margin else c.toString)

/-- The line of a record.  The severity takes five columns, and a message of several lines is
indented by four from its second line on. -/
def LogRecord.line (r : LogRecord) : String :=
  let gap := String.ofList (List.replicate (5 - r.severity.label.length) ' ')
  s!"[{r.severity.label}{gap} {r.origin.target}] " ++ hangingIndent "    " r.message ++ "\n"

end TableSchema
