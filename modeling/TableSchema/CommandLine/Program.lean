import TableSchema.CommandLine.Arguments
import TableSchema.Config.Environment
import TableSchema.Config.File
import TableSchema.Ddl.Session
import TableSchema.Files.Folder
import TableSchema.Log.Filter
import TableSchema.Schema.Report
import TableSchema.Schema.TableJson

/-!
# The program

What the program does with its arguments, given the variables and files around it: it gathers the
settings, carries out the command, and says how it ended.  Tables are printed only when all of them
could be read, so a failed run prints nothing but its failure.

## Main definitions

* `Surroundings` — the variables and files a run can see.
* `Failure` — what ends a run, and how it is reported.
* `Config.ofFile`, `Config.toFile` — settings from a file and into one.
* `Invocation.loadConfig` — the settings of a run.
* `Invocation.execute` — carries out the command.
* `Program.run` — a whole run.
-/

namespace TableSchema

/-! ### Surroundings -/

/-- What a run can see of the world. -/
structure Surroundings where
  /-- The variables that are set. -/
  vars : Variables
  /-- The text of the file at a path, or why there is none. -/
  read : String → Except ReadFault String

/-! ### Failures -/

/-- What ends a run. -/
structure Failure where
  /-- What the program was about to do, if that needs saying. -/
  context : Option String
  /-- What went wrong. -/
  fault : Fault
  deriving DecidableEq, Repr

namespace Failure

/-- The wordings of a failure and of what is behind it, the outermost first. -/
def chain (f : Failure) : List String :=
  f.context.toList ++ f.fault.chain

/-- The line of a numbered cause. -/
def causeLine (i : Nat) (cause : String) : String :=
  let number := toString i
  let margin := String.ofList (List.replicate (5 - number.length) ' ')
  "\n" ++ margin ++ number ++ ": " ++ hangingIndent "       " cause

/-- The lines of the causes; several are numbered from zero. -/
def causeLines : List String → String
  | [] => ""
  | [cause] => "\n\nCaused by:\n    " ++ hangingIndent "    " cause
  | causes => "\n\nCaused by:" ++ String.join (causes.mapIdx causeLine)

/-- How a failure is reported. -/
def report (f : Failure) : String :=
  match f.chain with
  | [] => ""
  | outermost :: causes => "Error: " ++ outermost ++ causeLines causes ++ "\n"

end Failure

/-! ### Settings of a run -/

/-- The settings in a file, given its text or why there is none. -/
def Config.ofFile (text : Except ReadFault String) : Except Fault Config :=
  match text with
  | .error cause => .error (.unreadable cause)
  | .ok text =>
    match Config.ofToml text with
    | .error cause => .error (.misconfigured cause)
    | .ok c => .ok c

/-- Puts settings into the file at a path that can be written to, where `standing` is what stands
there: how it went, and what stands there afterwards.  The settings are printed before the file is
touched. -/
def Config.toFileBy (print : Config → Except Misconfiguration String) (c : Config)
    (standing : Except ReadFault Item) : Except Fault Unit × Except ReadFault Item :=
  match print c with
  | .error cause => (.error (.misconfigured cause), standing)
  | .ok text => (.ok (), .ok (.file text.toUTF8))

/-- Puts settings into a file.  All settings can be printed. -/
def Config.toFile (c : Config) (standing : Except ReadFault Item) :
    Except Fault Unit × Except ReadFault Item :=
  c.toFileBy (fun c => .ok c.toToml) standing

namespace Invocation

/-- The settings in the file that the arguments name, or the defaults. -/
def fileConfig (inv : Invocation) (sur : Surroundings) : Except Failure Config :=
  match inv.config with
  | none => .ok .default
  | some path =>
    match Config.ofFile (sur.read path) with
    | .ok c => .ok c
    | .error fault => .error ⟨some ("failed to load config " ++ path), fault⟩

/-- The settings with the log level that the arguments name. -/
def overrideLevel (inv : Invocation) (c : Config) : Config :=
  match inv.logLevel with
  | none => c
  | some level => { c with logLevel := level }

/-- The settings with what the command says about them. -/
def overrideCommand (inv : Invocation) (c : Config) : Except Misconfiguration Config :=
  match inv.command with
  | some (.parse _ strict format) =>
    let c := if strict then { c with strictTypes := true } else c
    match format with
    | none => .ok c
    | some name =>
      match OutputFormat.ofName name with
      | .ok format => .ok { c with outputFormat := format }
      | .error cause => .error cause
  | _ => .ok c

/-- The settings of a run: those of the file, then those of the variables, then those of the
arguments. -/
def loadConfig (inv : Invocation) (sur : Surroundings) : Except Failure Config :=
  match inv.fileConfig sur with
  | .error failure => .error failure
  | .ok c =>
    match Config.ofVariables sur.vars with
    | .error cause => .error ⟨none, .misconfigured cause⟩
    | .ok vars =>
      match inv.overrideCommand (inv.overrideLevel (c.merge vars)) with
      | .error cause => .error ⟨none, .misconfigured cause⟩
      | .ok c =>
        match c.check with
        | .error cause => .error ⟨none, .misconfigured cause⟩
        | .ok () => .ok c

end Invocation

/-! ### Carrying out commands -/

/-- What carrying out a command leaves behind. -/
structure Execution where
  /-- What is printed. -/
  output : String
  /-- The log records. -/
  log : List LogRecord
  /-- What went wrong, if anything did. -/
  failure : Option Failure
  deriving DecidableEq, Repr

/-- The version of the program. -/
def version : String := "0.1.0"

/-- The line that names the program and its version. -/
def versionLine : String := s!"ddlschema {version}\n"

/-- The print of a list of tables. -/
def OutputFormat.print : OutputFormat → List Table → String
  | .text, tables => TableSchema.report tables ++ "\n"
  | .json, tables => printTables tables ++ "\n"

namespace Invocation

/-- Reads a file and prints its tables. -/
def executeParse (c : Config) (sur : Surroundings) (file : String) : Execution :=
  let session : Session := ⟨c.parseSettings, []⟩
  let r := (session.readFrom file (sur.read file)).1
  match r.outcome with
  | .error fault => ⟨"", r.log, some ⟨some ("failed to parse " ++ file), fault⟩⟩
  | .ok drafts =>
    match tablesOfDrafts drafts with
    | .error fault => ⟨"", r.log, some ⟨none, fault⟩⟩
    | .ok tables => ⟨c.outputFormat.print tables, r.log, none⟩

/-- Carries out the command under these settings. -/
def execute (inv : Invocation) (c : Config) (sur : Surroundings) : Execution :=
  match inv.command with
  | some (.parse file _ _) => executeParse c sur file
  | some .types => ⟨SqlType.overview, [], none⟩
  | some .info =>
    ⟨versionLine ++ s!"Strict types: {c.strictTypes}\nOutput format: {c.outputFormat.label}\n",
      [], none⟩
  | none => ⟨versionLine ++ "Use --help for usage\n", [], none⟩

end Invocation

/-! ### Whole runs -/

/-- How a run ended. -/
structure Exit where
  /-- The exit code. -/
  code : Nat
  /-- What was printed. -/
  output : String
  /-- What was printed beside the output: the log, and the failure if there is one. -/
  errors : String
  deriving DecidableEq, Repr

namespace Program

/-- How the program explains its arguments. -/
def usage : String :=
  "Translates SQL CREATE TABLE statements into a schema description\n\n" ++
  "Usage: ddlschema [OPTIONS] [COMMAND]\n\n" ++
  "Commands:\n" ++
  "  parse <FILE> [--strict] [-f, --format <FORMAT>]  Read a file and print its tables\n" ++
  "  types                                            Print the list of SQL types\n" ++
  "  info                                             Print the version and the settings\n\n" ++
  "Options:\n" ++
  "  -c, --config <CONFIG>    Where the settings are\n" ++
  "      --log-level <LEVEL>  How much of the log to show\n" ++
  "  -h, --help               Print this explanation\n" ++
  "  -V, --version            Print the version\n"

/-- The end of a run whose arguments ask for no command that could be carried out. -/
def refused : Refusal → Exit
  | .help => ⟨0, usage, ""⟩
  | .version => ⟨0, versionLine, ""⟩
  | _ => ⟨2, "", usage⟩

/-- The record with which a run begins once its settings are known.  The log level stands between
quotation marks as it is, since the names of levels hold nothing to be escaped. -/
def beginning (c : Config) : LogRecord :=
  ⟨.debug, .program,
    "Loaded configuration: ParserConfig \x7b abbreviation_length: " ++
      toString c.abbreviationLength.toNat ++ s!", strict_types: {c.strictTypes}, log_level: \"" ++
      c.logLevel ++ s!"\", output_format: {c.outputFormat.label} \x7d"⟩

/-- What decides which log records are shown: the log level of the settings, and a list of
directives in the variable `RUST_LOG`, which prevails. -/
def filter (c : Config) (vars : Variables) : LogFilter × List String :=
  let level := FilterSpec.ofText c.logLevel.toList
  let f := LogFilter.extend {} level
  match vars "RUST_LOG" with
  | none => (f, level.complaints)
  | some text =>
    let more := FilterSpec.ofText text.toList
    (f.extend more, level.complaints ++ more.complaints)

/-- The lines of the log that are shown. -/
def logLines (f : LogFilter) (records : List LogRecord) : String :=
  String.join ((records.filter f.admits).map LogRecord.line)

/-- The lines about directives that were not understood. -/
def warnings (complaints : List String) : String :=
  String.join (complaints.map fun c => "warning: " ++ c ++ ", ignoring it\n")

/-- A run under these settings. -/
def runWith (inv : Invocation) (c : Config) (sur : Surroundings) : Exit :=
  let (f, complaints) := filter c sur.vars
  let done := inv.execute c sur
  let log := warnings complaints ++ logLines f (beginning c :: done.log)
  match done.failure with
  | none => ⟨0, done.output, log⟩
  | some failure => ⟨1, done.output, log ++ failure.report⟩

/-- A whole run. -/
def run (args : List String) (sur : Surroundings) : Exit :=
  match Invocation.ofArguments args with
  | .error refusal => refused refusal
  | .ok inv =>
    match inv.loadConfig sur with
    | .error failure => ⟨1, "", failure.report⟩
    | .ok c => runWith inv c sur

end Program

end TableSchema
