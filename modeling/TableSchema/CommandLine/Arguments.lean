import TableSchema.Text.Cut

/-!
# Arguments of the program

The arguments say where the settings are, how much of the log to show, and which command to carry
out.  Options of the program stand before the command, options of a command behind it.  The value of
an option may follow it as an argument of its own, or be attached to it; short options may stand
together in one argument; everything behind two dashes is an operand.

An option whose value stands apart is **pending** until the next option or operand, or the end: only
then is it looked at whether the value is there, is allowed, and is the only one.  This decides
which of several mistakes is reported.

## Main definitions

* `Param`, `Level` — the options and operands, and where they may stand.
* `Refusal` — why no command is carried out.
* `Scan` — the arguments of a level, as far as they have been read.
* `Command`, `Invocation`, `Invocation.ofArguments` — what the arguments ask for.
-/

namespace TableSchema

open Text

/-! ### Options and operands -/

/-- An option or an operand. -/
inductive Param where
  /-- Where the settings are. -/
  | config
  /-- How much of the log to show. -/
  | logLevel
  /-- Whether unlisted types are refused. -/
  | strict
  /-- How to print tables. -/
  | format
  /-- Which file to read; the only operand. -/
  | file
  /-- Explain the arguments. -/
  | help
  /-- Tell the version of the program. -/
  | version
  deriving DecidableEq, Repr

namespace Param

/-- The long name of an option, which stands behind two dashes. -/
def long? : Param → Option String
  | .config => some "config"
  | .logLevel => some "log-level"
  | .strict => some "strict"
  | .format => some "format"
  | .file => none
  | .help => some "help"
  | .version => some "version"

/-- The letter of an option, which stands behind one dash. -/
def letter? : Param → Option Char
  | .config => some 'c'
  | .format => some 'f'
  | .help => some 'h'
  | .version => some 'V'
  | _ => none

/-- Whether a value belongs to it. -/
def takesValue : Param → Bool
  | .config | .logLevel | .format | .file => true
  | .strict | .help | .version => false

/-- Whether its value is a path, which is never empty. -/
def isPath : Param → Bool
  | .config | .file => true
  | _ => false

end Param

/-- Where options and operands may stand. -/
inductive Level where
  /-- Before the command. -/
  | top
  /-- Behind the command that reads a file. -/
  | parse
  /-- Behind any other command. -/
  | plain
  deriving DecidableEq, Repr

namespace Level

/-- The options of a level. -/
def options : Level → List Param
  | .top => [.config, .logLevel, .help, .version]
  | .parse => [.strict, .format, .help]
  | .plain => [.help]

/-- The operand of a level. -/
def operand? : Level → Option Param
  | .parse => some .file
  | _ => none

/-- The commands that may be named on a level. -/
def commands : Level → List String
  | .top => ["parse", "types", "info", "help"]
  | _ => []

/-- The option with this long name. -/
def withName? (l : Level) (name : List Char) : Option Param :=
  l.options.find? fun p => p.long? == some (String.ofList name)

/-- The option with this letter. -/
def withLetter? (l : Level) (c : Char) : Option Param :=
  l.options.find? fun p => p.letter? == some c

end Level

/-! ### Refusals -/

/-- Why no command is carried out. -/
inductive Refusal where
  /-- An option or operand that does not exist here. -/
  | unknownArgument
  /-- A command that does not exist. -/
  | unknownCommand
  /-- An operand is missing. -/
  | missingOperand
  /-- A value is missing or not allowed. -/
  | badValue
  /-- An option is given twice. -/
  | repeatedOption
  /-- A value is attached to an option that takes none. -/
  | needlessValue
  /-- An explanation is asked for. -/
  | help
  /-- The version is asked for. -/
  | version
  deriving DecidableEq, Repr

/-! ### Reading a level -/

/-- What has been read of the arguments of a level. -/
structure Scan where
  /-- The options and operands that have been settled, with their values; an option without a value
  has an empty one. -/
  settled : List (Param × String) := []
  /-- The option or operand that is still to be settled, and its value if it is there. -/
  pending : Option (Param × Option String) := none
  /-- Whether the next argument is the value of the pending option, unless it is an option too. -/
  awaiting : Bool := false
  /-- Whether two dashes have been read. -/
  trailing : Bool := false
  /-- Whether the operand of the level has been read. -/
  operandRead : Bool := false
  deriving DecidableEq, Repr

namespace Scan

/-- The value of an option or operand that was given. -/
def value? (s : Scan) (p : Param) : Option String :=
  s.settled.lookup p

/-- Settles an option or operand: its value has to be there, it must not have been given before, and
a path must not be empty. -/
def settleWith (s : Scan) (p : Param) (value : Option String) : Except Refusal Scan :=
  match value with
  | none => .error .badValue
  | some v =>
    if (s.value? p).isSome then .error .repeatedOption
    else if p.isPath && v = "" then .error .badValue
    else .ok { s with settled := s.settled ++ [(p, v)] }

/-- Settles what is pending. -/
def settle (s : Scan) : Except Refusal Scan :=
  match s.pending with
  | none => .ok s
  | some (p, v) => { s with pending := none }.settleWith p v

/-- Takes an option without a value. -/
def takeFlag (s : Scan) (p : Param) : Except Refusal Scan :=
  match s.settle with
  | .error e => .error e
  | .ok s =>
    match p with
    | .help => .error .help
    | .version => .error .version
    | p => (s.settleWith p (some "")).map fun s => { s with awaiting := false }

/-- Takes an option whose value is attached to it. -/
def takeAttached (s : Scan) (p : Param) (value : List Char) : Except Refusal Scan :=
  match s.settle with
  | .error e => .error e
  | .ok s =>
    (s.settleWith p (some (String.ofList value))).map fun s => { s with awaiting := false }

/-- Takes an option whose value is to follow. -/
def takeOpen (s : Scan) (p : Param) : Except Refusal Scan :=
  match s.settle with
  | .error e => .error e
  | .ok s => .ok { s with pending := some (p, none), awaiting := true }

/-- Takes the value of the pending option. -/
def takeValue (s : Scan) (value : String) : Scan :=
  { s with pending := s.pending.map fun q => (q.1, some value), awaiting := false }

/-- Takes an argument behind two dashes: a long option, perhaps with its value behind an equals
sign. -/
def takeLong (l : Level) (s : Scan) (t : List Char) : Except Refusal Scan :=
  match l.withName? (t.takeWhile (· ≠ '=')) with
  | none => .error .unknownArgument
  | some p =>
    match p.takesValue, t.dropWhile (· ≠ '=') with
    | true, [] => s.takeOpen p
    | true, _ :: value => s.takeAttached p value
    | false, [] => s.takeFlag p
    | false, _ :: _ => .error .needlessValue

/-- The value that is attached to a short option, with or without an equals sign. -/
def attachedValue : List Char → List Char
  | '=' :: t => t
  | t => t

/-- Takes the letters of short options.  What follows the letter of an option that takes a value is
its value. -/
def takeShort (l : Level) : Scan → List Char → Except Refusal Scan
  | s, [] => .ok s
  | s, c :: t =>
    match l.withLetter? c with
    | none => .error .unknownArgument
    | some p =>
      if p.takesValue then
        match t with
        | [] => s.takeOpen p
        | _ :: _ => s.takeAttached p (attachedValue t)
      else
        match s.takeFlag p with
        | .error e => .error e
        | .ok s => takeShort l s t

/-- Takes an argument that is no option, no value and no command. -/
def takeOperand (l : Level) (s : Scan) (arg : String) : Except Refusal Scan :=
  match l.operand?, s.operandRead with
  | some p, false =>
    match s.settle with
    | .error e => .error e
    | .ok s => .ok { s with pending := some (p, some arg), operandRead := true }
  | _, _ =>
    if s.trailing && l.commands.contains arg then .error .unknownArgument
    else if l.commands.isEmpty then .error .unknownArgument
    else .error .unknownCommand

/-- Takes an argument that names no command. -/
def take (l : Level) (s : Scan) (arg : String) : Except Refusal Scan :=
  if s.trailing then takeOperand l s arg
  else
    match arg.toList with
    | ['-', '-'] => .ok { s with trailing := true }
    | '-' :: '-' :: t => takeLong l s t
    | '-' :: c :: t => takeShort l s (c :: t)
    | _ => if s.awaiting then .ok (s.takeValue arg) else takeOperand l s arg

/-- Whether an argument names the command. -/
def namesCommand (l : Level) (s : Scan) (arg : String) : Bool :=
  !s.trailing && !s.awaiting && l.commands.contains arg

/-- Reads the arguments of a level up to the command.  What is pending stays so. -/
def run (l : Level) : Scan → List String → Except Refusal (Scan × Option (String × List String))
  | s, [] => .ok (s, none)
  | s, arg :: args =>
    if s.namesCommand l arg then .ok (s, some (arg, args))
    else
      match s.take l arg with
      | .error e => .error e
      | .ok s => run l s args

end Scan

/-! ### Commands -/

/-- What the program is asked to do. -/
inductive Command where
  /-- Read a file and print its tables. -/
  | parse (file : String) (strict : Bool) (format : Option String)
  /-- Print the list of SQL types. -/
  | types
  /-- Print what the program is and how it is set. -/
  | info
  deriving DecidableEq, Repr

/-- Reads all arguments of a command. -/
def Scan.ofCommand (l : Level) (args : List String) : Except Refusal Scan :=
  match Scan.run l {} args with
  | .error e => .error e
  | .ok (s, _) => s.settle

/-- Reads the command that reads a file. -/
def Command.ofParse (args : List String) : Except Refusal Command :=
  match Scan.ofCommand .parse args with
  | .error e => .error e
  | .ok s =>
    match s.value? .file with
    | none => .error .missingOperand
    | some file => .ok (.parse file (s.value? .strict).isSome (s.value? .format))

/-- Why `help` carries out no command: the names behind it have to be those of a command. -/
def helpRefusal : List String → Refusal
  | [] => .help
  | [name] => if Level.top.commands.contains name then .help else .unknownCommand
  | _ => .unknownCommand

/-- Reads the command of this name. -/
def Command.ofName (name : String) (args : List String) : Except Refusal Command :=
  if name = "parse" then Command.ofParse args
  else if name = "types" then (Scan.ofCommand .plain args).map fun _ => .types
  else if name = "info" then (Scan.ofCommand .plain args).map fun _ => .info
  else .error (helpRefusal args)

/-! ### Invocations -/

/-- What the arguments ask for. -/
structure Invocation where
  /-- Where the settings are. -/
  config : Option String
  /-- How much of the log to show. -/
  logLevel : Option String
  /-- What to do. -/
  command : Option Command
  deriving DecidableEq, Repr

/-- Settles the options of the program, after the command has been read. -/
def Invocation.ofScan (s : Scan) (command : Option Command) : Except Refusal Invocation :=
  s.settle.map fun s => ⟨s.value? .config, s.value? .logLevel, command⟩

/-- What the arguments ask for. -/
def Invocation.ofArguments (args : List String) : Except Refusal Invocation :=
  match Scan.run .top {} args with
  | .error e => .error e
  | .ok (s, none) => Invocation.ofScan s none
  | .ok (s, some (name, rest)) =>
    match Command.ofName name rest with
    | .error e => .error e
    | .ok command => Invocation.ofScan s (some command)

end TableSchema
