import TableSchema.CommandLine.Program
import TableSchema.Files.Folder

/-!
# The command line

Carries the program out in the real world: fetches the variables and the files that a run may look
at, and prints what the run leaves behind.
-/

namespace TableSchema

/-- The variables that a run may look at. -/
def variableNames : List String :=
  ["DDLSCHEMA_ABBREVIATION_LENGTH", "DDLSCHEMA_STRICT_TYPES", "DDLSCHEMA_LOG_LEVEL",
    "DDLSCHEMA_OUTPUT_FORMAT", "RUST_LOG"]

/-- The files that a run may look at. -/
def Invocation.files (inv : Invocation) : List String :=
  inv.config.toList ++
    match inv.command with
    | some (.parse file _ _) => [file]
    | _ => []

/-- Why the operating system did not let a file be read. -/
def readFaultOf : IO.Error → ReadFault
  | .inappropriateType .. => .isFolder
  | .otherError 20 _ => .notFolder
  | .otherError 21 _ => .isFolder
  | _ => .notFound

/-- Fetches the text of a file. -/
def fetch (path : String) : IO (String × Except ReadFault String) := do
  try
    return (path, Folder.textOfBytes (← IO.FS.readBinFile path))
  catch e => return (path, .error (readFaultOf e))

/-- Fetches all that a run may look at. -/
def surroundings (files : List String) : IO Surroundings := do
  let vars ← variableNames.mapM fun name => return (name, ← IO.getEnv name)
  let texts ← files.mapM fetch
  return {
    vars := fun name => (vars.lookup name).getD none
    read := fun path => (texts.lookup path).getD (.error .notFound) }

end TableSchema

/-- Runs the program. -/
def main (args : List String) : IO UInt32 := do
  let files := match TableSchema.Invocation.ofArguments args with
    | .ok inv => inv.files
    | .error _ => []
  let ended := TableSchema.Program.run args (← TableSchema.surroundings files)
  (← IO.getStderr).putStr ended.errors
  (← IO.getStdout).putStr ended.output
  return UInt32.ofNat ended.code
