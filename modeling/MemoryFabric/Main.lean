import MemoryFabric.CommandLine.Run
import MemoryFabric.Configuration.Environment

/-!
# The program

Reads files and the environment, runs the invocation of the command line, and writes its report.
-/

namespace MemoryFabric.Program

set_option autoImplicit false

/-- An error of the operating system as the report names it. -/
def reasonOf : IO.Error → String
  | .noFileOrDirectory _ code _ => s!"No such file or directory (os error {code})"
  | .inappropriateType _ code _ => s!"Is a directory (os error {code})"
  | .permissionDenied _ code _ => s!"Permission denied (os error {code})"
  | error => toString error

/-- Create an empty file; gives the reason when that is refused. -/
def create (path : String) : IO (Option String) := do
  try
    IO.FS.writeFile path ""
    return none
  catch error => return some (reasonOf error)

/-- The text of a file, if it is one. -/
def contents (path : String) : IO (Option String) := do
  try return some (← IO.FS.readFile path)
  catch _ => return none

/-- The variables that override settings. -/
def environment : IO (List (String × String)) :=
  Environment.overrides.filterMapM fun (name, _) => do
    return (← IO.getEnv name).map fun text => (name, text)

/-- Run an invocation on the files of the machine. -/
def run (invocation : Invocation) : IO Report := do
  let isWellFormed :=
    match invocation.trackers.tracker fun _ => none with
    | .ok _ => true
    | .error _ => false
  let refusal ←
    match invocation.logFile with
    | some path => if isWellFormed then create path else pure none
    | none => pure none
  let text ←
    match invocation.configuration with
    | some path => contents path
    | none => pure none
  return invocation.run (fun _ => refusal) (fun _ => text) (← environment)

end MemoryFabric.Program

open MemoryFabric in
/-- Run the command line. -/
def main (arguments : List String) : IO UInt32 := do
  match Invocation.read? arguments with
  | none =>
    IO.eprintln "usage: [--config FILE] [--stdout] [--stdout-level LEVEL] [--stdout-filter-regex PATTERN]"
    IO.eprintln "       [--log-file FILE] [--log-file-level LEVEL] [--dump-graph]"
    return Report.misused.code.toUInt32
  | some invocation =>
    let report ← Program.run invocation
    IO.print report.output
    IO.eprint report.errors
    if let (some path, some text) := (invocation.logFile, report.log) then
      IO.FS.writeFile path text
    return report.code.toUInt32
