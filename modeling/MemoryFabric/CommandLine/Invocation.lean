import MemoryFabric.Tracking.Setup

/-!
# Invocations

What the arguments of a command line ask for.  Every option has a long name and may be given once; an option
with a value takes it from behind an equals sign or from the next argument, which must not look like an
option itself.
-/

namespace MemoryFabric

set_option autoImplicit false

/-- What a run is asked to do. -/
structure Invocation where
  /-- The path of a configuration file. -/
  configuration : Option String := none
  /-- Whether events are logged to the console, and which ones. -/
  logsToConsole : Bool := false
  consoleLevel : Level := .info
  consoleFilter : String := ""
  /-- The path of a log file. -/
  logFile : Option String := none
  logLevel : Level := .debug
  /-- Whether the component graph is printed, too. -/
  showsGraph : Bool := false

namespace Invocation

/-- Set an option that has no value. -/
def setFlag? (invocation : Invocation) : String → Option Invocation
  | "--stdout" => some { invocation with logsToConsole := true }
  | "--dump-graph" => some { invocation with showsGraph := true }
  | _ => none

/-- Set an option that has a value. -/
def setValue? (invocation : Invocation) (name value : String) : Option Invocation :=
  match name with
  | "--config" =>
    if value.isEmpty then none else some { invocation with configuration := some value }
  | "--stdout-level" =>
    (Level.ofName? value).map fun level => { invocation with consoleLevel := level }
  | "--stdout-filter-regex" => some { invocation with consoleFilter := value }
  | "--log-file" => some { invocation with logFile := some value }
  | "--log-file-level" =>
    (Level.ofName? value).map fun level => { invocation with logLevel := level }
  | _ => none

/-- An argument in front of its first equals sign, and what stands behind the sign. -/
def splitArgument (argument : String) : String × Option String :=
  let characters := argument.toList
  let name := characters.takeWhile (· ≠ '=')
  match characters.drop name.length with
  | [] => (argument, none)
  | _ :: value => (String.ofList name, some (String.ofList value))

/-- Whether an argument looks like an option and so cannot be the value of one. -/
def isOptionLike (argument : String) : Bool := argument.startsWith "-" && argument ≠ "-"

/-- Read arguments after those that have set the options `given`. -/
def readFrom? (given : List String) (invocation : Invocation) : List String → Option Invocation
  | [] => some invocation
  | argument :: rest =>
    let (name, value?) := splitArgument argument
    if argument = "--" then if rest.isEmpty then some invocation else none
    else if given.contains name then none
    else
      match value? with
      | some value => do readFrom? (name :: given) (← invocation.setValue? name value) rest
      | none =>
        match invocation.setFlag? name with
        | some invocation => readFrom? (name :: given) invocation rest
        | none =>
          match rest with
          | [] => none
          | value :: rest =>
            if isOptionLike value then none
            else do readFrom? (name :: given) (← invocation.setValue? name value) rest

/-- What arguments ask for; nothing when they cannot be understood. -/
def read? (arguments : List String) : Option Invocation := readFrom? [] {} arguments

/-- The trackers of the run. -/
def trackers (invocation : Invocation) : TrackerSetup where
  console :=
    { isEnabled := invocation.logsToConsole
      level := invocation.consoleLevel
      filter := invocation.consoleFilter }
  logFile :=
    { isEnabled := invocation.logFile.isSome
      level := invocation.logLevel
      file := invocation.logFile }

end Invocation

end MemoryFabric
