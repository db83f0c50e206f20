import MemoryFabric.Pattern.Reading
import MemoryFabric.Tracking.Tracker

/-!
# Setting up trackers

The trackers of a run as its user asks for them: one that writes to the console, one that writes to a file,
both, or, when none is asked for, warnings on the console.  With a filter, the level is for the selected
entities and all others report errors only.
-/

namespace MemoryFabric

set_option autoImplicit false

/-- Why trackers cannot be set up. -/
inductive TrackerError where
  | malformedPattern (text : String)
  | noFile
  | cannotCreate (path reason : String)
  deriving DecidableEq, Repr

/-- The message of the error. -/
def TrackerError.message (error : TrackerError) : String :=
  "Tracker configuration error: " ++
    match error with
    | .malformedPattern text => s!"Failed to parse regex {text}:"
    | .noFile => "Log file tracker enabled without a file"
    | .cannotCreate path reason => s!"Unable to create {path}: {reason}"

/-- The filter of a written pattern. -/
def LevelFilter.ofPattern (text : String) (level : Level) : Except TrackerError LevelFilter :=
  match Pattern.read? text with
  | some pattern => .ok ⟨pattern.isMatch, level⟩
  | none => .error (.malformedPattern text)

/-- A registry with filters by written patterns. -/
def Registry.ofPatterns (level : Level) (filters : List (String × Level)) :
    Except TrackerError Registry := do
  return Registry.empty level
    (← filters.mapM fun filter => LevelFilter.ofPattern filter.1 filter.2)

/-- What a user asks of one tracker. -/
structure TrackerChoice where
  isEnabled : Bool := false
  level : Level := .warn
  /-- A pattern for the entities that the level is for; no text selects all. -/
  filter : String := ""
  file : Option String := none

/-- The registry of a tracker. -/
def TrackerChoice.registry (choice : TrackerChoice) : Except TrackerError Registry :=
  if choice.filter.isEmpty then .ok (Registry.empty choice.level [])
  else Registry.ofPatterns .error [(choice.filter, choice.level)]

/-- What a user asks of all trackers. -/
structure TrackerSetup where
  console : TrackerChoice := {}
  logFile : TrackerChoice := {}

namespace TrackerSetup

/-- The tracker of the log file; `refusal?` tells why a file cannot be created. -/
def fileTracker (choice : TrackerChoice) (refusal? : String → Option String) :
    Except TrackerError Tracker := do
  let registry ← choice.registry
  match choice.file with
  | none => .error .noFile
  | some path =>
    match refusal? path with
    | some reason => .error (.cannotCreate path reason)
    | none => return Tracker.ofRegistry registry

/-- The tracker of the console. -/
def consoleTracker (choice : TrackerChoice) : Except TrackerError Tracker := do
  return Tracker.ofRegistry (← choice.registry)

/-- The tracker of a run. -/
def tracker (setup : TrackerSetup) (refusal? : String → Option String) :
    Except TrackerError Tracker :=
  match setup.console.isEnabled, setup.logFile.isEnabled with
  | true, true => do
    let console ← consoleTracker setup.console
    let file ← fileTracker setup.logFile refusal?
    return .several 2 [console, file]
  | true, false => consoleTracker setup.console
  | false, true => fileTracker setup.logFile refusal?
  | false, false => consoleTracker {}

/-- The lines that the tracker of a run has written to the console. -/
def consoleLines (setup : TrackerSetup) (tracker : Tracker) : List String :=
  match setup.console.isEnabled, setup.logFile.isEnabled, tracker with
  | true, true, .several _ [console, _] => console.lines
  | false, true, _ => []
  | _, _, tracker => tracker.lines

/-- The lines that the tracker of a run has written to the log file. -/
def fileLines (setup : TrackerSetup) (tracker : Tracker) : List String :=
  match setup.console.isEnabled, setup.logFile.isEnabled, tracker with
  | true, true, .several _ [_, file] => file.lines
  | false, true, tracker => tracker.lines
  | _, _, _ => []

end TrackerSetup

/-! ## Checking runs -/

/-- The name of a file without its folders and its last ending. -/
def fileStem (path : String) : String :=
  let name := ((path.splitOn "/").filter fun part => part ≠ "" ∧ part ≠ ".").getLastD ""
  if name = "" ∨ name = ".." then path
  else
    match name.toList.reverse.dropWhile (· ≠ '.') with
    | _ :: stem => if stem.isEmpty then name else String.ofList stem.reverse
    | [] => name

/-- The level for a checking run: the one that the environment names, otherwise warnings. -/
def checkLevel (setting : Option String) : Level := (setting.bind Level.ofName?).getD .warn

/-- The line at the begin of a checking run, which is left out when only warnings are reported. -/
def checkHeading (path : String) (level : Level) : Option String :=
  if Level.info ≤ level then some s!"Tracking test '{fileStem path}' at level {level.name}"
  else none

/-- Compare events with the patterns that they are expected to match, one by one. -/
def checkEvents : List String → List Event → Except Fault Unit
  | [], _ => .ok ()
  | _, [] => .ok ()
  | expected :: patterns, event :: events =>
    match Pattern.read? expected with
    | none => .error .malformedPattern
    | some pattern =>
      if pattern.isMatch event.written then checkEvents patterns events
      else .error .unexpectedEvents

/-- Compare the events of a collecting tracker with patterns and clear them; on a fault they stay. -/
def Tracker.checkAndClear (expected : List String) : Tracker → Except Fault Tracker
  | .collecting next events =>
    if expected.length ≠ events.size then .error .unexpectedEvents
    else do
      checkEvents expected events.toList
      return .collecting next #[]
  | tracker => .ok tracker

end MemoryFabric
