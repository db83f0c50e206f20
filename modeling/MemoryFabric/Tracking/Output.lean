import MemoryFabric.Tracking.Setup

/-!
# The output of trackers

What a tracker has recorded between two times, and what the trackers of a run leave behind on the console
and in the log file.
-/

namespace MemoryFabric

set_option autoImplicit false

/-- What a tracker has recorded. -/
inductive Output where
  | nothing
  /-- Whole lines. -/
  | text (text : String)
  | events (events : List String)
  /-- The outputs of several trackers, not all of them nothing. -/
  | several (outputs : List Output)

/-- Whether there is no output. -/
def Output.isNothing : Output → Bool
  | .nothing => true
  | _ => false

namespace Tracker

mutual

/-- What a tracker has recorded since it had recorded `before`. -/
def since (before : Tracker) : Tracker → Output
  | .silent => .nothing
  | .text _ lines =>
    match lines.toList.drop before.lines.length with
    | [] => .nothing
    | added => .text (textOfLines added)
  | .collecting _ events =>
    let old :=
      match before with
      | .collecting _ events => events.size
      | _ => 0
    match events.toList.drop old with
    | [] => .nothing
    | added => .events (added.map Event.written)
  | .several _ trackers =>
    let old :=
      match before with
      | .several _ trackers => trackers
      | _ => []
    let outputs := allSince old trackers
    if outputs.all Output.isNothing then .nothing else .several outputs

/-- What each of several trackers has recorded. -/
def allSince (before : List Tracker) : List Tracker → List Output
  | [] => []
  | tracker :: rest =>
    since (before.headD .silent) tracker :: allSince before.tail rest

end

end Tracker

/-- Where the output of a run goes. -/
inductive Destination where
  /-- Nowhere: it is looked at while the run goes on. -/
  | memory
  /-- To the console, after a heading. -/
  | console (heading : Option String)
  /-- To the console and a log file. -/
  | files (setup : TrackerSetup)

namespace Destination

/-- The text on the console and, when a log file was asked for, in the log file. -/
def written? (destination : Destination) (tracker : Tracker) :
    Option (String × Option String) :=
  match destination with
  | .memory => none
  | .console heading =>
    some (Tracker.textOfLines heading.toList ++ tracker.writtenText, none)
  | .files setup =>
    let logged := Tracker.textOfLines (setup.fileLines tracker)
    some (Tracker.textOfLines (setup.consoleLines tracker),
      if setup.logFile.isEnabled then some logged else none)

end Destination

end MemoryFabric
