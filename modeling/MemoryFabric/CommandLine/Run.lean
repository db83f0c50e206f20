import MemoryFabric.CommandLine.Folder
import MemoryFabric.CommandLine.Invocation
import MemoryFabric.Configuration.Load
import MemoryFabric.Fabric.Session

/-!
# Runs

A run builds a fabric and reports what has been built.  The trackers are set up first, so a configuration
that cannot be read leaves an empty log file behind; the log of the build comes before the report, and the
end of the fabric is logged after it.
-/

namespace MemoryFabric

set_option autoImplicit false

/-- What a run leaves behind. -/
structure Report where
  /-- The exit code. -/
  code : UInt8
  /-- The text on the console. -/
  output : String := ""
  /-- The text on the console for errors. -/
  errors : String := ""
  /-- The text of the log file when one has been created. -/
  log : Option String := none

namespace Report

/-- The report of arguments that cannot be understood. -/
def misused : Report := { code := 2 }

/-- The report of a run that fails with a message. -/
def failed (message : String) : Report := { code := 1, errors := "Error: " ++ message ++ "\n" }

/-- The report of a run without an answer. -/
def faulted : Report := { code := 101 }

end Report

namespace Invocation

/-- The report with the log of a tracker: what was logged before `printed` goes in front of it. -/
def logged (invocation : Invocation) (report : Report) (before after : Tracker) : Report :=
  let early := invocation.trackers.consoleLines before
  let late := (invocation.trackers.consoleLines after).drop early.length
  { report with
    output := Tracker.textOfLines early ++ report.output ++ Tracker.textOfLines late
    log := invocation.logFile.map fun _ => Tracker.textOfLines (invocation.trackers.fileLines after) }

/-- The text about a fabric. -/
def description (invocation : Invocation) (recorder : Recorder) (topology : Topology) : String :=
  "Built fabric:\n" ++ topology.text recorder.tracking.fullName ++ "\n" ++
    if invocation.showsGraph then recorder.graph.text ++ "\n" else ""

/-- Build the fabric of settings under a tracker. -/
def build (invocation : Invocation) (tracker : Tracker) (settings : Settings) : Report :=
  match Topology.buildFresh tracker settings with
  | .error _ => Report.faulted
  | .ok (result, recorder) =>
    let before := recorder.tracking.tracker
    match result with
    | .ok topology =>
      let report : Report := { code := 0, output := invocation.description recorder topology }
      let tracking := recorder.tracking.releaseAll topology.allEntities
      invocation.logged report before { recorder with tracking }.drop.tracking.tracker
    | .error failure =>
      let report : Report :=
        match failure with
        | .reported error => Report.failed error.message
        | .fault _ => Report.faulted
      invocation.logged report before recorder.drop.tracking.tracker

/-- Run an invocation.  `refusal?` tells why a file cannot be created, and `text?` is the content of a
regular file once the log file has been created. -/
def run (invocation : Invocation) (refusal? text? : String → Option String)
    (environment : List (String × String)) : Report :=
  match invocation.trackers.tracker refusal? with
  | .error error => Report.failed error.message
  | .ok tracker =>
    match Settings.load invocation.configuration text? environment with
    | .error error => invocation.logged (Report.failed error.message) tracker tracker
    | .ok settings => invocation.build tracker settings

end Invocation

/-- Run a command line in a folder; gives the folder afterwards, too. -/
def Folder.run (folder : Folder) (arguments : List String) (environment : List (String × String)) :
    Report × Folder :=
  match Invocation.read? arguments with
  | none => (Report.misused, folder)
  | some invocation =>
    let created :=
      match invocation.logFile with
      | some path => folder.write path ""
      | none => folder
    let report := invocation.run folder.refusal? created.text? environment
    match invocation.logFile, report.log with
    | some path, some text => (report, folder.write path text)
    | _, _ => (report, folder)

end MemoryFabric
