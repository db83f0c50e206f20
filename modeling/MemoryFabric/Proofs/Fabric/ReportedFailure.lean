import MemoryFabric.Proofs.Fabric.Outcome
import MemoryFabric.Proofs.Fabric.QuietBuild

/-!
# Failures in the log

A build that stops with an error leaves one error in the log, about the very error that it stops with, and a build
that succeeds leaves none (`Topology.LogsOutcome`).  The phases of a build log no errors, so that the one that is
logged after them is the only one; it is enabled under every filter; and what is let go of afterwards adds no
messages, so that it is the last one.

Main statement: **`Topology.build_logsOutcome`**.
-/

namespace MemoryFabric

set_option autoImplicit false

namespace Build

/-- Letting go of entities adds no messages. -/
theorem logsOnly_run_releaseAll {allowed : Level → Prop} {recorder : Recorder} {entities : List EntityHandle} :
    recorder.tracking.LogsOnly allowed ((releaseAll entities).run Recorder.host recorder).2.tracking := by
  induction entities generalizing recorder with
  | nil => exact .refl
  | cons entity rest ih =>
      exact Tracking.logsOnly_release.trans
        (@ih { recorder with tracking := recorder.tracking.release entity })

end Build

namespace Topology

/-- The line about the error that a build stops with, at the entity of its fabric. -/
def abortLine (fabric : UInt64) (error : BuildError) : String :=
  s!"{fabric.toNat}:ERROR: build aborted: {error.message}"

theorem written_abort {fabric : UInt64} {error : BuildError} :
    (Event.message fabric .error ("build aborted: " ++ error.message)).written = abortLine fabric error := by
  simp [Event.written, abortLine, Level.name, ← String.toList_inj]

/-- The lines that a build adds to a log when it returns; the entity of its fabric is given by its identifier. -/
inductive LogsOutcome (fabric : UInt64) : Built Topology → List String → Prop
  /-- A build that succeeds logs no error. -/
  | built {topology : Topology} {lines : List String}
      (no_error : ∀ line ∈ lines, ¬ IsMessage .error line) : LogsOutcome fabric (.ok topology) lines
  /-- A build that fails logs its error and no other one, and no message comes after that. -/
  | failed {error : BuildError} {before later : List String}
      (no_error : ∀ line ∈ before, ¬ IsMessage .error line)
      (no_message : ∀ line ∈ later, ∀ level, ¬ IsMessage level line) :
      LogsOutcome fabric (.error (.reported error))
        (before ++ abortLine fabric error :: later)

variable {recorder opened stopped after : Recorder} {parent fabric : EntityHandle} {settings : Settings}
  {entity : Entity} {lines : List String} {error : BuildError} {result : Built Topology}

theorem no_error_of_quiet (quiet : ∀ line ∈ lines, ∀ level, IsMessage level line → level.IsQuiet) :
    ∀ line ∈ lines, ¬ IsMessage .error line := by
  intro line member isError
  rcases quiet line member .error isError with same | same <;> cases same

/-- What is logged before without an error makes no difference. -/
theorem LogsOutcome.prepend {identifier : UInt64} {added : List String}
    (outcome : LogsOutcome identifier result added) (no_error : ∀ line ∈ lines, ¬ IsMessage .error line) :
    LogsOutcome identifier result (lines ++ added) := by
  cases outcome with
  | built none_added => exact .built (List.forall_mem_append.2 ⟨no_error, none_added⟩)
  | failed none_added no_message =>
      rw [← List.append_assoc]
      exact .failed (List.forall_mem_append.2 ⟨no_error, none_added⟩) no_message

/-! ## Around the phases -/

/-- The entity of a fabric is created first, unless there is no identifier for it. -/
theorem run_createEntity (recorder : Recorder) (parent : EntityHandle) :
    (∃ fault after, (Build.createEntity parent "fabric").run.run Recorder.host recorder =
        (.error (.fault fault), after)) ∨
      ∃ opened fabric, (Build.createEntity parent "fabric").run.run Recorder.host recorder =
          (.ok ⟨recorder.tracking.entities.size⟩, opened) ∧
        recorder.tracking.LogsOnly Level.IsQuiet opened.tracking ∧
        opened.tracking.get? ⟨recorder.tracking.entities.size⟩ = some fabric ∧
          fabric.name = "fabric" ∧ fabric.parent = some parent := by
  have logs := @Tracking.logsOnly_create Level.IsQuiet recorder.tracking (some parent) "fabric"
  cases created : recorder.tracking.create (some parent) "fabric" with
  | mk outcome tracking =>
      rw [created] at logs
      have ran : (Build.createEntity parent "fabric").run.run Recorder.host recorder =
          (((Recorder.answer (.createEntity parent "fabric") recorder).1.mapError (Failure.map .host)),
            (Recorder.answer (.createEntity parent "fabric") recorder).2) := rfl
      rw [Recorder.answer_createEntity, created] at ran
      cases outcome with
      | error fault => exact .inl ⟨fault, _, ran⟩
      | ok handle =>
          obtain ⟨rfl, fabric, found, named, placed⟩ := Tracking.get?_of_create created
          exact .inr ⟨_, fabric, ran, logs, found, named, placed⟩

/-- **What the phases add to a log, with the report and what is let go of.** -/
theorem aroundPhases_logsOutcome (writes : opened.tracking.tracker.log? = some lines)
    (found : opened.tracking.get? fabric = some entity)
    (ran : ((orReport (runPhases fabric settings) fabric).orRelease [fabric]).run.run Recorder.host opened =
      (result, after))
    (returns : ∀ fault, result ≠ .error (.fault fault)) :
    ∃ added, after.tracking.tracker.log? = some (lines ++ added) ∧
      LogsOutcome entity.identifier result added ∧
        ∃ isHeld children, after.tracking.get? fabric = some { entity with isHeld, children } := by
  have phases := (quiet_runPhases fabric settings).run (.inr rfl) opened
  cases ended : (runPhases fabric settings).run.run Recorder.host opened with
  | mk outcome stopped =>
      rw [ended] at phases
      obtain ⟨⟨added, quiet, grown⟩, kept⟩ := phases
      rw [writes] at grown
      obtain ⟨isHeld, children, still_found⟩ := kept fabric entity found
      rcases outcome with failure | topology
      · cases (Build.run_orRelease_of_error [fabric] (run_orReport_of_error fabric ended)).symm.trans ran
        cases failure with
        | fault fault => exact absurd rfl (returns fault)
        | reported error =>
            -- The report comes after the phases, and what is let go of after the report.
            have reported := @Tracking.log?_log_error stopped.tracking fabric _
              ("build aborted: " ++ error.message) still_found
            obtain ⟨⟨later, silent, released⟩, kept⟩ :=
              @Build.logsOnly_run_releaseAll (fun _ => False)
                (stopped.log fabric .error ("build aborted: " ++ error.message)) [fabric]
            obtain ⟨isHeld, children, last_found⟩ := kept fabric _ still_found
            refine ⟨_, ?_, .failed (no_error_of_quiet quiet) silent, isHeld, children, last_found⟩
            refine released.trans ?_
            rw [Recorder.log, reported, grown, written_abort]
            simp
      · cases (Build.run_orRelease_ok [fabric] (run_orReport_ok fabric ended)).symm.trans ran
        exact ⟨added, grown, .built (no_error_of_quiet quiet), isHeld, children, still_found⟩

/-- **A failed build leaves one error in the log, and a build that succeeds none.**  Under every text tracker,
whatever its levels and filters are, a build that returns adds lines as its result says; the fabric is the entity
that it creates first. -/
theorem build_logsOutcome (writes : recorder.tracking.tracker.log? = some lines)
    (ran : (build parent settings).run.run Recorder.host recorder = (result, after))
    (returns : ∀ fault, result ≠ .error (.fault fault)) :
    ∃ fabric added, after.tracking.get? ⟨recorder.tracking.entities.size⟩ = some fabric ∧
      fabric.name = "fabric" ∧ fabric.parent = some parent ∧
        after.tracking.tracker.log? = some (lines ++ added) ∧
          LogsOutcome fabric.identifier result added := by
  rcases run_createEntity recorder parent with
    ⟨fault, failed, created⟩ | ⟨opened, fabric, created, logs, found, named, placed⟩
  · cases (Build.run_bind_error created).symm.trans ran
    exact absurd rfl (returns fault)
  · obtain ⟨first, quiet, grown⟩ := logs.lines
    rw [writes] at grown
    obtain ⟨added, later_grown, outcome, isHeld, children, still_found⟩ :=
      aroundPhases_logsOutcome grown found ((Build.run_bind_ok created).symm.trans ran) returns
    refine ⟨_, first ++ added, still_found, named, placed, ?_, outcome.prepend (no_error_of_quiet quiet)⟩
    rw [later_grown, List.append_assoc]

/-- A build that needs a name which is taken, under a tracker that shows warnings and all about one node. -/
theorem build_logsOutcome_taken_name :
    ∃ first, Recorder.start (.ofRegistry (.empty .warn
        [⟨fun name => name = "top::fabric::cluster::cpu0", .trace⟩])) = .ok first ∧
      ∃ recorder, recorder = first.after [.createComponent "kind" "cpu0"] ∧
        ∃ outcome, (build recorder.top {}).run.run Recorder.host recorder = outcome ∧
          outcome.1.mapError (Failure.map BuildError.message) =
            .error (.reported "Host Error: Duplicate component name 'cpu0'") ∧
          outcome.2.tracking.tracker.log? = some
            ["6: created 7, top::fabric::cluster::cpu0", "6: destroyed 7",
              "5:ERROR: build aborted: Host Error: Duplicate component name 'cpu0'"] ∧
          ∃ lines fabric added, outcome.2.tracking.get? ⟨recorder.tracking.entities.size⟩ = some fabric ∧
            fabric.name = "fabric" ∧ fabric.parent = some recorder.top ∧
              outcome.2.tracking.tracker.log? = some (lines ++ added) ∧
                LogsOutcome fabric.identifier outcome.1 added := by
  have returns : ∀ {result : Built Topology} {text},
      result.mapError (Failure.map BuildError.message) = .error (.reported text) →
        ∀ fault, result ≠ .error (.fault fault) := by
    rintro _ text stops fault rfl
    cases stops
  refine ⟨_, rfl, _, rfl, _, rfl, by decide +kernel, by decide +kernel, ?_⟩
  obtain ⟨lines, writes⟩ := @Recorder.exists_log?_after _
    (.empty .warn [⟨fun name => name = "top::fabric::cluster::cpu0", .trace⟩]) rfl
    [.createComponent "kind" "cpu0"]
  exact ⟨lines, build_logsOutcome writes rfl
    (@returns _ "Host Error: Duplicate component name 'cpu0'" (by decide +kernel))⟩

end Topology

end MemoryFabric
