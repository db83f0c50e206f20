import MemoryFabric.Proofs.Host.Run
import MemoryFabric.Proofs.Tracking.Messages

/-!
# Messages of scripts

A recorder writes its own messages at the level for debugging; other messages are those that a script asks for.
So a script that asks for messages of certain levels only, whatever it is answered, adds to the log messages of
these levels only (**`Script.LogsOnly.run`**).
-/

namespace MemoryFabric

set_option autoImplicit false

variable {allowed : Level → Prop}

/-- A command does not ask for a message of another level. -/
def Command.LogsOnly (allowed : Level → Prop) : Command → Prop
  | .log _ level _ => allowed level
  | _ => True

/-! ## Answers -/

namespace Recorder

variable {recorder : Recorder}

theorem logsOnly_logParameters (debug : allowed .debug) {tracking : Tracking} {entity : EntityHandle}
    {parameters : Parameters} :
    tracking.LogsOnly allowed (logParameters tracking entity parameters) := by
  rw [logParameters]
  induction parameters.toList generalizing tracking with
  | nil => exact .refl
  | cons entry rest ih => exact (Tracking.logsOnly_log debug).trans ih

theorem logsOnly_adopt (debug : allowed .debug) {parent : EntityHandle} {entityName : String}
    {handle : ComponentHandle} {graph : ComponentGraph} :
    recorder.tracking.LogsOnly allowed (recorder.adopt parent entityName handle graph).2.tracking := by
  have created := @Tracking.logsOnly_create allowed recorder.tracking (some parent) entityName
  rw [adopt]
  cases outcome : recorder.tracking.create (some parent) entityName with
  | mk result tracking =>
      rw [outcome] at created
      cases result with
      | error fault => exact created
      | ok entity =>
          dsimp only
          split
          · exact created.trans (Tracking.logsOnly_log debug)
          · exact created

/-- A refused call adds no message. -/
theorem logsOnly_answerBy {α β : Type} {result : Except HostError α}
    {accept : α → Attempt HostError β × Recorder}
    (accepted : ∀ value, recorder.tracking.LogsOnly allowed (accept value).2.tracking) :
    recorder.tracking.LogsOnly allowed (recorder.answerBy result accept).2.tracking := by
  cases result with
  | error error => exact .refl
  | ok value => exact accepted value

/-- **What a recorder does on a command** adds messages for debugging and the one that is asked for. -/
theorem logsOnly_answer (debug : allowed .debug) {command : Command} (fits : command.LogsOnly allowed) :
    recorder.tracking.LogsOnly allowed (answer command recorder).2.tracking := by
  cases command with
  | createComponent kind name =>
      rw [answer_createComponent]
      exact logsOnly_answerBy fun _ => logsOnly_adopt debug
  | attachSubcomponent parent slot kind =>
      rw [answer_attachSubcomponent]
      exact logsOnly_answerBy fun _ => logsOnly_adopt debug
  | setParameters handle parameters =>
      rw [answer_setParameters]
      exact logsOnly_answerBy fun _ => logsOnly_logParameters debug
  | createLink name =>
      rw [answer_createLink]
      exact logsOnly_answerBy fun _ => .refl
  | connect link a b =>
      rw [answer_connect]
      exact logsOnly_answerBy fun _ => (Tracking.logsOnly_log debug).trans Tracking.logsOnly_connect
  | configureStatistics setup =>
      rw [answer_configureStatistics]
      exact logsOnly_answerBy fun _ => .refl
  | finalize =>
      rw [answer_finalize]
      exact logsOnly_answerBy fun _ => Tracking.logsOnly_log debug
  | componentName handle =>
      rw [answer_componentName]
      exact logsOnly_answerBy fun _ => .refl
  | createEntity parent name =>
      have created := @Tracking.logsOnly_create allowed recorder.tracking (some parent) name
      rw [answer_createEntity]
      split
      · next fault tracking outcome =>
          rw [outcome] at created
          exact created
      · next entity tracking outcome =>
          rw [outcome] at created
          exact created
  | release entity => exact Tracking.logsOnly_release
  | log entity level text => exact Tracking.logsOnly_log fits

theorem logsOnly_start {tracker : Tracker} (started : start tracker = .ok recorder) :
    (Tracking.start tracker).LogsOnly allowed recorder.tracking := by
  have first := @Tracking.logsOnly_create allowed (Tracking.start tracker) none "top"
  simp only [start, Attempt.bind_eq_ok_iff, Attempt.pure_eq_ok_iff] at started
  obtain ⟨top, _, entity, _, rfl⟩ := started
  exact (first.trans Tracking.logsOnly_create).trans Tracking.logsOnly_release

theorem logsOnly_after (debug : allowed .debug) {commands : List Command}
    (fits : ∀ command ∈ commands, command.LogsOnly allowed) :
    recorder.tracking.LogsOnly allowed (recorder.after commands).tracking := by
  induction commands generalizing recorder with
  | nil => exact .refl
  | cons command rest ih =>
      obtain ⟨here, later⟩ := List.forall_mem_cons.1 fits
      exact (logsOnly_answer debug here).trans (ih later)

/-- **Every graph that is reached under a text tracker has a log.** -/
theorem exists_log?_after {registry : Registry} (started : start (.ofRegistry registry) = .ok recorder)
    (commands : List Command) : ∃ lines, (recorder.after commands).tracking.tracker.log? = some lines := by
  have any_fits : ∀ command ∈ commands, command.LogsOnly fun _ => True := fun command _ => by
    cases command <;> trivial
  obtain ⟨added, -, grown⟩ := ((logsOnly_start started).trans (logsOnly_after trivial any_fits)).lines
  exact ⟨[] ++ added, grown⟩

end Recorder

/-! ## Scripts -/

namespace Script

variable {α β : Type} {script : Script α}

/-- Whatever a script is answered, it asks for messages of certain levels only. -/
def LogsOnly (allowed : Level → Prop) : Script α → Prop
  | .done _ => True
  | .step command next => command.LogsOnly allowed ∧ ∀ answer, (next answer).LogsOnly allowed

theorem LogsOnly.bind {rest : α → Script β} (first : script.LogsOnly allowed)
    (second : ∀ value, (rest value).LogsOnly allowed) : (script.bind rest).LogsOnly allowed := by
  induction script with
  | done value => exact second value
  | step command next ih => exact ⟨first.1, fun answer => ih answer (first.2 answer)⟩

/-- **A run adds the messages of the script and those for debugging**, by induction on the script. -/
theorem LogsOnly.run (debug : allowed .debug) (fits : script.LogsOnly allowed) (recorder : Recorder) :
    recorder.tracking.LogsOnly allowed (script.run Recorder.host recorder).2.tracking := by
  induction script generalizing recorder with
  | done value => exact .refl
  | step command next ih =>
      exact (Recorder.logsOnly_answer debug fits.1).trans (ih _ (fits.2 _) _)

end Script

end MemoryFabric
