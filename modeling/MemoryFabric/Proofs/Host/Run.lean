import MemoryFabric.Proofs.Host.Step

/-!
# Runs of a recorder

A run gives a recorder commands one after another, whatever it answers.  What the steps of a graph keep holds
after every run (**`after_keeps`**), and a script is a run too (`exists_after_of_run`), so that builds need
no induction of their own.

A call that fails leaves no trace (`failed_leaves_unchanged`).  Once a graph is finalized no run changes it
(`run_of_finalized`), and it has been finalized only with both ends of all its links
(`after_connected`).
-/

namespace MemoryFabric

set_option autoImplicit false

namespace Recorder

variable {recorder : Recorder}

/-! ## Commands one after another -/

/-- The recorder after commands, whatever it answers to them. -/
def after (recorder : Recorder) (commands : List Command) : Recorder :=
  commands.foldl (fun recorder command => (answer command recorder).2) recorder

@[simp]
theorem after_cons {command : Command} {rest : List Command} :
    recorder.after (command :: rest) = (answer command recorder).2.after rest := rfl

theorem after_append {first second : List Command} :
    recorder.after (first ++ second) = (recorder.after first).after second :=
  List.foldl_append

/-- A command leaves the graph alone or takes a step. -/
theorem graph_answer (recorder : Recorder) (command : Command) :
    (answer command recorder).2.graph = recorder.graph ∨
      recorder.graph.isFinalized = false ∧
        recorder.graph.Step command (answer command recorder).2.graph := by
  have answers := recorder.answers_answer command
  generalize answer command recorder = outcome at answers
  cases answers with
  | refused error => exact .inl rfl
  | faulted fault tracking => exact .inl rfl
  | accepted opened step => exact .inr ⟨opened, step⟩
  | observed tracking free => exact .inl rfl

/-- **What every step of an open graph keeps holds after every run.** -/
theorem after_keeps {holds : ComponentGraph → Prop}
    (keeps : ∀ {graph command next}, graph.isFinalized = false → graph.Step command next →
      holds graph → holds next)
    (commands : List Command) (start : holds recorder.graph) :
    holds (recorder.after commands).graph := by
  induction commands generalizing recorder with
  | nil => exact start
  | cons command rest ih =>
      refine ih ?_
      rcases recorder.graph_answer command with same | ⟨opened, step⟩
      · rw [same]
        exact start
      · exact keeps opened step start

/-- Whatever a script does a run does. -/
theorem exists_after_of_run {α : Type} (script : Script α) (recorder : Recorder) :
    ∃ commands, (script.run host recorder).2 = recorder.after commands := by
  induction script generalizing recorder with
  | done value => exact ⟨[], rfl⟩
  | step command next ih =>
      obtain ⟨commands, ran⟩ := ih (answer command recorder).1 (answer command recorder).2
      exact ⟨command :: commands, ran⟩

/-! ## Calls that fail -/

/-- **A call that fails leaves no trace.**  When it is refused the recorder stays as it is, with all that its
tracker has recorded; when there is no identifier for an entity the graph stays as it is. -/
theorem failed_leaves_unchanged {command : Command} {failure : Failure HostError} {last : Recorder}
    (failed : answer command recorder = (.error failure, last)) :
    (∀ error, failure = .reported error → last = recorder) ∧
      last.graph = recorder.graph ∧ last.parts = recorder.parts :=
  Recording.isAtomic_perform command recorder failure last failed

/-- A connection whose second port is bound is refused and leaves everything as it is. -/
theorem failed_leaves_unchanged_bound_port : ∃ first, start .silent = .ok first ∧
    ∃ reached, reached = first.after
        [.createComponent "kind" "a", .createLink "x", .createLink "y",
          .connect ⟨0⟩ ⟨⟨0⟩, "p", ⟨1⟩⟩ ⟨⟨0⟩, "q", ⟨1⟩⟩] ∧
      ∃ last, answer (.connect ⟨1⟩ ⟨⟨0⟩, "r", ⟨1⟩⟩ ⟨⟨0⟩, "p", ⟨1⟩⟩) reached =
          (.error (.reported (.portBound "a.p" "x")), last) ∧ last = reached := by
  refine ⟨_, rfl, _, rfl, _, Prod.ext (by decide +kernel) rfl, ?_⟩
  exact (@failed_leaves_unchanged _ _ (.reported (.portBound "a.p" "x")) _
    (Prod.ext (by decide +kernel) rfl)).1 _ rfl

/-! ## Finalized graphs -/

/-- A finalized graph has no steps, so no run changes it. -/
theorem after_of_finalized (closed : recorder.graph.isFinalized = true) (commands : List Command) :
    (recorder.after commands).graph = recorder.graph := by
  refine @after_keeps recorder (fun graph => graph = recorder.graph) ?_ commands rfl
  rintro graph command next opened _ rfl
  cases opened.symm.trans closed

theorem run_of_finalized {α : Type} (closed : recorder.graph.isFinalized = true) (script : Script α) :
    (script.run host recorder).2.graph = recorder.graph := by
  obtain ⟨commands, ran⟩ := exists_after_of_run script recorder
  rw [ran]
  exact after_of_finalized closed commands

theorem checkOpen_of_finalized {graph : ComponentGraph} (closed : graph.isFinalized = true)
    (call : HostCall) : graph.checkOpen call = .error (.finalized call) := by
  rw [ComponentGraph.checkOpen, closed]
  rfl

/-- On a finalized graph every call is refused. -/
theorem answer_of_finalized (closed : recorder.graph.isFinalized = true) {command : Command}
    {call : HostCall} (structural : command.call? = some call) :
    answer command recorder = (.error (.reported (.finalized call)), recorder) := by
  have refused := checkOpen_of_finalized closed call
  cases command with
  | createComponent kind name =>
      cases structural
      rw [answer_createComponent, ComponentGraph.createComponent, refused]
      rfl
  | attachSubcomponent parent slot kind =>
      cases structural
      rw [answer_attachSubcomponent, ComponentGraph.attachSubcomponent, refused]
      rfl
  | setParameters handle parameters =>
      cases structural
      rw [answer_setParameters, ComponentGraph.setParameters, refused]
      rfl
  | createLink name =>
      cases structural
      rw [answer_createLink, ComponentGraph.createLink, refused]
      rfl
  | connect link a b =>
      cases structural
      rw [answer_connect, ComponentGraph.connect, refused]
      rfl
  | configureStatistics setup =>
      cases structural
      rw [answer_configureStatistics, ComponentGraph.configureStatistics, refused]
      rfl
  | finalize =>
      cases structural
      rw [answer_finalize, ComponentGraph.finalize, refused]
      rfl
  | componentName handle => cases structural
  | createEntity parent name => cases structural
  | release entity => cases structural
  | log entity level text => cases structural

/-- **A graph has been finalized only with both ends of all its links.** -/
theorem after_connected (fresh : recorder.graph = .empty) (commands : List Command)
    (closed : (recorder.after commands).graph.isFinalized = true) :
    ∀ link ∈ (recorder.after commands).graph.links, link.ends.isSome = true := by
  refine @after_keeps recorder
    (fun graph => graph.isFinalized = true → ∀ link ∈ graph.links, link.ends.isSome = true)
    (fun opened step _ => ?_) commands ?_ closed
  · cases step with
    | finalize connected => exact fun _ => connected
    | _ => exact fun closed => nomatch opened.symm.trans closed
  · rw [fresh]
    nofun

end Recorder

end MemoryFabric
