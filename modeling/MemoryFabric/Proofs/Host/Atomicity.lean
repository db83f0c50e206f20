import MemoryFabric.Host.Recorder

/-!
# Calls that fail

A step that fails leaves done what has been done before it, so a call could be refused when it has changed
something already.  No call of a recorder is.  Each begins with steps that only read (`Recording.Reads`); then
it creates an entity, if it creates any; and what it does from there on cannot fail (`Recording.Succeeds`).

A recording is atomic (`Recording.IsAtomic`) when nothing is left of it where it fails.  The two rules of
sequencing, `Reads.bind_isAtomic` and `IsAtomic.bind_succeeds`, follow that order of a call, and all answers
of a recorder are atomic by them (**`Recording.isAtomic_perform`**).
-/

namespace MemoryFabric.Recording

set_option autoImplicit false

variable {α β : Type}

/-! ## Steps -/

section Steps

variable {recorder : Recorder}

/-- What follows a step goes on where the step has ended, unless the step has failed. -/
theorem on_bind (first : Recording α) (rest : α → Recording β) :
    (first >>= rest).on recorder =
      match first.on recorder with
      | (.ok value, next) => (rest value).on next
      | (.error failure, next) => (.error failure, next) := by
  change (ExceptT.bindCont rest (first.on recorder).1).run (first.on recorder).2 = _
  generalize first.on recorder = ended
  obtain ⟨result, next⟩ := ended
  cases result <;> rfl

theorem on_look (question : ComponentGraph → Except HostError α) :
    (look question).on recorder = (Attempt.reporting (question recorder.graph), recorder) := rfl

theorem on_refuseIf (condition : Bool) (error : HostError) :
    (refuseIf condition error).on recorder =
      (if condition then Attempt.report error else .ok (), recorder) := by
  cases condition <;> rfl

theorem on_createEntity (parent : EntityHandle) (name : String) :
    (createEntity parent name).on recorder =
      (Attempt.checked (recorder.tracking.create (some parent) name).1,
        { recorder with tracking := (recorder.tracking.create (some parent) name).2 }) := rfl

/-- A change stays when the next step fails. -/
example (change : ComponentGraph → ComponentGraph) (error : HostError) :
    (edit change >>= fun _ => refuseIf true error).on recorder =
      (.error (.reported error), { recorder with graph := change recorder.graph }) := rfl

end Steps

/-! ## Reading -/

/-- A recording that leaves every recorder as it is. -/
def Reads (recording : Recording α) : Prop := ∀ recorder, (recording.on recorder).2 = recorder

theorem reads_get : (get : Recording Recorder).Reads := fun _ => rfl

theorem reads_graph : graph.Reads := fun _ => rfl

theorem reads_look (question : ComponentGraph → Except HostError α) : (look question).Reads :=
  fun _ => rfl

theorem reads_refuseIf (condition : Bool) (error : HostError) : (refuseIf condition error).Reads :=
  fun _ => congrArg Prod.snd (on_refuseIf condition error)

/-! ## Success -/

/-- A recording that fails on no recorder. -/
def Succeeds (recording : Recording α) : Prop :=
  ∀ recorder, ∃ value, (recording.on recorder).1 = .ok value

theorem succeeds_pure (value : α) : (pure value : Recording α).Succeeds := fun _ => ⟨value, rfl⟩

theorem succeeds_get : (get : Recording Recorder).Succeeds := fun recorder => ⟨recorder, rfl⟩

theorem succeeds_modify (change : Recorder → Recorder) : (modify change : Recording Unit).Succeeds :=
  fun _ => ⟨(), rfl⟩

theorem Succeeds.bind {first : Recording α} {rest : α → Recording β} (succeeds : first.Succeeds)
    (others : ∀ value, (rest value).Succeeds) : (first >>= rest).Succeeds := by
  intro recorder
  obtain ⟨value, given⟩ := succeeds recorder
  generalize ended : first.on recorder = outcome at given
  obtain ⟨_, next⟩ := outcome
  cases given
  rw [on_bind, ended]
  exact others value next

theorem succeeds_forM {step : α → Recording Unit} (each : ∀ entry, (step entry).Succeeds)
    (entries : List α) : (entries.forM step).Succeeds := by
  induction entries with
  | nil => exact succeeds_pure ()
  | cons entry rest ih => exact (each entry).bind fun _ => ih

/-! ## Atomic recordings -/

/-- Where the recording is refused, it leaves the recorder as it was; where it faults, it has changed no more
than what is tracked. -/
def IsAtomic (recording : Recording α) : Prop :=
  ∀ recorder failure last, recording.on recorder = (.error failure, last) →
    (∀ error, failure = .reported error → last = recorder) ∧
      last.graph = recorder.graph ∧ last.parts = recorder.parts

section Rules

variable {first recording : Recording α} {rest : α → Recording β}

/-- What only reads can come before. -/
theorem Reads.bind_isAtomic (reads : first.Reads) (others : ∀ value, (rest value).IsAtomic) :
    (first >>= rest).IsAtomic := by
  intro recorder failure last failed
  have same := reads recorder
  rw [on_bind] at failed
  generalize first.on recorder = ended at failed same
  obtain ⟨result, _⟩ := ended
  cases same
  cases result with
  | error failure =>
      cases failed
      exact ⟨fun _ _ => rfl, rfl, rfl⟩
  | ok value => exact others value _ _ _ failed

/-- What always succeeds can come behind. -/
theorem IsAtomic.bind_succeeds (atomic : first.IsAtomic) (others : ∀ value, (rest value).Succeeds) :
    (first >>= rest).IsAtomic := by
  intro recorder failure last failed
  rw [on_bind] at failed
  generalize ended : first.on recorder = outcome at failed
  obtain ⟨result, next⟩ := outcome
  cases result with
  | error failure =>
      cases failed
      exact atomic _ _ _ ended
  | ok value =>
      obtain ⟨given, succeeded⟩ := others value next
      cases succeeded.symm.trans (congrArg Prod.fst failed)

theorem Succeeds.isAtomic (succeeds : recording.Succeeds) : recording.IsAtomic := by
  intro recorder failure last failed
  obtain ⟨given, succeeded⟩ := succeeds recorder
  cases succeeded.symm.trans (congrArg Prod.fst failed)

end Rules

/-- Without an identifier for it, an entity that cannot be created leaves its mark on the tracker only. -/
theorem isAtomic_createEntity (parent : EntityHandle) (name : String) :
    (createEntity parent name).IsAtomic := by
  intro recorder failure last failed
  rw [on_createEntity] at failed
  generalize recorder.tracking.create (some parent) name = outcome at failed
  obtain ⟨result, tracking⟩ := outcome
  cases result with
  | error fault =>
      cases failed
      exact ⟨nofun, rfl, rfl⟩
  | ok entity => cases failed

/-- A late check is what the rules have no place for: a recording that changes the graph before it is refused
is not atomic. -/
example : ¬ (edit (fun graph => { graph with isFinalized := !graph.isFinalized }) >>= fun _ =>
    refuseIf true (.duplicateLink "link")).IsAtomic := by
  intro atomic
  have unchanged := (atomic ⟨.start .silent, .empty, ⟨0⟩, ⟨0⟩, #[]⟩ _ _ rfl).2.1
  cases congrArg ComponentGraph.isFinalized unchanged

/-! ## Calls -/

/-- The entity of a new component is the first thing that is made of it. -/
theorem isAtomic_addComponent (parent : EntityHandle) (component : Component) (entityName : String) :
    (addComponent parent component entityName).IsAtomic := by
  refine reads_graph.bind_isAtomic fun graph => ?_
  refine (isAtomic_createEntity parent entityName).bind_succeeds fun entity => ?_
  refine (succeeds_modify _).bind fun _ => ?_
  refine (succeeds_modify _).bind fun _ => (succeeds_modify _).bind fun _ => ?_
  exact (succeeds_modify _).bind fun _ => succeeds_pure _

theorem isAtomic_createComponent (kind name : String) : (createComponent kind name).IsAtomic := by
  refine (reads_look _).bind_isAtomic fun _ => (reads_refuseIf _ _).bind_isAtomic fun _ => ?_
  refine reads_graph.bind_isAtomic fun graph => (reads_refuseIf _ _).bind_isAtomic fun _ => ?_
  exact reads_get.bind_isAtomic fun recorder => isAtomic_addComponent _ _ _

theorem isAtomic_attachSubcomponent (parent : ComponentHandle) (slot kind : String) :
    (attachSubcomponent parent slot kind).IsAtomic := by
  refine (reads_look _).bind_isAtomic fun _ => (reads_refuseIf _ _).bind_isAtomic fun _ => ?_
  refine (reads_look _).bind_isAtomic fun owner => (reads_refuseIf _ _).bind_isAtomic fun _ => ?_
  refine reads_get.bind_isAtomic fun recorder => ?_
  refine (isAtomic_addComponent _ _ _).bind_succeeds fun handle => ?_
  exact (succeeds_modify _).bind fun _ => succeeds_pure handle

theorem isAtomic_setParameters (handle : ComponentHandle) (parameters : Parameters) :
    (setParameters handle parameters).IsAtomic := by
  refine (reads_look _).bind_isAtomic fun _ => (reads_look _).bind_isAtomic fun _ => ?_
  refine reads_get.bind_isAtomic fun recorder => Succeeds.isAtomic ?_
  exact (succeeds_forM (fun _ => succeeds_modify _) _).bind fun _ => succeeds_modify _

theorem isAtomic_createLink (name : String) : (createLink name).IsAtomic := by
  refine (reads_look _).bind_isAtomic fun _ => ?_
  refine reads_graph.bind_isAtomic fun graph => (reads_refuseIf _ _).bind_isAtomic fun _ => ?_
  refine reads_graph.bind_isAtomic fun graph => Succeeds.isAtomic ?_
  exact (succeeds_modify _).bind fun _ => (succeeds_modify _).bind fun _ => succeeds_pure _

/-- The link, both components, the two ends and both ports are checked before anything is logged. -/
theorem isAtomic_connect (link : LinkHandle) (a b : LinkEnd) : (connect link a b).IsAtomic := by
  refine (reads_look _).bind_isAtomic fun _ => (reads_look _).bind_isAtomic fun link => ?_
  refine (reads_look _).bind_isAtomic fun _ => (reads_look _).bind_isAtomic fun _ => ?_
  refine reads_graph.bind_isAtomic fun graph => (reads_refuseIf _ _).bind_isAtomic fun _ => ?_
  refine (reads_look _).bind_isAtomic fun _ => (reads_look _).bind_isAtomic fun _ => ?_
  refine reads_get.bind_isAtomic fun recorder => Succeeds.isAtomic ?_
  refine (succeeds_modify _).bind fun _ => (succeeds_modify _).bind fun _ => ?_
  exact (succeeds_modify _).bind fun _ => (succeeds_modify _).bind fun _ => succeeds_modify _

theorem isAtomic_configureStatistics (setup : StatisticsSetup) :
    (configureStatistics setup).IsAtomic :=
  (reads_look _).bind_isAtomic fun _ => (succeeds_modify _).isAtomic

theorem isAtomic_finalize : finalize.IsAtomic := by
  refine (reads_look _).bind_isAtomic fun _ => (reads_look _).bind_isAtomic fun _ => ?_
  refine ((succeeds_modify _).bind fun _ => ?_).isAtomic
  exact succeeds_get.bind fun recorder => succeeds_modify _

theorem isAtomic_componentName (handle : ComponentHandle) : (componentName handle).IsAtomic :=
  (reads_look _).bind_isAtomic fun _ => (succeeds_pure _).isAtomic

/-- **Every answer is atomic.** -/
theorem isAtomic_perform (command : Command) : (perform command).IsAtomic := by
  cases command with
  | createComponent kind name => exact isAtomic_createComponent kind name
  | attachSubcomponent parent slot kind => exact isAtomic_attachSubcomponent parent slot kind
  | setParameters handle parameters => exact isAtomic_setParameters handle parameters
  | createLink name => exact isAtomic_createLink name
  | connect link a b => exact isAtomic_connect link a b
  | configureStatistics setup => exact isAtomic_configureStatistics setup
  | finalize => exact isAtomic_finalize
  | componentName handle => exact isAtomic_componentName handle
  | createEntity parent name => exact isAtomic_createEntity parent name
  | release entity => exact (succeeds_modify _).isAtomic
  | log entity level text => exact (succeeds_modify _).isAtomic

end MemoryFabric.Recording
