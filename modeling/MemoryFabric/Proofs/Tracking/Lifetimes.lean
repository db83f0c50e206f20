import MemoryFabric.Proofs.Tracking.Chronicle

/-!
# Lifetimes of entities

An entity comes into being below an entity that lives, any number of handles to it are shared and dropped
in any order, and it comes to its end when neither a handle nor a living child is left.  To drop a handle may
therefore end nothing, or an entity and a whole chain of its ancestors.

Main statement: **`Ownership.run_nests`**, by which the lifetimes that the events tell are nested.  A tracker
that traces all names traces every entity of every run (**`Ownership.run_isTraced`**).
-/

namespace MemoryFabric

set_option autoImplicit false

/-! ## Handles -/

/-- What is done with handles to entities. -/
inductive HandleAction where
  | create (parent : Option EntityHandle) (name : String)
  | share (entity : EntityHandle)
  | drop (entity : EntityHandle)
  | log (entity : EntityHandle) (level : Level) (text : String)
  | connect (source target : EntityHandle)
  deriving DecidableEq, Repr

/-- Entities with the handles to them that are left; an entity stands among them once for each of its
handles. -/
structure Ownership where
  tracking : Tracking
  references : List EntityHandle

namespace Ownership

/-- A tracker without entities. -/
def start (tracker : Tracker) : Ownership := ⟨.start tracker, []⟩

/-- Do an action.  A parent has to live, and so has an entity to which there is to be one more handle; the
owner of an entity lets go of it with the last handle. -/
def act (ownership : Ownership) : HandleAction → Ownership
  | .create parent name =>
    if parent.all ownership.tracking.lives then
      match ownership.tracking.create parent name with
      | (.ok entity, tracking) => ⟨tracking, entity :: ownership.references⟩
      | (.error _, tracking) => ⟨tracking, ownership.references⟩
    else ownership
  | .share entity =>
    if ownership.tracking.lives entity then
      ⟨ownership.tracking.modify entity fun entity => { entity with isHeld := true },
        entity :: ownership.references⟩
    else ownership
  | .drop entity =>
    let rest := ownership.references.erase entity
    if entity ∈ rest then ⟨ownership.tracking, rest⟩
    else ⟨ownership.tracking.release entity, rest⟩
  | .log entity level text => ⟨ownership.tracking.log entity level text, ownership.references⟩
  | .connect source target => ⟨ownership.tracking.connect source target, ownership.references⟩

/-- Do actions one after another. -/
def run (ownership : Ownership) (actions : List HandleAction) : Ownership := actions.foldl act ownership

end Ownership

/-! ## Runs -/

namespace Ownership

variable {tree : Tracker} {ownership : Ownership}

theorem act_create_tracking {above : Option EntityHandle} (allowed : above.all ownership.tracking.lives = true)
    (name : String) :
    (ownership.act (.create above name)).tracking = (ownership.tracking.create above name).2 := by
  rw [act, if_pos allowed]
  split <;> next created => rw [created]

/-- What one action does, when it leaves no new entity untraced. -/
theorem told_act (told : IsTold tree ownership.references ownership.tracking) {action : HandleAction}
    (traced : ∀ above name, action = .create above name → above.all ownership.tracking.lives = true →
      (ownership.tracking.create above name).2.IsTraced) :
    IsTold tree (ownership.act action).references (ownership.act action).tracking := by
  cases action with
  | create parent name =>
      rw [act]
      split
      · next allowed =>
          rcases told.create allowed (traced parent name rfl allowed) with
            ⟨fault, after, refused, told⟩ | ⟨entity, after, created, told⟩
          · rw [refused]
            exact told
          · rw [created]
            exact told
      · exact told
  | share entity =>
      rw [act]
      split
      · next lives => exact told.share lives
      · exact told
  | drop entity =>
      have others : ∀ other, other ≠ entity →
          (other ∈ ownership.references ↔ other ∈ ownership.references.erase entity) :=
        fun other different => (List.mem_erase_of_ne different).symm
      rw [act]
      split
      · next another =>
          obtain ⟨events, gone, chronicle, settled⟩ := told
          refine ⟨events, gone, chronicle.changeReferences fun other => ?_, settled⟩
          by_cases same : other = entity
          · subst same
            exact iff_of_true (List.mem_of_mem_erase another) another
          · exact others other same
      · next last => exact told.release others last
  | log entity level text => exact told.observe rfl rfl
  | connect source target => exact told.observe rfl rfl

/-- What a run does that leaves no entity untraced at any stage, by induction on its actions. -/
theorem told_run {actions : List HandleAction} : ∀ {ownership : Ownership},
    IsTold tree ownership.references ownership.tracking →
      (∀ stage, stage <+: actions → (ownership.run stage).tracking.IsTraced) →
        IsTold tree (ownership.run actions).references (ownership.run actions).tracking := by
  induction actions with
  | nil => exact fun told _ => told
  | cons action rest ih =>
      intro ownership told traced
      have first : (ownership.act action).tracking.IsTraced := traced [action] ⟨rest, rfl⟩
      refine ih (told_act told fun above name same allowed => ?_) fun stage staged =>
        traced (action :: stage) ((List.prefix_cons_inj action).2 staged)
      subst same
      exact act_create_tracking allowed name ▸ first

/-- What a run does under a tracker that traces all names. -/
theorem told_run_of_tracesAll (all : tree.TracesAll) (actions : List HandleAction) :
    ∀ {ownership : Ownership}, IsTold tree ownership.references ownership.tracking →
      IsTold tree (ownership.run actions).references (ownership.run actions).tracking := by
  induction actions with
  | nil => exact fun told => told
  | cons action rest ih =>
      exact fun told => ih (told_act told fun above name _ _ => told.isTraced_create all above name)

/-! ## Nested lifetimes -/

/-- The lifetimes of the entities that the events tell are nested. -/
structure Nests (ownership : Ownership) (events : List Event) : Prop where
  /-- No two entities have one identifier. -/
  distinct : ownership.tracking.identifiers.Nodup
  created_once : ∀ handle ∈ ownership.tracking.handles,
    (creations events).count (ownership.tracking.identifier handle) = 1
  ended_once : ∀ handle ∈ ownership.tracking.handles,
    (endings events).count (ownership.tracking.identifier handle) ≤ 1
  created_after_parent : ∀ handle parent, ownership.tracking.parent? handle = some parent →
    [ownership.tracking.identifier parent, ownership.tracking.identifier handle].Sublist (creations events)
  ended_after_descendants : ∀ handle ∈ ownership.tracking.handles,
    ownership.tracking.identifier handle ∈ endings events →
      ∀ descendant, ownership.tracking.Descends descendant handle →
        [ownership.tracking.identifier descendant, ownership.tracking.identifier handle].Sublist
          (endings events)
  /-- An entity has come to its end exactly when neither a handle to it nor a child that has not is left. -/
  ended_iff : ∀ identifier, identifier ∈ endings events ↔
    ∃ handle ∈ ownership.tracking.handles, ownership.tracking.identifier handle = identifier ∧
      handle ∉ ownership.references ∧
        ∀ child, ownership.tracking.parent? child = some handle →
          ownership.tracking.identifier child ∈ endings events
  lives_iff : ∀ handle, ownership.tracking.lives handle = true ↔
    handle ∈ ownership.tracking.handles ∧ ownership.tracking.identifier handle ∉ endings events

end Ownership

/-- **What a chronicle tells is nested**, when the entities that nothing keeps have gone. -/
theorem Chronicle.nests {tree : Tracker} {events : List Event} {references gone : List EntityHandle}
    {tracking : Tracking} (chronicle : Chronicle tree events references gone tracking)
    (settled : tracking.IsSettledBut gone none) : Ownership.Nests ⟨tracking, references⟩ events where
  distinct := chronicle.watches.distinct
  created_once handle known := by
    rw [chronicle.creations_eq]
    refine List.count_eq_one_of_mem chronicle.watches.distinct ?_
    rw [Tracking.identifiers_eq]
    exact List.mem_map_of_mem known
  ended_once handle known := List.nodup_iff_count_le_one.1 chronicle.endings_nodup _
  created_after_parent handle parent := chronicle.created_after_parent
  ended_after_descendants handle known ended descendant descends := by
    rw [chronicle.endings_eq]
    exact (chronicle.owned.nested_of_descends descends ((chronicle.mem_endings_iff known).1 ended)).map _
  ended_iff identifier := by
    have children (handle : EntityHandle) : (∀ child, tracking.parent? child = some handle →
        tracking.identifier child ∈ endings events) ↔
          ∀ child, tracking.parent? child = some handle → child ∈ gone :=
      forall₂_congr fun _ isParent => chronicle.mem_endings_iff (Tracking.mem_handles_of_parent? isParent)
    constructor
    · intro member
      rw [chronicle.endings_eq, List.mem_map] at member
      obtain ⟨handle, ended, rfl⟩ := member
      obtain ⟨known, unreferenced, childless⟩ := (chronicle.owned.mem_gone_iff settled).1 ended
      exact ⟨handle, known, rfl, unreferenced, (children handle).2 childless⟩
    · rintro ⟨handle, known, rfl, unreferenced, childless⟩
      exact (chronicle.mem_endings_iff known).2
        ((chronicle.owned.mem_gone_iff settled).2 ⟨known, unreferenced, (children handle).1 childless⟩)
  lives_iff handle := by
    rw [chronicle.owned.lives_iff settled]
    exact and_congr_right fun known => not_congr (chronicle.mem_endings_iff known).symm

namespace Ownership

section Runs

variable (tree : Tracker)

theorem told_start : IsTold tree (start tree).references (start tree).tracking :=
  ⟨[], [], .start, .start tree⟩

/-- **Lifetimes nest.**  Whatever is done with handles to entities, a tracker under which every entity is
traced receives events that tell nested lifetimes: each entity is created once, after its parent, and ends at
most once, after all of its descendants; and it has ended exactly when no handle to it is left and no child
that has not ended. -/
theorem run_nests (actions : List HandleAction)
    (traced : ∀ stage, stage <+: actions → ((start tree).run stage).tracking.IsTraced) :
    ∃ events, tree.Receives events ((start tree).run actions).tracking.tracker ∧
      ((start tree).run actions).Nests events := by
  obtain ⟨events, gone, chronicle, settled⟩ := told_run (told_start tree) traced
  exact ⟨events, chronicle.received, chronicle.nests settled⟩

/-- **A tracker that traces all names traces every entity at every stage of a run.** -/
theorem run_isTraced {tree : Tracker} (all : tree.TracesAll) (actions : List HandleAction) :
    ((start tree).run actions).tracking.IsTraced :=
  (told_run_of_tracesAll all actions (told_start tree)).isTraced

end Runs

/-- A cluster whose handle is dropped before those to its core, of which there are two. -/
theorem run_nests_cluster :
    (∀ stage, stage <+: [.create none "top", .create (some ⟨0⟩) "cluster", .create (some ⟨1⟩) "cpu0",
        .share ⟨2⟩, .drop ⟨1⟩, .drop ⟨2⟩, .drop ⟨2⟩, .drop ⟨0⟩] →
          ((start (.collecting 10 #[])).run stage).tracking.IsTraced) ∧
      ∃ events, (Tracker.collecting 10 #[]).Receives events ((start (.collecting 10 #[])).run
          [.create none "top", .create (some ⟨0⟩) "cluster", .create (some ⟨1⟩) "cpu0",
            .share ⟨2⟩, .drop ⟨1⟩, .drop ⟨2⟩, .drop ⟨2⟩, .drop ⟨0⟩]).tracking.tracker ∧
        ((start (.collecting 10 #[])).run
          [.create none "top", .create (some ⟨0⟩) "cluster", .create (some ⟨1⟩) "cpu0",
            .share ⟨2⟩, .drop ⟨1⟩, .drop ⟨2⟩, .drop ⟨2⟩, .drop ⟨0⟩]).Nests events := by
  have traced (stage : List HandleAction) : ((start (.collecting 10 #[])).run stage).tracking.IsTraced :=
    run_isTraced ((Tracker.IsFreshTree.collecting 10).tracesAll fun _ => rfl) stage
  exact ⟨fun stage _ => traced stage, run_nests _ _ fun stage _ => traced stage⟩

/-- What a new collecting tracker has collected tells nested lifetimes. -/
theorem run_collects (next : UInt64) (actions : List HandleAction) :
    ∃ later events,
      ((start (.collecting next #[])).run actions).tracking.tracker = .collecting later events ∧
        ((start (.collecting next #[])).run actions).Nests events.toList := by
  have all := (Tracker.IsFreshTree.collecting next).tracesAll fun _ => rfl
  obtain ⟨events, gone, chronicle, settled⟩ :=
    told_run_of_tracesAll all actions (told_start (.collecting next #[]))
  obtain ⟨later, collected⟩ := chronicle.received.collected
  refine ⟨later, events.toArray, collected.trans (by simp), ?_⟩
  exact chronicle.nests settled

/-- What a new text tracker has written that traces every name tells nested lifetimes. -/
theorem run_writes {defaultLevel : Level} {filters : List LevelFilter}
    (traces : ∀ name, firstLevel defaultLevel filters name = .trace) (actions : List HandleAction) :
    ∃ events, ((start (.ofRegistry (.empty defaultLevel filters))).run actions).tracking.tracker.lines =
        events.map Event.written ∧
      ((start (.ofRegistry (.empty defaultLevel filters))).run actions).Nests events := by
  have all := (Tracker.IsFreshTree.text defaultLevel filters).tracesAll
    fun name => decide_eq_true (levelOf_eq.trans (traces name))
  obtain ⟨events, gone, chronicle, settled⟩ :=
    told_run_of_tracesAll all actions (told_start (.ofRegistry (.empty defaultLevel filters)))
  obtain ⟨later, written⟩ := chronicle.received.written
  refine ⟨events, ?_, chronicle.nests settled⟩
  rw [written]
  simp [Tracker.lines]

end Ownership

end MemoryFabric
