import MemoryFabric.Proofs.Tracking.EnabledLines
import MemoryFabric.Proofs.Tracking.Groups

/-!
# Runs in a group

A text tracker writes in a group of trackers what it would write alone.  In a group, identifiers are given by
the outermost tracker; so a text tracker of a group is told with the outermost counter in place of its own, as
the tracker of a run without the group (`Tracking.soloists`).

A step *fans out* when the soloists after it are those before it, each after the same step of its own
(`Tracking.FansOut`).  Recording an event fans out, and so does the enrolment of an entity that is new to the
group.  Steps in a row and steps that look at the entities fan out with their parts, so that all actions do.

Main statement: **`Tracking.run_fansOut`**.
-/

namespace MemoryFabric

set_option autoImplicit false

namespace Tracking

/-! ## Soloists -/

/-- The text trackers of a group, each as the tracker of a run of its own that has come as far. -/
def soloists (group : Tracking) : List Tracking :=
  group.tracker.textTrackers.map fun single => ⟨single.withNext group.tracker.next, group.entities⟩

/-- No identifier that is still to be given is known to a text tracker of the group. -/
def IsReady (group : Tracking) : Prop := group.tracker.IsOpenFrom group.tracker.next.toNat

/-- The entities without their tracker, under which all identifiers and names are the same. -/
def untracked (tracking : Tracking) : Tracking := ⟨.silent, tracking.entities⟩

/-- Give an identifier to a new entity and register it. -/
def enrol (name : String) (tracking : Tracking) : Except Fault UInt64 × Tracking :=
  match tracking.tracker.freshIdentifier with
  | .error fault => (.error fault, tracking)
  | .ok (identifier, tracker) =>
    match tracker.register identifier name with
    | (some fault, tracker) => (.error fault, { tracking with tracker })
    | (none, tracker) => (.ok identifier, { tracking with tracker })

section Enrolment

variable {tracking : Tracking} {name : String}

theorem enrol_of_silent (silent : tracking.tracker = .silent) : tracking.enrol name = (.ok 0, tracking) := by
  obtain ⟨tracker, entities⟩ := tracking
  cases silent
  rfl

theorem enrol_of_full {fault : Fault} (counts : tracking.tracker ≠ .silent)
    (full : Word.add tracking.tracker.next 1 = .error fault) :
    tracking.enrol name = (.error fault, tracking) := by
  rw [enrol, Tracker.freshIdentifier_eq counts, full]
  rfl

/-- An enrolment gives the next identifier. -/
theorem enrol_of_added {after : UInt64} (counts : tracking.tracker ≠ .silent) (ready : tracking.IsReady)
    (added : Word.add tracking.tracker.next 1 = .ok after) :
    tracking.enrol name = (.ok tracking.tracker.next,
      ⟨(tracking.tracker.register tracking.tracker.next name).2.withNext after, tracking.entities⟩) := by
  have accepted := (Tracker.register_of_isOpenFrom name (Nat.le_refl _) tracking.tracker ready).1
  have registered := @Tracker.register_withNext tracking.tracker.next name tracking.tracker after
  rw [accepted] at registered
  rw [enrol, Tracker.freshIdentifier_eq counts, added]
  simp only [Except.map, registered]

end Enrolment

section Soloists

variable {group solo : Tracking}

/-- A soloist has come as far as its group. -/
theorem soloist_of_mem (ready : group.IsReady) (member : solo ∈ group.soloists) :
    solo.tracker ≠ .silent ∧ solo.tracker.next = group.tracker.next ∧ solo.IsReady := by
  obtain ⟨single, inside, rfl⟩ := List.mem_map.1 member
  obtain ⟨registry, lines, rfl⟩ := Tracker.exists_text_of_mem _ inside
  have opened := Tracker.isOpenFrom_of_mem group.tracker ready inside
  exact ⟨nofun, rfl, opened⟩

theorem soloists_of_silent (silent : group.tracker = .silent) : group.soloists = [] := by
  rw [soloists, silent]
  rfl

theorem untracked_of_mem (member : solo ∈ group.soloists) : solo.untracked = group.untracked := by
  obtain ⟨single, _, rfl⟩ := List.mem_map.1 member
  rfl

theorem soloists_start {tree : Tracker} (fresh : tree.IsFreshTree) :
    (start tree).soloists = tree.textTrackers.map start := by
  refine List.map_congr_left fun single member => ?_
  have next_eq : (start tree).tracker.next = single.next := fresh.next_eq member
  rw [next_eq, Tracker.withNext_next]
  rfl

theorem lines_soloists :
    group.soloists.map (fun solo => solo.tracker.lines) = group.tracker.textTrackers.map Tracker.lines := by
  rw [soloists, List.map_map]
  exact List.map_congr_left fun single _ => Tracker.lines_withNext

/-- An enrolment leaves group and soloists as they are, or gives all of them the next identifier. -/
theorem enrol_cases (ready : group.IsReady) (name : String) :
    (∃ answer, group.enrol name = (answer, group) ∧
        ∀ solo ∈ group.soloists, solo.enrol name = (answer, solo)) ∨
      ∃ after : UInt64, group.tracker ≠ .silent ∧ group.tracker.next.toNat + 1 = after.toNat ∧
        group.enrol name = (.ok group.tracker.next,
          ⟨(group.tracker.register group.tracker.next name).2.withNext after, group.entities⟩) ∧
        ∀ solo ∈ group.soloists, solo.enrol name = (.ok group.tracker.next,
          ⟨(solo.tracker.register group.tracker.next name).2.withNext after, solo.entities⟩) := by
  by_cases counts : group.tracker = .silent
  -- A silent tracker gives an identifier without counting, but it has no text trackers either.
  · refine .inl ⟨_, enrol_of_silent counts, fun solo member => ?_⟩
    rw [soloists_of_silent counts] at member
    cases member
  cases added : Word.add group.tracker.next 1 with
  | error fault =>
      refine .inl ⟨_, enrol_of_full counts added, fun solo member => ?_⟩
      obtain ⟨solo_counts, next_eq, _⟩ := soloist_of_mem ready member
      exact enrol_of_full solo_counts (next_eq ▸ added)
  | ok after =>
      refine .inr ⟨after, counts, Word.add_eq_ok_iff.1 added, enrol_of_added counts ready added,
        fun solo member => ?_⟩
      obtain ⟨solo_counts, next_eq, solo_ready⟩ := soloist_of_mem ready member
      rw [enrol_of_added solo_counts solo_ready (next_eq ▸ added), next_eq]

end Soloists

/-! ## Steps that fan out -/

/-- A step, with an answer, that every text tracker of a group takes as it would on its own. -/
structure FansOut {α : Type} (step : Tracking → α × Tracking) : Prop where
  isReady : ∀ {group : Tracking}, group.IsReady → (step group).2.IsReady
  soloists_eq : ∀ {group : Tracking}, group.IsReady →
    (step group).2.soloists = group.soloists.map fun solo => (step solo).2
  answer_eq : ∀ {group : Tracking}, group.IsReady → ∀ solo ∈ group.soloists,
    (step solo).1 = (step group).1

namespace FansOut

variable {α β : Type}

/-- To answer without a step. -/
theorem answer (value : α) : FansOut fun tracking => (value, tracking) where
  isReady ready := ready
  soloists_eq _ := (List.map_id' _).symm
  answer_eq _ _ _ := rfl

/-- One step after another that may depend on its answer. -/
theorem bind {step : Tracking → α × Tracking} {rest : α → Tracking → β × Tracking} (first : FansOut step)
    (others : ∀ value, FansOut (rest value)) :
    FansOut fun tracking => rest (step tracking).1 (step tracking).2 where
  isReady ready := (others _).isReady (first.isReady ready)
  soloists_eq := by
    intro group ready
    rw [(others _).soloists_eq (first.isReady ready), first.soloists_eq ready, List.map_map]
    refine List.map_congr_left fun solo member => ?_
    rw [Function.comp_apply, first.answer_eq ready solo member]
  answer_eq := by
    intro group ready solo member
    have after : (step solo).2 ∈ (step group).2.soloists := by
      rw [first.soloists_eq ready]
      exact List.mem_map_of_mem member
    rw [first.answer_eq ready solo member]
    exact (others _).answer_eq (first.isReady ready) _ after

/-- A step that may depend on the entities. -/
theorem reading {step : Tracking → Tracking → α × Tracking} (steps : ∀ view, FansOut (step view)) :
    FansOut fun tracking => step tracking.untracked tracking where
  isReady ready := (steps _).isReady ready
  soloists_eq := by
    intro group ready
    rw [(steps _).soloists_eq ready]
    exact List.map_congr_left fun solo member => by rw [untracked_of_mem member]
  answer_eq := by
    intro group ready solo member
    rw [untracked_of_mem member]
    exact (steps _).answer_eq ready solo member

/-- A change of the entities. -/
theorem changing (value : α) (change : Array Entity → Array Entity) :
    FansOut fun tracking => (value, ⟨tracking.tracker, change tracking.entities⟩) where
  isReady ready := ready
  soloists_eq := by
    intro group _
    rw [soloists, soloists, List.map_map]
    rfl
  answer_eq _ _ _ := rfl

/-- **An event reaches every text tracker of a group as it does on its own.** -/
theorem observe (value : α) (event : Event) : FansOut fun tracking => (value, tracking.observe event) where
  isReady := by
    intro group ready
    rw [IsReady, Tracking.observe, Tracker.next_observe, Tracker.observe_isOpenFrom]
    exact ready
  soloists_eq := by
    intro group _
    rw [soloists, soloists, List.map_map]
    simp only [Tracking.observe, Tracker.textTrackers_observe, Tracker.next_observe, List.map_map]
    exact List.map_congr_left fun single _ => by
      rw [Function.comp_apply, Function.comp_apply, Tracker.observe_withNext]
  answer_eq _ _ _ := rfl

/-- **A new entity is enrolled with every text tracker of a group as it is on its own.** -/
theorem enrol (name : String) : FansOut (Tracking.enrol name) where
  isReady := by
    intro group ready
    rcases enrol_cases ready name with ⟨_, stays, _⟩ | ⟨after, counts, after_toNat, given, _⟩
    · rwa [stays]
    · rw [given, IsReady, Tracker.isOpenFrom_withNext,
        Tracker.next_withNext (Tracker.register_ne_silent counts), ← after_toNat]
      exact (Tracker.register_of_isOpenFrom name (Nat.le_refl _) group.tracker ready).2
  soloists_eq := by
    intro group ready
    rcases enrol_cases ready name with ⟨_, stays, alone⟩ | ⟨after, counts, _, given, alone⟩
    · have same : ∀ solo ∈ group.soloists, (solo.enrol name).2 = solo := fun solo member => by
        rw [alone solo member]
      rw [stays, List.map_congr_left same, List.map_id']
    · have joined : ∀ solo ∈ group.soloists, (solo.enrol name).2 =
          ⟨(solo.tracker.register group.tracker.next name).2.withNext after, solo.entities⟩ :=
        fun solo member => by rw [alone solo member]
      have registered := congrArg (List.map fun tracker => Tracking.mk tracker group.entities)
        (@Tracker.map_withNext_register _ _ name _ (Nat.le_refl _) ready group.tracker.next after)
      rw [List.map_map, List.map_map] at registered
      rw [given, List.map_congr_left joined, soloists,
        Tracker.next_withNext (Tracker.register_ne_silent counts), soloists, List.map_map]
      exact registered
  answer_eq := by
    intro group ready solo member
    rcases enrol_cases ready name with ⟨_, stays, alone⟩ | ⟨_, _, _, given, alone⟩
    · rw [stays, alone solo member]
    · rw [given, alone solo member]

/-! ## Actions -/

/-- A change of one entity. -/
theorem modify (value : α) (handle : EntityHandle) (change : Entity → Entity) :
    FansOut fun tracking => (value, tracking.modify handle change) :=
  changing value fun entities => entities.modify handle.index change

/-- What a creation does after the enrolment. -/
def welcome (parent : Option EntityHandle) (name fullName : String) :
    Except Fault UInt64 → Tracking → Except Fault EntityHandle × Tracking
  | .error fault, tracking => (.error fault, tracking)
  | .ok identifier, tracking =>
    let joined := tracking.join tracking.tracker identifier parent name fullName
    (.ok ⟨tracking.entities.size⟩,
      joined.observe (.created (joined.parentIdentifier parent) identifier fullName))

theorem create_eq_welcome {tracking : Tracking} {parent : Option EntityHandle} {name : String} :
    tracking.create parent name =
      welcome parent name (tracking.childName parent name)
        (tracking.enrol (tracking.childName parent name)).1
        (tracking.enrol (tracking.childName parent name)).2 := by
  rw [Tracking.create, Tracking.enrol]
  cases tracking.tracker.freshIdentifier with
  | error fault => rfl
  | ok given =>
      obtain ⟨identifier, tracker⟩ := given
      dsimp only
      rcases tracker.register identifier (tracking.childName parent name) with ⟨_ | fault, registered⟩ <;> rfl

theorem childName_untracked {tracking : Tracking} {parent : Option EntityHandle} {name : String} :
    tracking.untracked.childName parent name = tracking.childName parent name := by
  cases parent <;> rfl

theorem parentIdentifier_untracked {tracking : Tracking} {parent : Option EntityHandle} :
    tracking.untracked.parentIdentifier parent = tracking.parentIdentifier parent := by
  cases parent <;> rfl

theorem join_eq {tracking : Tracking} {identifier : UInt64} {parent : Option EntityHandle}
    {name fullName : String} :
    tracking.join tracking.tracker identifier parent name fullName = ⟨tracking.tracker,
      (join ⟨.silent, tracking.entities⟩ .silent identifier parent name fullName).entities⟩ := by
  cases parent <;> rfl

/-- An event that may depend on the entities. -/
theorem observing (value : α) {event : Tracking → Event}
    (same : ∀ tracking : Tracking, event tracking.untracked = event tracking) :
    FansOut fun tracking => (value, tracking.observe (event tracking)) := by
  simpa only [same] using reading fun view => observe value (event view)

theorem welcomes (parent : Option EntityHandle) (name fullName : String) (answer : Except Fault UInt64) :
    FansOut (welcome parent name fullName answer) := by
  cases answer with
  | error fault => exact FansOut.answer _
  | ok identifier =>
      have joins : FansOut fun tracking => ((.ok ⟨tracking.entities.size⟩ : Except Fault EntityHandle),
          tracking.join tracking.tracker identifier parent name fullName) := by
        simp only [join_eq]
        exact reading fun view => changing (.ok ⟨view.entities.size⟩ : Except Fault EntityHandle)
          fun entities => (join ⟨.silent, entities⟩ .silent identifier parent name fullName).entities
      have records : ∀ handle : Except Fault EntityHandle, FansOut fun tracking =>
          (handle, tracking.observe (.created (tracking.parentIdentifier parent) identifier fullName)) :=
        fun handle => observing handle fun _ => by rw [parentIdentifier_untracked]
      exact bind joins records

theorem create (parent : Option EntityHandle) (name : String) :
    FansOut fun tracking => tracking.create parent name := by
  have steps := reading fun view => bind (enrol (view.childName parent name))
    (welcomes parent name (view.childName parent name))
  simpa only [childName_untracked, ← create_eq_welcome] using steps

/-- What becomes of an entity that may have ended. -/
def burial (index : Nat) : Option Entity → Tracking → Tracking
  | none, tracking => tracking
  | some entity, tracking =>
    if entity.isAlive then tracking
    else
      let tracking :=
        tracking.observe (.destroyed (tracking.parentIdentifier entity.parent) entity.identifier)
      match entity.parent with
      | none => tracking
      | some parent =>
        let tracking :=
          tracking.modify parent fun entity => { entity with children := entity.children - 1 }
        if parent.index < index then Tracking.buryAt parent.index tracking else tracking

theorem buryAt_eq_burial {index : Nat} {tracking : Tracking} :
    tracking.buryAt index = burial index (tracking.get? ⟨index⟩) tracking := by
  rw [Tracking.buryAt]
  cases tracking.get? ⟨index⟩ <;> rfl

theorem burials (value : α) {index : Nat}
    (earlier : ∀ before < index, FansOut fun tracking => (value, tracking.buryAt before))
    (entity? : Option Entity) : FansOut fun tracking => (value, burial index entity? tracking) := by
  rcases entity? with _ | entity
  · exact answer value
  cases alive : entity.isAlive with
  | true =>
      simp only [burial, alive, if_true]
      exact answer value
  | false =>
      have records : FansOut fun tracking => ((), tracking.observe
          (.destroyed (tracking.parentIdentifier entity.parent) entity.identifier)) :=
        observing () fun _ => by rw [parentIdentifier_untracked]
      simp only [burial, alive, Bool.false_eq_true, if_false]
      cases isParent : entity.parent with
      | none => exact observing value fun _ => rfl
      | some parent =>
          have ancestors : FansOut fun tracking =>
              (value, if parent.index < index then tracking.buryAt parent.index else tracking) := by
            by_cases before : parent.index < index
            · simpa only [if_pos before] using earlier parent.index before
            · simpa only [if_neg before] using answer value
          rw [isParent] at records
          exact bind (bind records fun _ => modify () parent fun entity =>
            { entity with children := entity.children - 1 }) fun _ => ancestors

/-- **The ends of an entity and of its ancestors fan out**, by induction on the place of the entity. -/
theorem buryAt (value : α) (index : Nat) : FansOut fun tracking => (value, tracking.buryAt index) := by
  induction index using Nat.strongRecOn with
  | _ index ih =>
      simp only [buryAt_eq_burial]
      exact reading fun view => burials value ih (view.get? ⟨index⟩)

theorem release (value : α) (handle : EntityHandle) :
    FansOut fun tracking => (value, tracking.release handle) := by
  have steps : ∀ isHeld : Bool, FansOut fun tracking => (value, if isHeld then
      (tracking.modify handle fun entity => { entity with isHeld := false }).buryAt handle.index
        else tracking) := by
    intro isHeld
    cases isHeld with
    | true => exact bind (modify () handle _) fun _ => buryAt value handle.index
    | false => exact answer value
  exact reading fun view => steps ((view.get? handle).any Entity.isHeld)

/-- The fault that an action ends in. -/
def faultOf : Except Fault EntityHandle → Option Fault
  | .ok _ => none
  | .error fault => some fault

theorem act_create {tracking : Tracking} {parent : Option EntityHandle} {name : String} :
    tracking.act (.create parent name) =
      (faultOf (tracking.create parent name).1, (tracking.create parent name).2) := by
  rw [Tracking.act]
  rcases tracking.create parent name with ⟨_ | _, after⟩ <;> rfl

/-- **Every action fans out.** -/
theorem act (action : EntityAction) : FansOut fun tracking => tracking.act action := by
  cases action with
  | create parent name =>
      simp only [act_create]
      exact bind (create parent name) fun outcome => answer (faultOf outcome)
  | log handle level text => exact observing none fun _ => rfl
  | connect source target => exact observing none fun _ => rfl
  | release handle => exact release none handle

/-- **Every run fans out**, by induction on its actions. -/
theorem run (actions : List EntityAction) : FansOut fun tracking => tracking.run actions := by
  induction actions with
  | nil => exact answer []
  | cons action rest ih =>
      have later : ∀ fault? : Option Fault, FansOut fun tracking =>
          (fault?.toList ++ (tracking.run rest).1, (tracking.run rest).2) := fun fault? =>
        bind ih fun faults => answer (fault?.toList ++ faults)
      exact bind (act action) later

end FansOut

/-- **A group makes no difference to the text trackers in it.**  Whatever is done with entities under a tree
of new trackers, each text tracker of the tree writes what it would write as the only tracker.  The entities
have the same names and identifiers, and the same faults occur. -/
theorem run_fansOut {tree : Tracker} (fresh : tree.IsFreshTree) (actions : List EntityAction) :
    let group := (start tree).run actions
    group.2.tracker.textTrackers.map Tracker.lines =
        tree.textTrackers.map (fun single => ((start single).run actions).2.tracker.lines) ∧
      ∀ single ∈ tree.textTrackers,
        ((start single).run actions).1 = group.1 ∧
          ((start single).run actions).2.entities = group.2.entities := by
  have fansOut := FansOut.run actions
  have ready : (start tree).IsReady := fresh.isOpenFrom
  have alone := soloists_start fresh
  refine ⟨?_, fun single member => ⟨?_, ?_⟩⟩
  · rw [← lines_soloists, fansOut.soloists_eq ready, alone, List.map_map, List.map_map]
    rfl
  · refine fansOut.answer_eq ready _ ?_
    rw [alone]
    exact List.mem_map_of_mem member
  · have last : ((start single).run actions).2 ∈ ((start tree).run actions).2.soloists := by
      rw [fansOut.soloists_eq ready, alone, List.map_map]
      exact List.mem_map_of_mem member
    exact (Tracking.mk.inj (untracked_of_mem last)).2

/-- A quiet tracker beside a group of a verbose one and one with a filter. -/
def mixedLevels : Tracker :=
  .several 2 [.ofRegistry (.empty .warn []),
    .several 2 [.ofRegistry (.empty .trace []),
      .ofRegistry (.empty .error [⟨fun name => name = "top::cpu", .debug⟩])]]

theorem run_fansOut_mixedLevels :
    ((start mixedLevels).run [.create none "top", .create (some ⟨0⟩) "cpu", .log ⟨1⟩ .debug "busy",
        .log ⟨0⟩ .warn "hot", .connect ⟨0⟩ ⟨1⟩, .release ⟨1⟩]).2.tracker.textTrackers.map Tracker.lines =
      [["2:WARN: hot"],
        ["0: created 2, top", "2: created 3, top::cpu", "3:DEBUG: busy", "2:WARN: hot", "2: connect to 3",
          "2: destroyed 3"],
        ["3:DEBUG: busy"]] := by
  have inner := List.forall_mem_cons.2 ⟨Tracker.IsFreshTree.text .trace [], List.forall_mem_singleton.2
    (Tracker.IsFreshTree.text .error [⟨fun name => name = "top::cpu", .debug⟩])⟩
  have fresh : mixedLevels.IsFreshTree :=
    .several (List.forall_mem_cons.2 ⟨.text .warn [], List.forall_mem_singleton.2 (.several inner)⟩)
  obtain ⟨lines_eq, _⟩ := run_fansOut fresh [.create none "top", .create (some ⟨0⟩) "cpu",
    .log ⟨1⟩ .debug "busy", .log ⟨0⟩ .warn "hot", .connect ⟨0⟩ ⟨1⟩, .release ⟨1⟩]
  exact lines_eq.trans (by decide +kernel)

end Tracking

end MemoryFabric
