import MemoryFabric.Proofs.Tracking.Family

/-!
# The lines of a text tracker

A text tracker writes exactly the lines about what is enabled.  Entities under it follow a family action by
action (`Tracking.Mirrors`): they have the identifiers 2, 3 and so on, they count their living children, and
the tracker has written the lines about the occurrences that are enabled for the entities that act.

Main statement: **`Tracking.run_writes_enabled`**.
-/

namespace MemoryFabric

set_option autoImplicit false

namespace Tracking

/-! ## Runs -/

/-- Do an action; the creation of an entity may end in a fault. -/
def act (tracking : Tracking) : EntityAction → Option Fault × Tracking
  | .create parent name =>
    match tracking.create parent name with
    | (.ok _, tracking) => (none, tracking)
    | (.error fault, tracking) => (some fault, tracking)
  | .log entity level text => (none, tracking.log entity level text)
  | .connect source target => (none, tracking.connect source target)
  | .release entity => (none, tracking.release entity)

/-- Do actions one after another, whatever faults there are. -/
def run (tracking : Tracking) : List EntityAction → List Fault × Tracking
  | [] => ([], tracking)
  | action :: rest =>
    let (fault?, next) := tracking.act action
    let (faults, last) := next.run rest
    (fault?.toList ++ faults, last)

/-! ## Entities that follow a family -/

/-- Change an entity, if there is one at all. -/
def modifyAny (tracking : Tracking) (handle? : Option EntityHandle) (change : Entity → Entity) : Tracking :=
  match handle? with
  | some handle => tracking.modify handle change
  | none => tracking

variable {tracking : Tracking} {family : Family} {handle other : EntityHandle} {member : Relative}
  {entity : Entity}

theorem get?_modify {change : Entity → Entity} :
    (tracking.modify handle change).get? other =
      if handle = other then (tracking.get? other).map change else tracking.get? other := by
  rw [get?, modify, Array.getElem?_modify, get?]
  simp only [Family.index_inj]

theorem get?_modifyAny {handle? : Option EntityHandle} {change : Entity → Entity} :
    (tracking.modifyAny handle? change).get? other =
      if handle? = some other then (tracking.get? other).map change else tracking.get? other := by
  cases handle? with
  | none => rfl
  | some handle =>
      rw [modifyAny, get?_modify]
      simp only [Option.some.injEq]

theorem modifyAny_tracker {handle? : Option EntityHandle} {change : Entity → Entity} :
    (tracking.modifyAny handle? change).tracker = tracking.tracker := by
  cases handle? <;> rfl

theorem size_modify {change : Entity → Entity} :
    (tracking.modify handle change).entities.size = tracking.entities.size := Array.size_modify

theorem size_modifyAny {handle? : Option EntityHandle} {change : Entity → Entity} :
    (tracking.modifyAny handle? change).entities.size = tracking.entities.size := by
  cases handle? with
  | none => rfl
  | some handle => exact size_modify

theorem countChild_eq {parent : Option EntityHandle} : tracking.countChild parent =
    tracking.modifyAny parent fun entity => { entity with children := entity.children + 1 } := by
  cases parent <;> rfl

/-- The number of living children is one less, if there is a parent at all. -/
def discountChild (tracking : Tracking) (parent : Option EntityHandle) : Tracking :=
  tracking.modifyAny parent fun entity => { entity with children := entity.children - 1 }

theorem get?_push_of_some {tracker : Tracker} {next : Entity} (found : tracking.get? handle = some entity) :
    (Tracking.mk tracker (tracking.entities.push next)).get? handle = some entity := by
  obtain ⟨inside, _⟩ := Array.getElem?_eq_some_iff.1 found
  rw [get?, Array.getElem?_push, if_neg (by omega)]
  exact found

/-- The entities with one more, held by its owner and counted by its parent. -/
def join (tracking : Tracking) (registered : Tracker) (identifier : UInt64)
    (parent : Option EntityHandle) (name fullName : String) : Tracking :=
  countChild ⟨registered, tracking.entities.push ⟨name, fullName, parent, identifier, true, 0⟩⟩ parent

/-- A creation registers an entity, adds it and records that. -/
theorem create_eq {parent : Option EntityHandle} {name : String} {identifier : UInt64}
    {given registered : Tracker} (given_eq : tracking.tracker.freshIdentifier = .ok (identifier, given))
    (registered_eq : given.register identifier (tracking.childName parent name) = (none, registered)) :
    tracking.create parent name = (.ok ⟨tracking.entities.size⟩,
      (tracking.join registered identifier parent name (tracking.childName parent name)).observe
        (.created ((tracking.join registered identifier parent name
          (tracking.childName parent name)).parentIdentifier parent) identifier
          (tracking.childName parent name))) := by
  rw [create, given_eq]
  dsimp only
  rw [registered_eq]
  rfl

/-- The entity of a member. -/
structure Matches (family : Family) (handle : EntityHandle) (member : Relative) (entity : Entity) :
    Prop where
  fullName : entity.fullName = member.fullName
  parent : entity.parent = member.parent
  identifier : entity.identifier.toNat = handle.number
  isHeld : entity.isHeld = member.isHeld
  children : entity.children = family.livingChildren handle

theorem Matches.isAlive_eq (same : Matches family handle member entity)
    (found : family.get? handle = some member) : entity.isAlive = family.isKept handle := by
  have children : family.members.any (Relative.isLivingChildOf handle) =
      decide (0 < family.livingChildren handle) := by
    rw [Bool.eq_iff_iff, List.any_eq_true, decide_eq_true_iff, Family.livingChildren, List.countP_pos_iff]
  rw [Entity.isAlive, Family.isKept, Family.holds, found, Option.any_some, same.isHeld, same.children,
    children]

/-- The entity of a member with another number of living children. -/
theorem Matches.recount (matched : Matches family handle member entity) {next : Family} {count : Nat}
    (counted : count = next.livingChildren handle) :
    Matches next handle member { entity with children := count } :=
  ⟨matched.fullName, matched.parent, matched.identifier, matched.isHeld, counted⟩

theorem Matches.ended (matched : Matches family handle member entity) :
    Matches family handle member.ended entity :=
  ⟨matched.fullName, matched.parent, matched.identifier, matched.isHeld, matched.children⟩

theorem Matches.letGo (matched : Matches family handle member entity) :
    Matches family handle member.letGo { entity with isHeld := false } :=
  ⟨matched.fullName, matched.parent, matched.identifier, rfl, matched.children⟩

/-- Entities that follow a family, under a text tracker that has written the given lines. -/
structure Mirrors (defaultLevel : Level) (filters : List LevelFilter) (family : Family)
    (written : List String) (tracking : Tracking) : Prop where
  sound : family.Sound
  knows : Tracker.Knows defaultLevel filters (family.members.map Relative.fullName) written
    tracking.tracker
  size_eq : tracking.entities.size = family.members.length
  entities : ∀ handle member, family.get? handle = some member →
    ∃ entity, tracking.get? handle = some entity ∧ Matches family handle member entity

namespace Mirrors

variable {defaultLevel : Level} {filters : List LevelFilter} {written : List String}

/-- A new tracker without entities. -/
theorem start : Mirrors defaultLevel filters .empty []
    (Tracking.start (.ofRegistry (.empty defaultLevel filters))) :=
  ⟨.empty, .start, rfl, nofun⟩

variable (mirrors : Mirrors defaultLevel filters family written tracking)

include mirrors

section Member

variable (found : family.get? handle = some member)

include found

theorem identifier_eq : (tracking.identifier handle).toNat = handle.number := by
  obtain ⟨entity, entity_eq, same⟩ := mirrors.entities handle member found
  rw [identifier, entity_eq]
  exact same.identifier

theorem parentIdentifier_eq : (tracking.parentIdentifier member.parent).toNat = member.origin := by
  rw [Relative.origin]
  cases isParent : member.parent with
  | none => rfl
  | some parent =>
      obtain ⟨_, elder, elder_eq, _⟩ := mirrors.sound.lineage handle member parent found isParent
      exact mirrors.identifier_eq elder_eq

/-- What a member does is written when it is enabled. -/
theorem observe {event : Event} (actor : event.actor = tracking.identifier handle) {level : Level}
    (level_eq : event.level = level) {line : Relative → String} (line_eq : event.written = line member) :
    Mirrors defaultLevel filters family
      (written ++ enabledLines defaultLevel filters (family.about handle level line))
      (tracking.observe event) := by
  refine ⟨mirrors.sound, ?_, mirrors.size_eq, mirrors.entities⟩
  have named : (family.members.map Relative.fullName)[handle.index]? = some member.fullName := by
    rw [List.getElem?_map]
    exact congrArg (Option.map Relative.fullName) found
  have number : event.actor.toNat = handle.index + 2 := by
    rw [actor]
    exact mirrors.identifier_eq found
  have knows := mirrors.knows.observe named number
  rw [level_eq, line_eq] at knows
  rw [Family.about, found]
  exact knows

end Member

/-- What changes neither names nor number of the members needs no new knowledge. -/
theorem of_modify (change : Relative → Relative)
    (named : ∀ member, (change member).fullName = member.fullName) {next : Tracking}
    (tracker_eq : next.tracker = tracking.tracker) (size_eq : next.entities.size = tracking.entities.size)
    (sound : (family.modify handle change).Sound)
    (entities : ∀ other member, (family.modify handle change).get? other = some member →
      ∃ entity, next.get? other = some entity ∧ Matches (family.modify handle change) other member entity) :
    Mirrors defaultLevel filters (family.modify handle change) written next := by
  refine ⟨sound, ?_, ?_, entities⟩
  · rw [Family.modify, map_modify named, tracker_eq]
    exact mirrors.knows
  · rw [size_eq, mirrors.size_eq]
    exact (List.length_modify ..).symm

/-! ### Ends -/

theorem letGo : Mirrors defaultLevel filters (family.modify handle Relative.letGo) written
    (tracking.modify handle fun entity => { entity with isHeld := false }) := by
  refine mirrors.of_modify Relative.letGo (fun _ => rfl) rfl size_modify mirrors.sound.letGo
    fun other member found => ?_
  rw [Family.get?_modify] at found
  rw [get?_modify]
  split at found
  · next same =>
      obtain ⟨former, former_eq, rfl⟩ := Option.map_eq_some_iff.1 found
      obtain ⟨entity, entity_eq, matched⟩ := mirrors.entities other former former_eq
      rw [if_pos same, entity_eq]
      exact ⟨_, rfl, matched.letGo.recount (matched.children.trans Family.livingChildren_letGo.symm)⟩
  · next different =>
      obtain ⟨entity, entity_eq, matched⟩ := mirrors.entities other member found
      rw [if_neg different, entity_eq]
      exact ⟨_, rfl, matched.recount (matched.children.trans Family.livingChildren_letGo.symm)⟩

section Ending

variable (found : family.get? handle = some member) (living : member.isGone = false)

include found living

/-- An entity ends, and its parent has one living child less. -/
theorem ended (unkept : family.isKept handle = false) :
    Mirrors defaultLevel filters (family.modify handle Relative.ended) written
      (tracking.discountChild member.parent) := by
  refine mirrors.of_modify Relative.ended (fun _ => rfl) modifyAny_tracker size_modifyAny
    (mirrors.sound.ended found living unkept) fun other late late_eq => ?_
  have counted : (family.modify handle Relative.ended).livingChildren other +
      (if member.parent = some other then 1 else 0) = family.livingChildren other :=
    Family.livingChildren_ended found living
  obtain ⟨former, former_eq, late_matches⟩ : ∃ former, family.get? other = some former ∧
      ∀ {next entity}, Matches next other former entity → Matches next other late entity := by
    rw [Family.get?_modify] at late_eq
    split at late_eq
    · obtain ⟨former, former_eq, rfl⟩ := Option.map_eq_some_iff.1 late_eq
      exact ⟨former, former_eq, Matches.ended⟩
    · exact ⟨late, late_eq, id⟩
  obtain ⟨entity, entity_eq, matched⟩ := mirrors.entities other former former_eq
  have children := matched.children
  rw [discountChild, get?_modifyAny, entity_eq]
  split
  · next isParent =>
      rw [if_pos isParent] at counted
      exact ⟨_, rfl, late_matches (matched.recount (by omega))⟩
  · next elsewhere =>
      rw [if_neg elsewhere] at counted
      exact ⟨_, rfl, late_matches (matched.recount (children.trans counted.symm))⟩

/-- The end of an entity that nothing keeps is recorded. -/
theorem destroyed (unkept : family.isKept handle = false) :
    Mirrors defaultLevel filters (family.modify handle Relative.ended)
      (written ++ enabledLines defaultLevel filters (family.about handle .trace
        (Relative.destroyedLine handle)))
      ((tracking.observe (.destroyed (tracking.parentIdentifier member.parent)
        (tracking.identifier handle))).discountChild member.parent) := by
  have actor : (Event.destroyed (tracking.parentIdentifier member.parent)
    (tracking.identifier handle)).actor = tracking.identifier handle := rfl
  have line : (Event.destroyed (tracking.parentIdentifier member.parent)
      (tracking.identifier handle)).written = member.destroyedLine handle := by
    rw [Event.written, Relative.destroyedLine, mirrors.parentIdentifier_eq found, mirrors.identifier_eq found]
  exact (mirrors.observe found actor rfl line).ended found living unkept

omit living

/-- The end of an entity is recorded when nothing keeps it, and then its parent may end as well. -/
theorem buryAt_eq : buryAt handle.index tracking =
    if family.isKept handle then tracking
    else
      let next := (tracking.observe (.destroyed (tracking.parentIdentifier member.parent)
        (tracking.identifier handle))).discountChild member.parent
      match member.parent with
      | none => next
      | some parent => buryAt parent.index next := by
  obtain ⟨entity, entity_eq, matched⟩ := mirrors.entities handle member found
  have there : tracking.get? ⟨handle.index⟩ = some entity := entity_eq
  have identifier_eq : tracking.identifier handle = entity.identifier := by
    rw [identifier, entity_eq]
    rfl
  rw [buryAt, there]
  dsimp only
  rw [matched.isAlive_eq found, identifier_eq, matched.parent]
  split
  · rfl
  · cases isParent : member.parent with
    | none => rfl
    | some parent =>
        obtain ⟨earlier, _⟩ := mirrors.sound.lineage handle member parent found isParent
        exact if_pos earlier

end Ending

end Mirrors

/-- **The ends of an entity and of its ancestors are those of the family.** -/
theorem Mirrors.bury {defaultLevel : Level} {filters : List LevelFilter} {ancestors : List EntityHandle} :
    ∀ {family written tracking handle member},
      Mirrors defaultLevel filters family written tracking → family.get? handle = some member →
        member.isGone = false → member.ancestors = ancestors →
          Mirrors defaultLevel filters (family.depart (handle :: ancestors)).2
            (written ++ enabledLines defaultLevel filters (family.depart (handle :: ancestors)).1)
            (buryAt handle.index tracking) := by
  -- The induction is on the ancestors that may end with the entity, the nearest first.
  induction ancestors with
  | nil =>
      intro family written tracking handle member mirrors found living lineage
      have root : member.parent = none := congrArg List.head? lineage
      rw [mirrors.buryAt_eq found, Family.depart]
      cases kept : family.isKept handle with
      | true => simpa [enabledLines] using mirrors
      | false =>
          have destroyed := mirrors.destroyed found living kept
          rw [root] at destroyed ⊢
          simpa [Family.depart] using destroyed
  | cons parent rest ih =>
      intro family written tracking handle member mirrors found living lineage
      have isParent : member.parent = some parent := congrArg List.head? lineage
      rw [mirrors.buryAt_eq found, Family.depart]
      cases kept : family.isKept handle with
      | true => simpa [enabledLines] using mirrors
      | false =>
          have destroyed := mirrors.destroyed found living kept
          obtain ⟨earlier, elder, elder_eq, above⟩ :=
            mirrors.sound.lineage handle member parent found isParent
          have elder_living := mirrors.sound.parent_lives found living isParent elder_eq
          have still_there : (family.modify handle Relative.ended).get? parent = some elder := by
            rw [Family.get?_modify, if_neg (by rintro rfl; omega)]
            exact elder_eq
          have higher := ih destroyed still_there elder_living
            (List.cons.inj (above.symm.trans lineage)).2
          rw [isParent] at higher ⊢
          simpa [enabledLines_append] using higher

/-! ## Actions -/

namespace Mirrors

variable {defaultLevel : Level} {filters : List LevelFilter} {written : List String}
  (mirrors : Mirrors defaultLevel filters family written tracking)

include mirrors

/-- An owner lets go of an entity that it holds. -/
theorem release (held : family.holds handle = true) :
    Mirrors defaultLevel filters (family.step (.release handle)).2
      (written ++ enabledLines defaultLevel filters (family.step (.release handle)).1)
      (tracking.release handle) := by
  obtain ⟨member, found, isHeld⟩ := (Option.any_eq_true _ _).1 held
  obtain ⟨entity, entity_eq, matched⟩ := mirrors.entities handle member found
  have let_go : (family.modify handle Relative.letGo).get? handle = some member.letGo := by
    rw [Family.get?_modify, if_pos rfl, found]
    rfl
  have living : member.isGone = false := Bool.eq_false_iff.2 fun gone => by
    obtain ⟨unheld, _⟩ := Family.isKept_eq_false_iff.1 (mirrors.sound.departed handle member found gone)
    cases held.symm.trans unheld
  rw [Tracking.release, entity_eq, Option.any_some, matched.isHeld, isHeld, if_pos rfl, Family.step, found]
  exact mirrors.letGo.bury let_go living rfl

/-- Messages. -/
theorem log (lives : family.lives handle = true) (level : Level) (text : String) :
    Mirrors defaultLevel filters family
      (written ++ enabledLines defaultLevel filters (family.step (.log handle level text)).1)
      (tracking.log handle level text) := by
  obtain ⟨member, found, _⟩ := Family.exists_of_lives lives
  have actor : (Event.message (tracking.identifier handle) level text).actor =
    tracking.identifier handle := rfl
  refine mirrors.observe found actor rfl ?_
  rw [Event.written, mirrors.identifier_eq found]

/-- Connections. -/
theorem connect (lives : family.lives handle = true) (other_lives : family.lives other = true) :
    Mirrors defaultLevel filters family
      (written ++ enabledLines defaultLevel filters (family.step (.connect handle other)).1)
      (tracking.connect handle other) := by
  obtain ⟨member, found, _⟩ := Family.exists_of_lives lives
  obtain ⟨target, target_eq, _⟩ := Family.exists_of_lives other_lives
  have actor : (Event.connected (tracking.identifier handle) (tracking.identifier other)).actor =
    tracking.identifier handle := rfl
  refine mirrors.observe found actor rfl ?_
  rw [Event.written, mirrors.identifier_eq found, mirrors.identifier_eq target_eq]

/-! ### Creations -/

section Creation

variable {parent : Option EntityHandle} (allowed : parent.all family.lives = true) (name : String)

include allowed

theorem childName_eq : tracking.childName parent name = (family.newborn parent name).fullName := by
  cases parent with
  | none => exact String.intercalate_singleton.symm
  | some above =>
      obtain ⟨elder, elder_eq, _⟩ := Family.exists_of_lives allowed
      obtain ⟨entity, entity_eq, matched⟩ := mirrors.entities above elder elder_eq
      rw [childName, Tracking.fullName, entity_eq, Option.map_some, Option.getD_some, matched.fullName,
        Family.newborn, elder_eq, Option.getD_some, Relative.fullName, Relative.fullName,
        String.intercalate_append_of_ne_nil (mirrors.sound.named above elder elder_eq) (List.cons_ne_nil _ _),
        String.intercalate_singleton]

/-- A registered entity joins the others. -/
theorem joined {identifier : UInt64} {registered : Tracker}
    (identifier_eq : identifier.toNat = family.members.length + 2)
    (knows : Tracker.Knows defaultLevel filters
      (family.members.map Relative.fullName ++ [(family.newborn parent name).fullName]) written registered) :
    Mirrors defaultLevel filters (family.push (family.newborn parent name)) written
      (tracking.join registered identifier parent name (family.newborn parent name).fullName) := by
  rw [join, countChild_eq]
  refine ⟨mirrors.sound.push allowed, ?_, ?_, fun handle member found => ?_⟩
  · rw [modifyAny_tracker, Family.push, List.map_append]
    exact knows
  · rw [size_modifyAny, Array.size_push, mirrors.size_eq, Family.push, List.length_append]
    rfl
  · have children : (family.push (family.newborn parent name)).livingChildren handle =
        family.livingChildren handle + if parent = some handle then 1 else 0 := Family.livingChildren_newborn
    rw [get?_modifyAny]
    rcases Family.get?_push_cases found with before | ⟨last, rfl⟩
    · obtain ⟨entity, entity_eq, matched⟩ := mirrors.entities handle member before
      rw [get?_push_of_some entity_eq]
      split
      · next isParent =>
          rw [if_pos isParent] at children
          exact ⟨_, rfl, matched.recount ((congrArg (· + 1) matched.children).trans children.symm)⟩
      · next elsewhere =>
          rw [if_neg elsewhere] at children
          exact ⟨_, rfl, matched.recount (matched.children.trans children.symm)⟩
    · have there : (Tracking.mk registered (tracking.entities.push
          ⟨name, (family.newborn parent name).fullName, parent, identifier, true, 0⟩)).get? handle =
            some ⟨name, (family.newborn parent name).fullName, parent, identifier, true, 0⟩ := by
        rw [get?, last, ← mirrors.size_eq, Array.getElem?_push_size]
      -- The parent lives and stands before the new member.
      have elsewhere : parent ≠ some handle := by
        rintro rfl
        obtain ⟨elder, elder_eq, _⟩ := Family.exists_of_lives allowed
        obtain ⟨inside, _⟩ := List.getElem?_eq_some_iff.1 elder_eq
        omega
      rw [there, if_neg elsewhere]
      rw [if_neg elsewhere, mirrors.sound.livingChildren_eq_zero (Nat.le_of_eq last.symm)] at children
      refine ⟨_, rfl, rfl, Family.newborn_parent.symm, ?_, ?_, children.symm⟩
      · rw [EntityHandle.number, last]
        exact identifier_eq
      · cases parent <;> rfl

/-- A creation adds the member of the family, with the next identifier. -/
theorem create_of_room (room : family.isFull = false) :
    ∃ handle after, tracking.create parent name = (.ok handle, after) ∧
      Mirrors defaultLevel filters (family.step (.create parent name)).2
        (written ++ enabledLines defaultLevel filters (family.step (.create parent name)).1) after := by
  have names_length : (family.members.map Relative.fullName).length = family.members.length :=
    List.length_map _
  have fits : (family.members.map Relative.fullName).length + 3 < Word.count := by
    rw [Family.isFull, decide_eq_false_iff_not] at room
    omega
  obtain ⟨identifier, given, registered, given_eq, registered_eq, identifier_eq, knows⟩ :=
    mirrors.knows.exists_registered fits (family.newborn parent name).fullName
  rw [names_length] at identifier_eq
  have joined := mirrors.joined allowed name identifier_eq knows
  have fullName_eq := mirrors.childName_eq allowed name
  rw [← fullName_eq] at registered_eq
  have created := create_eq given_eq registered_eq
  rw [fullName_eq] at created
  have found : (family.push (family.newborn parent name)).get? ⟨family.members.length⟩ =
    some (family.newborn parent name) := List.getElem?_concat_length
  have origin := joined.parentIdentifier_eq found
  rw [Family.newborn_parent] at origin
  have number := joined.identifier_eq found
  refine ⟨_, _, created, ?_⟩
  generalize tracking.join registered identifier parent name (family.newborn parent name).fullName = next
    at joined origin number ⊢
  have actor : (Event.created (next.parentIdentifier parent) identifier
      (family.newborn parent name).fullName).actor = next.identifier ⟨family.members.length⟩ :=
    UInt64.toNat_inj.1 (identifier_eq.trans number.symm)
  have line : (Event.created (next.parentIdentifier parent) identifier
      (family.newborn parent name).fullName).written =
        (family.newborn parent name).createdLine ⟨family.members.length⟩ := by
    rw [Event.written, Relative.createdLine, origin, identifier_eq, EntityHandle.number]
  have happened := joined.observe found actor rfl line
  rw [Family.about, found] at happened
  rw [Family.step, room]
  exact happened

omit allowed in
/-- When no identifier is left a creation changes nothing. -/
theorem create_of_full (full : family.isFull = true) :
    tracking.create parent name = (.error .overflow, tracking) := by
  have used_up : Word.count ≤ (family.members.map Relative.fullName).length + 3 := by
    rw [List.length_map]
    exact of_decide_eq_true full
  rw [Tracking.create, mirrors.knows.freshIdentifier_of_full used_up]

end Creation

/-- **What one action does**: entities follow the family, and the only fault is that no identifier is left. -/
theorem act {action : EntityAction} (allowed : family.allows action = true) :
    Mirrors defaultLevel filters (family.step action).2
        (written ++ enabledLines defaultLevel filters (family.step action).1) (tracking.act action).2 ∧
      ∀ fault ∈ (tracking.act action).1, fault = .overflow ∧ family.isFull = true := by
  cases action with
  | create parent name =>
      cases room : family.isFull with
      | true =>
          rw [Tracking.act, mirrors.create_of_full name room, Family.step, room]
          refine ⟨?_, fun fault member => ⟨(Option.some.inj member).symm, rfl⟩⟩
          simpa [enabledLines] using mirrors
      | false =>
          obtain ⟨handle, after, created, follows⟩ := mirrors.create_of_room allowed name room
          rw [Tracking.act, created]
          exact ⟨follows, by simp⟩
  | log entity level text => exact ⟨mirrors.log allowed level text, by simp [Tracking.act]⟩
  | connect source target =>
      obtain ⟨lives, other_lives⟩ := Bool.and_eq_true_iff.1 allowed
      exact ⟨mirrors.connect lives other_lives, by simp [Tracking.act]⟩
  | release entity => exact ⟨mirrors.release allowed, by simp [Tracking.act]⟩

omit mirrors in
/-- **What a run does**, by induction on its actions. -/
theorem run {actions : List EntityAction} :
    ∀ {family written tracking}, Mirrors defaultLevel filters family written tracking →
      family.allowsAll actions = true →
        Mirrors defaultLevel filters (family.run actions).2
            (written ++ enabledLines defaultLevel filters (family.run actions).1)
            (tracking.run actions).2 ∧
          ∀ fault ∈ (tracking.run actions).1, fault = .overflow ∧ (family.run actions).2.isFull = true := by
  induction actions with
  | nil =>
      intro family written tracking mirrors _
      refine ⟨?_, nofun⟩
      simpa [Family.run, Tracking.run, enabledLines] using mirrors
  | cons action rest ih =>
      intro family written tracking mirrors allowed
      obtain ⟨now, later⟩ := Bool.and_eq_true_iff.1 allowed
      obtain ⟨next, faults⟩ := mirrors.act now
      obtain ⟨last, later_faults⟩ := ih next later
      refine ⟨?_, fun fault member => ?_⟩
      · rw [List.append_assoc, ← enabledLines_append] at last
        exact last
      · rcases List.mem_append.1 member with here | there
        · obtain ⟨overflow, full⟩ := faults fault (Option.mem_toList.1 here)
          exact ⟨overflow, @Family.isFull_run family (action :: rest) full⟩
        · exact later_faults fault there

/-- The identifiers and the full names of the entities. -/
theorem entities_eq : tracking.entities.toList.map (fun entity => (entity.identifier.toNat, entity.fullName)) =
    family.members.mapIdx fun position member => (position + 2, member.fullName) := by
  refine List.ext_getElem? fun position => ?_
  rw [List.getElem?_map, List.getElem?_mapIdx, Array.getElem?_toList]
  cases found : family.members[position]? with
  | none =>
      have outside : tracking.entities[position]? = none := by
        have size_eq := mirrors.size_eq
        have beyond := List.getElem?_eq_none_iff.1 found
        exact Array.getElem?_eq_none (by omega)
      rw [outside]
      rfl
  | some member =>
      obtain ⟨entity, entity_eq, matched⟩ := mirrors.entities ⟨position⟩ member found
      have there : tracking.entities[position]? = some entity := entity_eq
      have identifier_eq : entity.identifier.toNat = position + 2 := matched.identifier
      rw [there, Option.map_some, Option.map_some, identifier_eq, matched.fullName]

end Mirrors

/-- **A text tracker writes what is enabled.**  Whatever is done with entities under a new text tracker, its
lines are those about the occurrences that are enabled for the entities that act, in their order.  The
identifiers are 2, 3 and so on in the order of creation.  No identifier is seen twice: the only fault is that
none is left, after all have been given. -/
theorem run_writes_enabled (defaultLevel : Level) (filters : List LevelFilter)
    {actions : List EntityAction} (allowed : Family.empty.allowsAll actions = true) :
    let outcome := (start (.ofRegistry (.empty defaultLevel filters))).run actions
    let history := Family.empty.run actions
    outcome.2.tracker.lines = enabledLines defaultLevel filters history.1 ∧
      outcome.2.entities.toList.map (fun entity => (entity.identifier.toNat, entity.fullName)) =
        history.2.members.mapIdx (fun position member => (position + 2, member.fullName)) ∧
      ∀ fault ∈ outcome.1, fault = .overflow ∧ history.2.isFull = true := by
  obtain ⟨mirrors, faults⟩ := Mirrors.start.run allowed
  exact ⟨mirrors.knows.lines_eq, mirrors.entities_eq, faults⟩

/-- An entity that a filter selects below one at the default level, which it keeps alive. -/
theorem run_writes_enabled_filtered :
    ((start (.ofRegistry (.empty .warn [⟨fun name => name = "top::cpu", .trace⟩]))).run
      [.create none "top", .create (some ⟨0⟩) "cpu", .log ⟨0⟩ .debug "quiet", .release ⟨0⟩,
        .log ⟨1⟩ .debug "loud", .connect ⟨1⟩ ⟨0⟩, .log ⟨0⟩ .error "late", .release ⟨1⟩]).2.tracker.lines =
      ["2: created 3, top::cpu", "3:DEBUG: loud", "3: connect to 2", "2:ERROR: late", "2: destroyed 3"] := by
  obtain ⟨lines_eq, _⟩ := run_writes_enabled .warn [⟨fun name => name = "top::cpu", .trace⟩]
    (show Family.empty.allowsAll [.create none "top", .create (some ⟨0⟩) "cpu", .log ⟨0⟩ .debug "quiet",
      .release ⟨0⟩, .log ⟨1⟩ .debug "loud", .connect ⟨1⟩ ⟨0⟩, .log ⟨0⟩ .error "late", .release ⟨1⟩] = true
      by decide +kernel)
  exact lines_eq.trans (by decide +kernel)

end Tracking

end MemoryFabric
