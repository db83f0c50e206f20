import MemoryFabric.Proofs.Tracking.Ownership
import MemoryFabric.Proofs.Tracking.Traced

/-!
# Chronicles of entities

Under a tracker that traces every entity, the events tell all that becomes of the entities (`Chronicle`): the
creations are those of the entities in their order, and the ends are those of the entities that have gone in
the order in which they have.  An event of another kind, a new or a last handle, an end and a creation each
continue a chronicle.  An entity that nothing keeps goes together with all of its ancestors that nothing else
keeps (**`IsTold.bury`**), so that afterwards everything that has to go has gone (`IsTold`).
-/

namespace MemoryFabric

set_option autoImplicit false

/-! ## Creations and ends among events -/

namespace Event

/-- The identifier of the entity that is created. -/
def creation? : Event → Option UInt64
  | .created _ identifier _ => some identifier
  | _ => none

/-- The identifier of the entity that comes to its end. -/
def ending? : Event → Option UInt64
  | .destroyed _ identifier => some identifier
  | _ => none

end Event

/-- The identifiers of the entities that are created, in the order of the events. -/
def creations (events : List Event) : List UInt64 := events.filterMap Event.creation?

/-- The identifiers of the entities that come to their ends, in the order of the events. -/
def endings (events : List Event) : List UInt64 := events.filterMap Event.ending?

theorem creations_append {first second : List Event} :
    creations (first ++ second) = creations first ++ creations second := List.filterMap_append

theorem endings_append {first second : List Event} :
    endings (first ++ second) = endings first ++ endings second := List.filterMap_append

namespace Tracking

variable {tracking : Tracking} {handle : EntityHandle} {entity : Entity}

/-- The identifiers of the entities, in the order of creation. -/
def identifiers (tracking : Tracking) : List UInt64 := tracking.entities.toList.map Entity.identifier

theorem identifiers_eq : tracking.identifiers = tracking.handles.map tracking.identifier := by
  refine List.ext_getElem? fun position => ?_
  rw [identifiers, handles, List.map_map, List.getElem?_map, List.getElem?_map, Array.getElem?_toList]
  by_cases inside : position < tracking.entities.size
  · simp [identifier, get?, inside]
  · rw [Array.getElem?_eq_none (Nat.le_of_not_lt inside),
      List.getElem?_eq_none (by rw [List.length_range]; exact Nat.le_of_not_lt inside)]
    rfl

theorem identifier_eq_of_get? (found : tracking.get? handle = some entity) :
    tracking.identifier handle = entity.identifier := by
  rw [identifier, found]
  rfl

theorem identifier_mem (found : tracking.get? handle = some entity) :
    entity.identifier ∈ tracking.identifiers := by
  rw [identifiers_eq, ← identifier_eq_of_get? found]
  exact List.mem_map_of_mem (mem_handles_iff.2 ⟨entity, found⟩)

/-- Every entity is enabled at the most detailed level. -/
def IsTraced (tracking : Tracking) : Prop :=
  ∀ identifier ∈ tracking.identifiers, tracking.tracker.isEnabled identifier .trace = true

section Changes

variable {change : Entity → Entity} (kept : ∀ entity, (change entity).identifier = entity.identifier)

include kept

theorem identifiers_modifyAny {handle? : Option EntityHandle} :
    (tracking.modifyAny handle? change).identifiers = tracking.identifiers := by
  cases handle? with
  | none => rfl
  | some handle =>
      rw [identifiers, modifyAny, modify, Array.toList_modify]
      exact map_modify kept

theorem identifier_modifyAny {handle? : Option EntityHandle} :
    (tracking.modifyAny handle? change).identifier handle = tracking.identifier handle := by
  rw [identifier, get?_modifyAny, identifier]
  split
  · rw [Option.map_map]
    exact congrArg (Option.getD · 0) (congrArg (Option.map · _) (funext kept))
  · rfl

end Changes

section Discounts

variable {above : Option EntityHandle}

theorem discountChild_tracker : (tracking.discountChild above).tracker = tracking.tracker :=
  modifyAny_tracker

theorem identifiers_discountChild : (tracking.discountChild above).identifiers = tracking.identifiers := by
  rw [discountChild, identifiers_modifyAny]
  exact fun _ => rfl

theorem identifier_discountChild :
    (tracking.discountChild above).identifier handle = tracking.identifier handle := by
  rw [discountChild, identifier_modifyAny]
  exact fun _ => rfl

end Discounts

theorem identifiers_join {registered : Tracker} {identifier : UInt64} {above : Option EntityHandle}
    {name fullName : String} :
    (tracking.join registered identifier above name fullName).identifiers =
      tracking.identifiers ++ [identifier] := by
  have kept : ∀ entity : Entity, ({ entity with children := entity.children + 1 } : Entity).identifier =
    entity.identifier := fun _ => rfl
  rw [join, countChild_eq, identifiers_modifyAny kept, identifiers, Array.toList_push, List.map_append]
  rfl

end Tracking

/-! ## Chronicles -/

/-- The tracker has received events of the entities, of which these handles are left and these have gone. -/
structure Chronicle (tree : Tracker) (events : List Event) (references gone : List EntityHandle)
    (tracking : Tracking) : Prop where
  owned : tracking.Owned references gone
  watches : tracking.tracker.Watches tracking.identifiers
  received : tree.Receives events tracking.tracker
  creations_eq : creations events = tracking.identifiers
  endings_eq : endings events = gone.map tracking.identifier

namespace Chronicle

variable {tree : Tracker} {events : List Event} {references rest gone : List EntityHandle}
  {tracking : Tracking} {handle : EntityHandle} {entity : Entity}

theorem start : Chronicle tree [] [] [] (.start tree) :=
  ⟨.start tree, ⟨nofun, List.nodup_nil, nofun⟩, .nothing, rfl, rfl⟩

variable (chronicle : Chronicle tree events references gone tracking)

include chronicle

/-- What is neither a creation nor an end. -/
theorem observe {event : Event} (creates : event.creation? = none) (ends : event.ending? = none) :
    ∃ more, Chronicle tree (events ++ more) references gone (tracking.observe event) := by
  obtain ⟨more, received, same⟩ := chronicle.received.observe event
  have neither : creations more = [] ∧ endings more = [] := by
    rcases same with rfl | ⟨rfl, _⟩
    · exact ⟨List.filterMap_cons_none creates, List.filterMap_cons_none ends⟩
    · exact ⟨rfl, rfl⟩
  refine ⟨more, chronicle.owned.changeTracker _, chronicle.watches.observe event, received, ?_, ?_⟩
  · rw [creations_append, neither.1, List.append_nil]
    exact chronicle.creations_eq
  · rw [endings_append, neither.2, List.append_nil]
    exact chronicle.endings_eq

theorem changeReferences (same : ∀ other, other ∈ references ↔ other ∈ rest) :
    Chronicle tree events rest gone tracking :=
  { chronicle with owned := chronicle.owned.changeReferences same }

/-- The first handle to an entity comes, or the last one goes. -/
theorem setHeld {isHeld : Bool} (known : handle ∈ tracking.handles) (own : isHeld = true ↔ handle ∈ rest)
    (others : ∀ other, other ≠ handle → (other ∈ references ↔ other ∈ rest))
    (stays : handle ∈ gone → isHeld = false) :
    Chronicle tree events rest gone
      (tracking.modifyAny (some handle) fun entity => { entity with isHeld }) := by
  have kept : ∀ entity : Entity, ({ entity with isHeld } : Entity).identifier = entity.identifier :=
    fun _ => rfl
  refine ⟨chronicle.owned.setHeld known own others stays, ?_, chronicle.received, ?_, ?_⟩
  · rw [Tracking.identifiers_modifyAny kept]
    exact chronicle.watches
  · rw [Tracking.identifiers_modifyAny kept]
    exact chronicle.creations_eq
  · rw [chronicle.endings_eq]
    exact List.map_congr_left fun _ _ => (Tracking.identifier_modifyAny kept).symm

/-- **An entity that nothing keeps goes, and its end is received.** -/
theorem ends (found : tracking.get? handle = some entity) (dead : entity.isAlive = false)
    (living : handle ∉ gone) :
    Chronicle tree
      (events ++ [.destroyed (tracking.parentIdentifier entity.parent) entity.identifier]) references
      (gone ++ [handle])
      ((tracking.observe (.destroyed (tracking.parentIdentifier entity.parent)
        entity.identifier)).discountChild entity.parent) := by
  have owned := chronicle.owned.changeTracker (tracking.tracker.observe
    (.destroyed (tracking.parentIdentifier entity.parent) entity.identifier))
  have tells := chronicle.watches.records
    (show (Event.destroyed (tracking.parentIdentifier entity.parent) entity.identifier).actor ∈
      tracking.identifiers from Tracking.identifier_mem found) rfl chronicle.received
  have same (other : EntityHandle) : ((tracking.observe (.destroyed (tracking.parentIdentifier entity.parent)
      entity.identifier)).discountChild entity.parent).identifier other = tracking.identifier other :=
    Tracking.identifier_discountChild
  refine ⟨owned.ends found dead living, ?_, ?_, ?_, ?_⟩
  · rw [Tracking.discountChild_tracker, Tracking.identifiers_discountChild]
    exact chronicle.watches.observe _
  · rw [Tracking.discountChild_tracker]
    exact tells
  · rw [Tracking.identifiers_discountChild, creations_append]
    exact (List.append_nil _).trans chronicle.creations_eq
  · rw [endings_append, chronicle.endings_eq, List.map_append, List.map_singleton]
    rw [same, Tracking.identifier_eq_of_get? found, List.map_congr_left fun other _ => same other]
    rfl

/-- A creation that is refused uses an identifier up. -/
theorem refuses {identifier : UInt64} {given : Tracker}
    (given_eq : tracking.tracker.freshIdentifier = .ok (identifier, given)) (name : String)
    (traced : ({ tracking with tracker := (given.register identifier name).2 } : Tracking).IsTraced) :
    Chronicle tree events references gone { tracking with tracker := (given.register identifier name).2 } :=
  ⟨chronicle.owned.changeTracker _, chronicle.watches.refuses given_eq name traced,
    chronicle.received.enrols given_eq name, chronicle.creations_eq, chronicle.endings_eq⟩

/-- **A new entity gets an identifier of its own, and its creation is received.** -/
theorem creates {above : Option EntityHandle} (allowed : above.all tracking.lives = true) {name : String}
    {identifier : UInt64} {given registered : Tracker}
    (given_eq : tracking.tracker.freshIdentifier = .ok (identifier, given))
    (registered_eq : given.register identifier (tracking.childName above name) = (none, registered))
    (traced : (tracking.create above name).2.IsTraced) :
    ∃ events, Chronicle tree events (⟨tracking.entities.size⟩ :: references) gone
      (tracking.create above name).2 := by
  have enrolled := chronicle.watches.enrols given_eq (tracking.childName above name)
  have received := chronicle.received.enrols given_eq (tracking.childName above name)
  rw [registered_eq] at enrolled received
  rw [Tracking.create_eq given_eq registered_eq] at traced ⊢
  generalize tracking.childName above name = fullName at traced
  have tracker_eq : (tracking.join registered identifier above name fullName).tracker = registered :=
    Tracking.countChild_tracker above
  have watches : registered.Watches (tracking.identifiers ++ [identifier]) := by
    refine enrolled fun other member => ?_
    have enabled := traced other (Tracking.identifiers_join.symm ▸ member)
    rw [Tracking.observe, (Tracker.observe_decidesAs _ _).isEnabled, tracker_eq] at enabled
    exact enabled
  refine ⟨events ++ [.created ((tracking.join registered identifier above name
    fullName).parentIdentifier above) identifier fullName],
    (chronicle.owned.join allowed registered identifier name fullName).changeTracker _, ?_, ?_, ?_, ?_⟩
  · refine Tracker.Watches.observe ?_ _
    rw [tracker_eq]
    exact Tracking.identifiers_join.symm ▸ watches
  · refine Tracker.Watches.records (tracker_eq.symm ▸ watches) ?_ rfl (tracker_eq.symm ▸ received)
    exact List.mem_append_right _ List.mem_cons_self
  · rw [creations_append, chronicle.creations_eq]
    exact Tracking.identifiers_join.symm
  · rw [endings_append, chronicle.endings_eq]
    refine (List.append_nil _).trans (List.map_congr_left fun other member => ?_)
    obtain ⟨entity, found, _⟩ := chronicle.owned.ended other member
    exact (Tracking.identifier_eq_of_get? found).trans
      (Tracking.identifier_eq_of_get? (Tracking.get?_join_of_some found)).symm

/-! ### What is read off a chronicle -/

theorem identifier_inj {other : EntityHandle} (known : handle ∈ tracking.handles)
    (other_known : other ∈ tracking.handles)
    (same : tracking.identifier handle = tracking.identifier other) : handle = other := by
  have distinct := chronicle.watches.distinct
  rw [Tracking.identifiers_eq] at distinct
  exact List.inj_on_of_nodup_map distinct known other_known same

theorem mem_endings_iff (known : handle ∈ tracking.handles) :
    tracking.identifier handle ∈ endings events ↔ handle ∈ gone := by
  rw [chronicle.endings_eq, List.mem_map]
  constructor
  · rintro ⟨other, member, same⟩
    exact chronicle.identifier_inj (chronicle.owned.mem_handles_of_mem_gone member) known same ▸ member
  · exact fun member => ⟨handle, member, rfl⟩

theorem endings_nodup : (endings events).Nodup := by
  rw [chronicle.endings_eq]
  refine chronicle.owned.distinct.map_on fun first first_gone second second_gone => ?_
  exact chronicle.identifier_inj (chronicle.owned.mem_handles_of_mem_gone first_gone)
    (chronicle.owned.mem_handles_of_mem_gone second_gone)

/-- A parent has been created before its child. -/
theorem created_after_parent {parent : EntityHandle} (isParent : tracking.parent? handle = some parent) :
    [tracking.identifier parent, tracking.identifier handle].Sublist (creations events) := by
  have listed {other : EntityHandle} (known : other ∈ tracking.handles) :
      tracking.identifiers[other.index]? = some (tracking.identifier other) := by
    obtain ⟨entity, found⟩ := Tracking.mem_handles_iff.1 known
    have there : tracking.entities[other.index]? = some entity := found
    rw [Tracking.identifiers, List.getElem?_map, Array.getElem?_toList, there,
      Tracking.identifier_eq_of_get? found]
    rfl
  rw [chronicle.creations_eq]
  exact pair_sublist_of_getElem? (chronicle.owned.older handle parent isParent)
    (listed (chronicle.owned.parent_mem_handles isParent)) (listed (Tracking.mem_handles_of_parent? isParent))

end Chronicle

/-! ## Whatever has to go has gone -/

/-- The tracker has received events of the entities, and those that nothing keeps have gone. -/
def IsTold (tree : Tracker) (references : List EntityHandle) (tracking : Tracking) : Prop :=
  ∃ events gone, Chronicle tree events references gone tracking ∧ tracking.IsSettledBut gone none

namespace IsTold

variable {tree : Tracker} {references : List EntityHandle} {tracking : Tracking} {handle : EntityHandle}

/-- **An entity that may have to go goes with all of its ancestors that nothing else keeps.** -/
theorem bury {index : Nat} : ∀ {tracking : Tracking} {events : List Event} {gone : List EntityHandle},
    Chronicle tree events references gone tracking → tracking.IsSettledBut gone (some ⟨index⟩) →
      ⟨index⟩ ∉ gone → IsTold tree references (Tracking.buryAt index tracking) := by
  -- The parent of an entity has a lower number.
  induction index using Nat.strongRecOn with
  | _ index ih =>
      intro tracking events gone chronicle settled living
      rw [Tracking.buryAt]
      split
      · next absent =>
          refine ⟨events, gone, chronicle, fun other entity found dead => ?_⟩
          refine (settled other entity found dead).imp_right fun same => ?_
          cases same
          cases absent.symm.trans found
      · next entity found =>
          split
          · next alive => exact ⟨events, gone, chronicle, settled.of_isAlive found alive⟩
          · next dead =>
              have ended := chronicle.ends found (Bool.eq_false_iff.2 dead) living
              have next := (settled.changeTracker (tracking.tracker.observe (.destroyed
                (tracking.parentIdentifier entity.parent) entity.identifier))).ends entity.parent
              have isParent := Tracking.parent?_eq found
              cases above : entity.parent with
              | none =>
                  rw [above] at ended next
                  exact ⟨_, _, ended, next⟩
              | some parent =>
                  rw [above] at ended next isParent
                  have before : parent.index < index := chronicle.owned.older _ _ isParent
                  have parent_living : parent ∉ gone ++ [⟨index⟩] := by
                    rw [List.mem_append, List.mem_singleton, not_or]
                    refine ⟨chronicle.owned.parent_not_mem_gone isParent living, ?_⟩
                    rintro rfl
                    exact Nat.lt_irrefl index before
                  dsimp only
                  rw [if_pos before]
                  exact ih parent.index before ended next parent_living

/-- The owner lets go of an entity with the last handle to it. -/
theorem release (told : IsTold tree references tracking) {rest : List EntityHandle}
    (others : ∀ other, other ≠ handle → (other ∈ references ↔ other ∈ rest)) (last : handle ∉ rest) :
    IsTold tree rest (tracking.release handle) := by
  obtain ⟨events, gone, chronicle, settled⟩ := told
  rw [Tracking.release]
  split
  · next held =>
      obtain ⟨entity, found, isHeld⟩ := (Option.any_eq_true _ _).1 held
      have living : handle ∉ gone := by
        intro member
        obtain ⟨former, former_eq, dead⟩ := chronicle.owned.ended handle member
        cases found.symm.trans former_eq
        cases isHeld.symm.trans (Entity.isAlive_eq_false_iff.1 dead).1
      have let_go := chronicle.setHeld (Tracking.mem_handles_iff.2 ⟨entity, found⟩)
        (iff_of_false Bool.false_ne_true last) others fun _ => rfl
      exact bury let_go settled.setHeld living
  · next unheld =>
      refine ⟨events, gone, chronicle.changeReferences fun other => ?_, settled⟩
      by_cases same : other = handle
      · subst same
        refine iff_of_false (fun member => unheld ?_) last
        obtain ⟨entity, found⟩ := Tracking.mem_handles_iff.1 (chronicle.owned.referenced other member)
        rw [found]
        exact (chronicle.owned.held other entity found).2 member
      · exact others other same

/-- One more handle to an entity that lives. -/
theorem share (told : IsTold tree references tracking) (lives : tracking.lives handle = true) :
    IsTold tree (handle :: references)
      (tracking.modify handle fun entity => { entity with isHeld := true }) := by
  obtain ⟨events, gone, chronicle, settled⟩ := told
  obtain ⟨entity, found, _⟩ := (Option.any_eq_true _ _).1 lives
  have shared := chronicle.setHeld (Tracking.mem_handles_of_lives lives)
    (iff_of_true rfl List.mem_cons_self)
    (fun other different => (List.mem_cons.trans (or_iff_right different)).symm)
    fun member => absurd member (chronicle.owned.not_mem_gone_of_lives lives)
  have held : (tracking.modify handle fun entity => { entity with isHeld := true }).get? handle =
      some { entity with isHeld := true } := by
    rw [Tracking.get?_modify, if_pos rfl, found]
    rfl
  exact ⟨events, gone, shared, settled.setHeld.of_isAlive held rfl⟩

/-- A creation adds an entity with a handle to it, unless it is refused. -/
theorem create (told : IsTold tree references tracking) {above : Option EntityHandle}
    (allowed : above.all tracking.lives = true) {name : String}
    (traced : (tracking.create above name).2.IsTraced) :
    (∃ fault after, tracking.create above name = (.error fault, after) ∧ IsTold tree references after) ∨
      ∃ entity after, tracking.create above name = (.ok entity, after) ∧
        IsTold tree (entity :: references) after := by
  obtain ⟨events, gone, chronicle, settled⟩ := told
  cases given_eq : tracking.tracker.freshIdentifier with
  | error fault =>
      have failed : tracking.create above name = (.error fault, tracking) := by
        rw [Tracking.create, given_eq]
      exact .inl ⟨fault, tracking, failed, events, gone, chronicle, settled⟩
  | ok answer =>
      obtain ⟨identifier, given⟩ := answer
      cases registered_eq : given.register identifier (tracking.childName above name) with
      | mk answer registered =>
          cases answer with
          | some fault =>
              have refused : tracking.create above name =
                  (.error fault, { tracking with tracker := registered }) := by
                rw [Tracking.create, given_eq]
                simp only [registered_eq]
              have chronicle := chronicle.refuses given_eq (tracking.childName above name)
              rw [registered_eq] at chronicle
              rw [refused] at traced
              exact .inl ⟨fault, _, refused, events, gone, chronicle traced, settled.changeTracker registered⟩
          | none =>
              have created := Tracking.create_eq given_eq registered_eq
              obtain ⟨later, chronicle⟩ := chronicle.creates allowed given_eq registered_eq traced
              rw [created] at chronicle
              exact .inr ⟨_, _, created, later, gone, chronicle,
                (settled.join (Tracking.ne_new_of_lives allowed)).changeTracker _⟩

/-- **A tracker that traces all names enables the entity that is created.** -/
theorem isTraced_create (told : IsTold tree references tracking) (all : tree.TracesAll)
    (above : Option EntityHandle) (name : String) : (tracking.create above name).2.IsTraced := by
  obtain ⟨events, gone, chronicle, _⟩ := told
  cases given_eq : tracking.tracker.freshIdentifier with
  | error fault =>
      rw [Tracking.create, given_eq]
      exact chronicle.watches.enabled
  | ok answer =>
      obtain ⟨identifier, given⟩ := answer
      obtain ⟨accepted, _, enabled, others⟩ := (chronicle.received.tracesAll all).enrols given_eq
        (tracking.childName above name)
      rw [Tracking.create_eq given_eq (Prod.ext accepted rfl)]
      intro other member
      rw [Tracking.observe, (Tracker.observe_decidesAs _ _).isEnabled, Tracking.join,
        Tracking.countChild_tracker]
      rcases List.mem_append.1 (Tracking.identifiers_join ▸ member) with former | new
      · by_cases same : other = identifier
        · exact same ▸ enabled
        · rw [others other same]
          exact chronicle.watches.enabled other former
      · cases List.mem_singleton.1 new
        exact enabled

theorem isTraced (told : IsTold tree references tracking) : tracking.IsTraced := by
  obtain ⟨_, _, chronicle, _⟩ := told
  exact chronicle.watches.enabled

/-- What is neither a creation nor an end. -/
theorem observe (told : IsTold tree references tracking) {event : Event} (creates : event.creation? = none)
    (ends : event.ending? = none) : IsTold tree references (tracking.observe event) := by
  obtain ⟨events, gone, chronicle, settled⟩ := told
  obtain ⟨more, received⟩ := chronicle.observe creates ends
  exact ⟨_, _, received, settled.changeTracker _⟩

end IsTold

end MemoryFabric
