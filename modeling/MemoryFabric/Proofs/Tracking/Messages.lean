import MemoryFabric.Proofs.Text.Skeleton
import MemoryFabric.Proofs.Tracking.EnabledLines

/-!
# Messages in a log

A line of a log shows whether it is a message, and of which level (`isMessage_written_iff`): after its first colon
there is a space or the name of a level.  What is done with entities adds lines to the log of a text tracker and
leaves name, parent and identifier of every entity alone (`Tracking.LogsOnly`); an entity that comes into being,
is connected or ends is no message, and only a message of an entity adds one.

Errors are enabled for every entity under every filter (**`Tracker.log?_observe_error`**).
-/

namespace MemoryFabric

set_option autoImplicit false

/-! ## Lines -/

/-- A message of an entity in the log. -/
def IsMessage (level : Level) (line : String) : Prop :=
  ∃ identifier text, line = (Event.message identifier level text).written

namespace Event

/-- The level of an event that is a message. -/
def messageLevel? : Event → Option Level
  | .message _ level _ => some level
  | _ => none

/-- The character after the first colon of a line. -/
def mark : Option Level → Char
  | some level => level.name.toList.headD ' '
  | none => ' '

theorem mark_inj {first second : Option Level} : mark first = mark second ↔ first = second := by
  refine ⟨fun same => ?_, congrArg mark⟩
  rcases first with _ | first <;> rcases second with _ | second
  · rfl
  · cases second <;> simp [mark, Level.name] at same
  · cases first <;> simp [mark, Level.name] at same
  · cases first <;> cases second <;> first | rfl | simp [mark, Level.name] at same

theorem skeleton_written (event : Event) :
    ∃ rest, Text.skeleton event.written = ':' :: mark event.messageLevel? :: rest := by
  cases event with
  | message identifier level text =>
      cases level <;>
        simp [written, mark, messageLevel?, Text.skeleton, Text.filter_toDigits, Level.name]
  | _ => simp [written, mark, messageLevel?, Text.skeleton, Text.filter_toDigits]

/-- **The line of an event shows whether the event is a message of a level.** -/
theorem isMessage_written_iff {event : Event} {level : Level} :
    IsMessage level event.written ↔ event.messageLevel? = some level := by
  constructor
  · rintro ⟨identifier, text, same⟩
    obtain ⟨rest, line⟩ := event.skeleton_written
    obtain ⟨others, message⟩ := (Event.message identifier level text).skeleton_written
    rw [same, message] at line
    exact (mark_inj.1 (List.cons.inj (List.cons.inj line).2).1).symm
  · intro isMessage
    cases event with
    | message identifier _ text =>
        cases isMessage
        exact ⟨identifier, text, rfl⟩
    | _ => cases isMessage

end Event

/-! ## The log of a tracker -/

namespace Tracker

variable {tracker given : Tracker} {event : Event} {identifier : UInt64}

/-- The lines of a tracker that writes lines. -/
def log? : Tracker → Option (List String)
  | .text _ lines => some lines.toList
  | _ => none

theorem log?_freshIdentifier (given_eq : tracker.freshIdentifier = .ok (identifier, given)) :
    given.log? = tracker.log? := by
  cases tracker with
  | silent =>
      cases given_eq
      rfl
  | _ =>
      simp only [freshIdentifier, Attempt.bind_eq_ok_iff, Attempt.pure_eq_ok_iff, Prod.mk.injEq] at given_eq
      obtain ⟨_, _, _, rfl⟩ := given_eq
      rfl

theorem log?_register {name : String} : (tracker.register identifier name).2.log? = tracker.log? := by
  cases tracker <;> rfl

/-- An event adds its line, or nothing. -/
theorem log?_observe : (tracker.observe event).log? =
    tracker.log?.map (· ++ if tracker.isEnabled event.actor event.level then [event.written] else []) := by
  rw [observe]
  split
  · cases tracker with
    | text registry lines => exact congrArg some Array.toList_push
    | _ => rfl
  · simp

/-- **Every tracker that writes lines writes errors**, whatever its levels are. -/
theorem log?_observe_error {text : String} :
    (tracker.observe (.message identifier .error text)).log? =
      tracker.log?.map (· ++ [(Event.message identifier .error text).written]) := by
  rw [log?_observe]
  cases tracker with
  | text registry lines =>
      have least : ∀ level, Level.error ≤ level := fun level => by cases level <;> decide
      have enabled : (Tracker.text registry lines).isEnabled (Event.message identifier .error text).actor
          (Event.message identifier .error text).level = true := decide_eq_true (least _)
      rw [if_pos enabled]
  | _ => rfl

end Tracker

/-! ## What is done with entities -/

namespace Tracking

/-- Between two times lines have been added to the log, with messages of certain levels only, and no entity has
changed but for its owner and its children. -/
structure LogsOnly (allowed : Level → Prop) (before after : Tracking) : Prop where
  lines : ∃ added, (∀ line ∈ added, ∀ level, IsMessage level line → allowed level) ∧
    after.tracker.log? = before.tracker.log?.map (· ++ added)
  entities : ∀ handle entity, before.get? handle = some entity →
    ∃ isHeld children, after.get? handle = some { entity with isHeld, children }

variable {allowed : Level → Prop} {before between after tracking : Tracking}

namespace LogsOnly

/-- When no line has been added the log is the same. -/
theorem of_log?_eq (same : after.tracker.log? = before.tracker.log?)
    (entities : ∀ handle entity, before.get? handle = some entity →
      ∃ isHeld children, after.get? handle = some { entity with isHeld, children }) :
    LogsOnly allowed before after :=
  ⟨⟨[], nofun, by simp [same]⟩, entities⟩

theorem refl : LogsOnly allowed tracking tracking :=
  .of_log?_eq rfl fun _ entity found => ⟨entity.isHeld, entity.children, found⟩

theorem trans (first : LogsOnly allowed before between) (second : LogsOnly allowed between after) :
    LogsOnly allowed before after := by
  obtain ⟨⟨added, fits, grown⟩, kept⟩ := first
  obtain ⟨⟨later, later_fits, later_grown⟩, later_kept⟩ := second
  refine ⟨⟨added ++ later, fun line member => ?_, ?_⟩, fun handle entity found => ?_⟩
  · rcases List.mem_append.1 member with first | last
    · exact fits line first
    · exact later_fits line last
  · simp [later_grown, grown, Function.comp_def]
  · obtain ⟨_, _, found⟩ := kept handle entity found
    obtain ⟨isHeld, children, found⟩ := later_kept handle _ found
    exact ⟨isHeld, children, found⟩

end LogsOnly

theorem logsOnly_observe {event : Event}
    (fits : ∀ level, event.messageLevel? = some level → allowed level) :
    LogsOnly allowed tracking (tracking.observe event) := by
  refine ⟨⟨_, fun line member level isMessage => ?_, Tracker.log?_observe⟩,
    fun _ entity found => ⟨entity.isHeld, entity.children, found⟩⟩
  split at member
  · obtain rfl := List.mem_singleton.1 member
    exact fits level (Event.isMessage_written_iff.1 isMessage)
  · cases member

theorem logsOnly_observe_of_none {event : Event} (silent : event.messageLevel? = none) :
    LogsOnly allowed tracking (tracking.observe event) :=
  logsOnly_observe fun _ isMessage => absurd (silent.symm.trans isMessage) (Option.some_ne_none _).symm

/-- Neither the owner nor the children of an entity are in the log. -/
theorem logsOnly_modify {handle : EntityHandle} {change : Entity → Entity}
    (keeps : ∀ entity, ∃ isHeld children, change entity = { entity with isHeld, children }) :
    LogsOnly allowed tracking (tracking.modify handle change) := by
  refine .of_log?_eq rfl fun other entity found => ?_
  rw [get?_modify, found]
  split
  · obtain ⟨isHeld, children, changed⟩ := keeps entity
    exact ⟨isHeld, children, congrArg some changed⟩
  · exact ⟨entity.isHeld, entity.children, rfl⟩

theorem logsOnly_countChild {parent : Option EntityHandle} :
    LogsOnly allowed tracking (tracking.countChild parent) := by
  cases parent with
  | none => exact .refl
  | some parent => exact logsOnly_modify fun _ => ⟨_, _, rfl⟩

theorem logsOnly_log {level : Level} (fits : allowed level) {handle : EntityHandle} {text : String} :
    LogsOnly allowed tracking (tracking.log handle level text) :=
  logsOnly_observe fun _ same => Option.some.inj same ▸ fits

/-- An error of an entity is logged under its identifier, whatever its level is. -/
theorem log?_log_error {handle : EntityHandle} {entity : Entity} {text : String}
    (found : tracking.get? handle = some entity) :
    (tracking.log handle .error text).tracker.log? =
      tracking.tracker.log?.map (· ++ [(Event.message entity.identifier .error text).written]) := by
  have same : tracking.identifier handle = entity.identifier := by
    rw [identifier, found]
    rfl
  rw [log, same]
  exact Tracker.log?_observe_error

theorem logsOnly_connect {source target : EntityHandle} :
    LogsOnly allowed tracking (tracking.connect source target) :=
  logsOnly_observe_of_none rfl

theorem logsOnly_buryAt {index : Nat} : LogsOnly allowed tracking (buryAt index tracking) := by
  induction index using Nat.strongRecOn generalizing tracking with
  | _ index ih =>
      rw [buryAt]
      split
      · exact .refl
      · next entity found =>
          split
          · exact .refl
          · have ended : LogsOnly allowed tracking
                (tracking.observe (.destroyed (tracking.parentIdentifier entity.parent) entity.identifier)) :=
              logsOnly_observe_of_none rfl
            split
            · exact ended
            · next parent _ =>
                have discounted := ended.trans (@logsOnly_modify allowed _ parent
                  (fun entity => { entity with children := entity.children - 1 }) fun _ => ⟨_, _, rfl⟩)
                split
                · next before => exact discounted.trans (ih parent.index before)
                · exact discounted

theorem logsOnly_release {handle : EntityHandle} :
    LogsOnly allowed tracking (tracking.release handle) := by
  rw [release]
  split
  · exact (logsOnly_modify fun _ => ⟨_, _, rfl⟩).trans logsOnly_buryAt
  · exact .refl

/-! ### Creations -/

/-- A creation faults with the entities and the log as they were, or it adds an entity and records that. -/
theorem create_eq_or (tracking : Tracking) (parent : Option EntityHandle) (name : String) :
    (∃ fault after, tracking.create parent name = (.error fault, after) ∧
        after.entities = tracking.entities ∧ after.tracker.log? = tracking.tracker.log?) ∨
      ∃ identifier registered, registered.log? = tracking.tracker.log? ∧
        tracking.create parent name = (.ok ⟨tracking.entities.size⟩,
          (tracking.join registered identifier parent name (tracking.childName parent name)).observe
            (.created ((tracking.join registered identifier parent name
              (tracking.childName parent name)).parentIdentifier parent) identifier
              (tracking.childName parent name))) := by
  cases fresh : tracking.tracker.freshIdentifier with
  | error fault => exact .inl ⟨fault, tracking, by rw [create, fresh], rfl, rfl⟩
  | ok counted =>
      obtain ⟨identifier, given⟩ := counted
      have given_log := Tracker.log?_freshIdentifier fresh
      have registered_log := @Tracker.log?_register given identifier (tracking.childName parent name)
      cases registers : given.register identifier (tracking.childName parent name) with
      | mk fault? registered =>
          rw [registers] at registered_log
          cases fault? with
          | none =>
              exact .inr ⟨identifier, registered, registered_log.trans given_log, create_eq fresh registers⟩
          | some fault =>
              refine .inl ⟨fault, { tracking with tracker := registered }, ?_, rfl,
                registered_log.trans given_log⟩
              rw [create, fresh]
              simp only [registers]

theorem logsOnly_join {registered : Tracker} {identifier : UInt64} {parent : Option EntityHandle}
    {name fullName : String} (same : registered.log? = tracking.tracker.log?) :
    LogsOnly allowed tracking (tracking.join registered identifier parent name fullName) := by
  have pushed : LogsOnly allowed tracking ⟨registered,
      tracking.entities.push ⟨name, fullName, parent, identifier, true, 0⟩⟩ :=
    .of_log?_eq same fun _ entity found => ⟨entity.isHeld, entity.children, get?_push_of_some found⟩
  exact pushed.trans logsOnly_countChild

theorem logsOnly_create {parent : Option EntityHandle} {name : String} :
    LogsOnly allowed tracking (tracking.create parent name).2 := by
  rcases tracking.create_eq_or parent name with
    ⟨fault, after, created, entities, same⟩ | ⟨identifier, registered, same, created⟩
  · rw [created]
    refine .of_log?_eq same fun handle entity found => ⟨entity.isHeld, entity.children, ?_⟩
    rw [get?, entities]
    exact found
  · rw [created]
    exact (logsOnly_join same).trans (logsOnly_observe_of_none rfl)

/-- What has been created is the newest entity, with the name and the parent that were asked for. -/
theorem get?_of_create {parent : Option EntityHandle} {name : String} {handle : EntityHandle}
    (created : tracking.create parent name = (.ok handle, after)) :
    handle = ⟨tracking.entities.size⟩ ∧
      ∃ entity, after.get? handle = some entity ∧ entity.name = name ∧ entity.parent = parent := by
  rcases tracking.create_eq_or parent name with
    ⟨fault, _, failed, _⟩ | ⟨identifier, registered, _, made⟩
  · cases created.symm.trans failed
  · cases created.symm.trans made
    have newest : (Tracking.mk registered (tracking.entities.push
        ⟨name, tracking.childName parent name, parent, identifier, true, 0⟩)).get?
          ⟨tracking.entities.size⟩ =
            some ⟨name, tracking.childName parent name, parent, identifier, true, 0⟩ :=
      Array.getElem?_push_size
    obtain ⟨isHeld, children, found⟩ :=
      (@logsOnly_countChild (fun _ => True) _ parent).entities _ _ newest
    exact ⟨rfl, _, found, rfl, rfl⟩

end Tracking

end MemoryFabric
