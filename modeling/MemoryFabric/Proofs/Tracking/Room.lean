import MemoryFabric.Proofs.Attempt
import MemoryFabric.Proofs.SortedMap
import MemoryFabric.Tracking.Entity

/-!
# Room for entities

A tracker has room for a number of entities when its counter can give that many more identifiers and none
of them has been registered.  Events take no room, the creation of an entity takes room for one
(`Tracking.create_of_hasRoom`), and a tracker that has just been made has room for any number of entities
that leaves the counter a word (`Tracker.IsFresh.hasRoom`).
-/

namespace MemoryFabric

set_option autoImplicit false

namespace Tracker

mutual

/-- No identifier from `bound` on has a level of its own. -/
def IsOpenFrom (bound : Nat) : Tracker → Prop
  | .silent => True
  | .text registry _ => ∀ identifier, bound ≤ identifier → registry.levels.contains identifier = false
  | .collecting _ _ => True
  | .several _ trackers => AreOpenFrom bound trackers

/-- No identifier from `bound` on has a level of its own in one of several trackers. -/
def AreOpenFrom (bound : Nat) : List Tracker → Prop
  | [] => True
  | tracker :: rest => tracker.IsOpenFrom bound ∧ AreOpenFrom bound rest

end

/-- There are identifiers for so many more entities. -/
def HasRoom (entities : Nat) : Tracker → Prop
  | .silent => True
  | .text registry lines =>
    registry.next.toNat + entities < Word.count ∧
      (Tracker.text registry lines).IsOpenFrom registry.next.toNat
  | .collecting next _ => next.toNat + entities < Word.count
  | .several next trackers =>
    next.toNat + entities < Word.count ∧ AreOpenFrom next.toNat trackers

theorem HasRoom.mono {fewer more : Nat} (le : fewer ≤ more) {tracker : Tracker}
    (room : tracker.HasRoom more) : tracker.HasRoom fewer := by
  cases tracker with
  | silent => trivial
  | text registry lines => exact ⟨by have := room.1; omega, room.2⟩
  | collecting next events =>
      have bound : next.toNat + more < Word.count := room
      show next.toNat + fewer < Word.count
      omega
  | several next trackers => exact ⟨by have := room.1; omega, room.2⟩

/-! ## Events -/

mutual

theorem record_isOpenFrom {bound : Nat} (event : Event) :
    ∀ tracker : Tracker, (tracker.record event).IsOpenFrom bound ↔ tracker.IsOpenFrom bound
  | .silent => Iff.rfl
  | .text _ _ => Iff.rfl
  | .collecting _ _ => Iff.rfl
  | .several _ trackers => observeAll_areOpenFrom event trackers

theorem observeAll_areOpenFrom {bound : Nat} (event : Event) :
    ∀ trackers : List Tracker, AreOpenFrom bound (observeAll event trackers) ↔ AreOpenFrom bound trackers
  | [] => Iff.rfl
  | tracker :: rest => by
      refine and_congr ?_ (observeAll_areOpenFrom event rest)
      split
      · exact record_isOpenFrom event tracker
      · exact Iff.rfl

end

theorem observe_hasRoom {entities : Nat} (tracker : Tracker) (event : Event) :
    (tracker.observe event).HasRoom entities ↔ tracker.HasRoom entities := by
  rw [observe]
  split
  · cases tracker with
    | silent => exact Iff.rfl
    | text registry lines => exact Iff.rfl
    | collecting next events => exact Iff.rfl
    | several next trackers => exact and_congr Iff.rfl (observeAll_areOpenFrom event trackers)
  · exact Iff.rfl

/-! ## Registrations -/

theorem register_levels {registry : Registry} {identifier : UInt64} {name : String} {bound : Nat}
    (levels : ∀ other, bound ≤ other → registry.levels.contains other = false)
    (above : bound ≤ identifier.toNat) :
    (registry.register identifier name).1 = none ∧
      (registry.register identifier name).2.next = registry.next ∧
      ∀ other, identifier.toNat + 1 ≤ other →
        (registry.register identifier name).2.levels.contains other = false := by
  by_cases plain : registry.levelOf name = registry.defaultLevel
  · simp only [Registry.register, if_pos plain, true_and]
    exact fun other later => levels other (by omega)
  · simp only [Registry.register, if_neg plain, levels identifier.toNat above, true_and]
    refine ⟨rfl, fun other later => ?_⟩
    have different : other ≠ identifier.toNat := by omega
    rw [SortedMap.contains_insert, levels other (by omega)]
    simp [different]

mutual

/-- A registration from the bound on succeeds and leaves the identifiers behind it open. -/
theorem register_of_isOpenFrom {bound : Nat} {identifier : UInt64} (name : String)
    (above : bound ≤ identifier.toNat) :
    ∀ tracker : Tracker, tracker.IsOpenFrom bound →
      (tracker.register identifier name).1 = none ∧
        (tracker.register identifier name).2.IsOpenFrom (identifier.toNat + 1)
  | .silent, _ => ⟨rfl, trivial⟩
  | .text _ _, levels =>
      ⟨(register_levels levels above).1, (register_levels levels above).2.2⟩
  | .collecting _ _, _ => ⟨rfl, trivial⟩
  | .several _ trackers, opened => registerAll_of_areOpenFrom name above trackers opened

theorem registerAll_of_areOpenFrom {bound : Nat} {identifier : UInt64} (name : String)
    (above : bound ≤ identifier.toNat) :
    ∀ trackers : List Tracker, AreOpenFrom bound trackers →
      (registerAll identifier name trackers).1 = none ∧
        AreOpenFrom (identifier.toNat + 1) (registerAll identifier name trackers).2
  | [], _ => ⟨rfl, trivial⟩
  | tracker :: rest, ⟨first, others⟩ => by
      obtain ⟨accepted, opened⟩ := register_of_isOpenFrom name above tracker first
      obtain ⟨rest_accepted, rest_opened⟩ := registerAll_of_areOpenFrom name above rest others
      rw [registerAll]
      split
      · next refused => cases refused ▸ accepted
      · next registered =>
          rw [registered] at opened
          exact ⟨rest_accepted, opened, rest_opened⟩

end

theorem next_of_room {next : UInt64} {entities : Nat}
    (fits : next.toNat + (entities + 1) < Word.count) :
    ∃ after, Word.add next 1 = .ok after ∧ after.toNat = next.toNat + 1 := by
  have one : (1 : UInt64).toNat = 1 := rfl
  exact ⟨_, Word.add_of_lt (by omega), Word.toNat_ofNat (by omega)⟩

theorem exists_registered_in {entities : Nat} {registry : Registry} (name : String)
    (fits : registry.next.toNat + (entities + 1) < Word.count)
    (levels : ∀ other, registry.next.toNat ≤ other → registry.levels.contains other = false) :
    ∃ identifier given registered, registry.freshIdentifier = .ok (identifier, given) ∧
      given.register identifier name = (none, registered) ∧
      registered.next.toNat + entities < Word.count ∧
      ∀ other, registered.next.toNat ≤ other → registered.levels.contains other = false := by
  obtain ⟨next, added, next_toNat⟩ := next_of_room fits
  obtain ⟨accepted, same, opened⟩ :=
    @register_levels { registry with next } registry.next name _ levels (Nat.le_refl _)
  have counted : registry.freshIdentifier = .ok (registry.next, { registry with next }) := by
    rw [Registry.freshIdentifier, added]
    rfl
  refine ⟨_, _, _, counted, Prod.ext accepted rfl, ?_, ?_⟩
  · show (Registry.register { registry with next } registry.next name).2.next.toNat + entities < _
    rw [same, next_toNat]
    omega
  · intro other later
    refine opened other ?_
    rw [← next_toNat]
    exact Nat.le_trans (Nat.le_of_eq (congrArg UInt64.toNat same).symm) later

/-- **With room for one more entity an identifier is given and registered.** -/
theorem exists_registered {entities : Nat} {tracker : Tracker} (name : String)
    (room : tracker.HasRoom (entities + 1)) :
    ∃ identifier given registered, tracker.freshIdentifier = .ok (identifier, given) ∧
      given.register identifier name = (none, registered) ∧ registered.HasRoom entities := by
  cases tracker with
  | silent => exact ⟨0, .silent, .silent, rfl, rfl, trivial⟩
  | text registry lines =>
      obtain ⟨identifier, given, registered, given_eq, registered_eq, room⟩ :=
        exists_registered_in name room.1 room.2
      refine ⟨identifier, .text given lines, .text registered lines, ?_, ?_, room⟩
      · rw [freshIdentifier, given_eq]
        rfl
      · rw [register, registered_eq]
  | collecting next events =>
      obtain ⟨after, added, after_toNat⟩ := next_of_room room
      refine ⟨next, .collecting after events, .collecting after events, ?_, rfl, ?_⟩
      · rw [freshIdentifier, added]
        rfl
      · have bound : next.toNat + (entities + 1) < Word.count := room
        show after.toNat + entities < Word.count
        omega
  | several next trackers =>
      obtain ⟨fits, levels⟩ := room
      obtain ⟨after, added, after_toNat⟩ := next_of_room fits
      obtain ⟨accepted, opened⟩ := registerAll_of_areOpenFrom name (Nat.le_refl _) trackers levels
      refine ⟨next, .several after trackers, .several after (registerAll next name trackers).2, ?_, ?_,
        ?_, ?_⟩
      · rw [freshIdentifier, added]
        rfl
      · rw [register, ← accepted]
      · omega
      · rw [after_toNat]
        exact opened

/-! ## New trackers -/

/-- A tracker that has just been made.  The first identifier of a collecting tracker is up to its maker, so
such a tracker only counts inside another one. -/
inductive IsFresh : Tracker → Prop
  | silent : IsFresh .silent
  | text (defaultLevel : Level) (filters : List LevelFilter) :
      IsFresh (.ofRegistry (.empty defaultLevel filters))
  | several {trackers : List Tracker} (fresh : AreOpenFrom 2 trackers) : IsFresh (.several 2 trackers)

theorem IsFresh.hasRoom {tracker : Tracker} (fresh : tracker.IsFresh) {entities : Nat}
    (fits : 2 + entities < Word.count) : tracker.HasRoom entities := by
  cases fresh with
  | silent => trivial
  | text defaultLevel filters => exact ⟨fits, fun _ _ => rfl⟩
  | several fresh => exact ⟨fits, fresh⟩

end Tracker

/-! ## Entities -/

namespace Tracking

theorem modify_tracker {tracking : Tracking} {handle : EntityHandle} {change : Entity → Entity} :
    (tracking.modify handle change).tracker = tracking.tracker := rfl

theorem countChild_tracker {tracking : Tracking} (parent : Option EntityHandle) :
    (tracking.countChild parent).tracker = tracking.tracker := by
  cases parent <;> rfl

theorem observe_hasRoom {entities : Nat} (tracking : Tracking) (event : Event) :
    (tracking.observe event).tracker.HasRoom entities ↔ tracking.tracker.HasRoom entities :=
  Tracker.observe_hasRoom tracking.tracker event

/-- The creation of an entity takes room for one. -/
theorem create_of_hasRoom {entities : Nat} {tracking : Tracking} (parent : Option EntityHandle)
    (name : String) (room : tracking.tracker.HasRoom (entities + 1)) :
    ∃ handle after, tracking.create parent name = (.ok handle, after) ∧
      after.tracker.HasRoom entities := by
  obtain ⟨identifier, given, registered, given_eq, registered_eq, room⟩ :=
    Tracker.exists_registered (tracking.childName parent name) room
  simp only [create, given_eq, registered_eq]
  refine ⟨_, _, rfl, ?_⟩
  rw [observe_hasRoom, countChild_tracker]
  exact room

/-- A creation succeeds and takes room for one, or there was no room. -/
theorem create_cases (tracking : Tracking) (parent : Option EntityHandle) (name : String) :
    (∃ handle after, tracking.create parent name = (.ok handle, after) ∧
        ∀ spare, tracking.tracker.HasRoom (1 + spare) → after.tracker.HasRoom spare) ∨
      ¬ tracking.tracker.HasRoom 1 ∧ ∃ fault after, tracking.create parent name = (.error fault, after) := by
  cases outcome : tracking.create parent name with
  | mk answer after =>
      cases answer with
      | ok handle =>
          refine .inl ⟨handle, after, rfl, fun spare room => ?_⟩
          rw [Nat.add_comm] at room
          obtain ⟨_, _, same, left⟩ := create_of_hasRoom parent name room
          cases outcome.symm.trans same
          exact left
      | error fault =>
          refine .inr ⟨fun room => ?_, fault, after, rfl⟩
          obtain ⟨_, _, same, _⟩ := @create_of_hasRoom 0 tracking parent name room
          cases outcome.symm.trans same

theorem buryAt_hasRoom {entities index : Nat} {tracking : Tracking} :
    (buryAt index tracking).tracker.HasRoom entities ↔ tracking.tracker.HasRoom entities := by
  induction index using Nat.strongRecOn generalizing tracking with
  | _ index ih =>
      rw [buryAt]
      split
      · exact Iff.rfl
      · next entity found =>
          split
          · exact Iff.rfl
          · split
            · exact observe_hasRoom _ _
            · next parent _ =>
                split
                · next before =>
                    rw [ih parent.index before, modify_tracker, observe_hasRoom]
                · rw [modify_tracker, observe_hasRoom]

theorem release_hasRoom {entities : Nat} (tracking : Tracking) (handle : EntityHandle) :
    (tracking.release handle).tracker.HasRoom entities ↔ tracking.tracker.HasRoom entities := by
  rw [release]
  split
  · rw [buryAt_hasRoom, modify_tracker]
  · exact Iff.rfl

end Tracking

end MemoryFabric
