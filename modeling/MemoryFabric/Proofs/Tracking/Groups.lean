import MemoryFabric.Proofs.Tracking.Room

/-!
# Groups of trackers

A tracker of several trackers passes everything on.  A text tracker of the group does not notice the others,
however deep it stands among them: that others are enabled for an event does not make it write the event, and
that others are not does not keep it from writing (`Tracker.textTrackers_observe`).  An entity that is new to
the group is registered with each of them (`Tracker.textTrackers_register`).

Identifiers are given by the outermost tracker alone, so the counters inside a group do not move.
-/

namespace MemoryFabric

set_option autoImplicit false

namespace Tracker

/-! ## The text trackers of a group -/

mutual

/-- The text trackers of a group, from left to right. -/
def textTrackers : Tracker → List Tracker
  | .silent => []
  | .text registry lines => [.text registry lines]
  | .collecting _ _ => []
  | .several _ trackers => allTextTrackers trackers

/-- The text trackers of several groups. -/
def allTextTrackers : List Tracker → List Tracker
  | [] => []
  | tracker :: rest => tracker.textTrackers ++ allTextTrackers rest

end

theorem allTextTrackers_eq_flatMap {trackers : List Tracker} :
    allTextTrackers trackers = trackers.flatMap textTrackers := by
  induction trackers with
  | nil => rfl
  | cons tracker rest ih => rw [allTextTrackers, ih, List.flatMap_cons]

mutual

theorem exists_text_of_mem {single : Tracker} :
    ∀ tracker : Tracker, single ∈ tracker.textTrackers → ∃ registry lines, single = .text registry lines
  | .silent, member => nomatch member
  | .text registry lines, member => ⟨registry, lines, List.mem_singleton.1 member⟩
  | .collecting _ _, member => nomatch member
  | .several _ trackers, member => exists_text_of_mem_all trackers member

theorem exists_text_of_mem_all {single : Tracker} :
    ∀ trackers : List Tracker, single ∈ allTextTrackers trackers →
      ∃ registry lines, single = .text registry lines
  | [], member => nomatch member
  | tracker :: rest, member =>
      (List.mem_append.1 member).elim (exists_text_of_mem tracker) (exists_text_of_mem_all rest)

end

/-- The identifier that a tracker gives next; a silent one gives none. -/
def next : Tracker → UInt64
  | .silent => 0
  | .text registry _ => registry.next
  | .collecting next _ => next
  | .several next _ => next

/-- The tracker with another next identifier. -/
def withNext (next : UInt64) : Tracker → Tracker
  | .silent => .silent
  | .text registry lines => .text { registry with next } lines
  | .collecting _ events => .collecting next events
  | .several _ trackers => .several next trackers

section Next

variable {tracker : Tracker} {next : UInt64}

@[simp]
theorem withNext_next : tracker.withNext tracker.next = tracker := by
  cases tracker <;> rfl

@[simp]
theorem withNext_withNext {former : UInt64} :
    (tracker.withNext former).withNext next = tracker.withNext next := by
  cases tracker <;> rfl

theorem next_withNext (counts : tracker ≠ .silent) : (tracker.withNext next).next = next := by
  cases tracker with
  | silent => exact absurd rfl counts
  | text registry lines => rfl
  | collecting former events => rfl
  | several former trackers => rfl

theorem isOpenFrom_withNext {bound : Nat} :
    (tracker.withNext next).IsOpenFrom bound ↔ tracker.IsOpenFrom bound := by
  cases tracker <;> exact Iff.rfl

theorem freshIdentifier_eq (counts : tracker ≠ .silent) :
    tracker.freshIdentifier =
      (Word.add tracker.next 1).map fun after => (tracker.next, tracker.withNext after) := by
  cases tracker with
  | silent => exact absurd rfl counts
  | text registry lines =>
      simp only [freshIdentifier, Registry.freshIdentifier, Tracker.next]
      cases Word.add registry.next 1 <;> rfl
  | collecting former events =>
      simp only [freshIdentifier, Tracker.next]
      cases Word.add former 1 <;> rfl
  | several former trackers =>
      simp only [freshIdentifier, Tracker.next]
      cases Word.add former 1 <;> rfl

/-- The text trackers of a group do not depend on its counter, except that a text tracker is its own group. -/
theorem map_withNext_textTrackers {former : UInt64} :
    (tracker.withNext former).textTrackers.map (withNext next) =
      tracker.textTrackers.map (withNext next) := by
  cases tracker <;> rfl

@[simp]
theorem lines_withNext : (tracker.withNext next).lines = tracker.lines := by
  cases tracker <;> rfl

end Next

/-! ### Events -/

section Events

variable {event : Event}

theorem observeAll_eq_map {trackers : List Tracker} :
    observeAll event trackers = trackers.map fun tracker => tracker.observe event := by
  induction trackers with
  | nil => rfl
  | cons tracker rest ih => rw [observeAll, ih, List.map_cons, observe]

/-- Where nobody is enabled for an event, passing it on changes nothing. -/
theorem map_observe_of_disabled {trackers : List Tracker}
    (disabled : isAnyEnabled event.actor event.level trackers = false) :
    trackers.map (fun tracker => tracker.observe event) = trackers := by
  induction trackers with
  | nil => rfl
  | cons tracker rest ih =>
      obtain ⟨first, others⟩ := Bool.or_eq_false_iff.1 disabled
      rw [List.map_cons, ih others, observe, if_neg (Bool.eq_false_iff.1 first)]

/-- **A group passes an event on, whoever is enabled for it.** -/
theorem observe_several {next : UInt64} {trackers : List Tracker} :
    (several next trackers).observe event =
      several next (trackers.map fun tracker => tracker.observe event) := by
  rw [observe]
  split
  · rw [record, observeAll_eq_map]
  · next disabled => rw [map_observe_of_disabled (Bool.eq_false_iff.2 disabled)]

theorem observe_withNext {tracker : Tracker} {next : UInt64} :
    (tracker.withNext next).observe event = (tracker.observe event).withNext next := by
  cases tracker with
  | silent => rfl
  | text registry lines =>
      have same : (text registry lines).withNext next = text { registry with next } lines := rfl
      rw [same, observe, observe]
      exact (apply_ite (withNext next) _ (record event (text registry lines)) (text registry lines)).symm
  | collecting former events => rfl
  | several former trackers => simp only [withNext, observe_several]

theorem observe_isOpenFrom {tracker : Tracker} {bound : Nat} :
    (tracker.observe event).IsOpenFrom bound ↔ tracker.IsOpenFrom bound := by
  rw [observe]
  split
  · exact record_isOpenFrom event tracker
  · exact Iff.rfl

theorem next_observe {tracker : Tracker} : (tracker.observe event).next = tracker.next := by
  rw [observe]
  split
  · cases tracker <;> rfl
  · rfl

mutual

/-- **The text trackers of a group observe what the group does.** -/
theorem textTrackers_observe : ∀ tracker : Tracker,
    (tracker.observe event).textTrackers = tracker.textTrackers.map fun single => single.observe event
  | .silent => rfl
  | .text registry lines => by
      rw [observe]
      split
      · next enabled => simp only [textTrackers, record, List.map_singleton, observe, if_pos enabled]
      · next disabled => simp only [textTrackers, List.map_singleton, observe, if_neg disabled]
  | .collecting _ _ => rfl
  | .several _ trackers => by
      rw [observe_several]
      exact allTextTrackers_observe trackers

theorem allTextTrackers_observe : ∀ trackers : List Tracker,
    allTextTrackers (trackers.map fun tracker => tracker.observe event) =
      (allTextTrackers trackers).map fun single => single.observe event
  | [] => rfl
  | tracker :: rest => by
      rw [List.map_cons, allTextTrackers, allTextTrackers, textTrackers_observe tracker,
        allTextTrackers_observe rest, List.map_append]

end

end Events

/-! ### Registrations -/

section Registrations

variable {bound : Nat} {identifier : UInt64} {name : String}

theorem register_withNext {tracker : Tracker} {next : UInt64} :
    (tracker.withNext next).register identifier name =
      ((tracker.register identifier name).1, (tracker.register identifier name).2.withNext next) := by
  cases tracker with
  | silent => rfl
  | text registry lines =>
      have same : Registry.levelOf { registry with next } name = registry.levelOf name := rfl
      simp only [withNext, register, Registry.register, same]
      split <;> rfl
  | collecting former events => rfl
  | several former trackers => rfl

theorem register_ne_silent {tracker : Tracker} (counts : tracker ≠ .silent) :
    (tracker.register identifier name).2 ≠ .silent := by
  cases tracker with
  | silent => exact absurd rfl counts
  | text registry lines => exact nofun
  | collecting former events => exact nofun
  | several former trackers => exact nofun

mutual

theorem isOpenFrom_of_mem {single : Tracker} :
    ∀ tracker : Tracker, tracker.IsOpenFrom bound → single ∈ tracker.textTrackers → single.IsOpenFrom bound
  | .silent, _, member => nomatch member
  | .text registry lines, opened, member => by
      cases List.mem_singleton.1 member
      exact opened
  | .collecting _ _, _, member => nomatch member
  | .several _ trackers, opened, member => isOpenFrom_of_mem_all trackers opened member

theorem isOpenFrom_of_mem_all {single : Tracker} :
    ∀ trackers : List Tracker, AreOpenFrom bound trackers → single ∈ allTextTrackers trackers →
      single.IsOpenFrom bound
  | [], _, member => nomatch member
  | tracker :: rest, ⟨first, others⟩, member =>
      (List.mem_append.1 member).elim (isOpenFrom_of_mem tracker first) (isOpenFrom_of_mem_all rest others)

end

mutual

/-- **An entity that is new to a group is registered with each of its text trackers.** -/
theorem textTrackers_register (above : bound ≤ identifier.toNat) :
    ∀ tracker : Tracker, tracker.IsOpenFrom bound →
      (tracker.register identifier name).2.textTrackers =
        tracker.textTrackers.map fun single => (single.register identifier name).2
  | .silent, _ => rfl
  | .text _ _, _ => rfl
  | .collecting _ _, _ => rfl
  | .several _ trackers, opened => allTextTrackers_register above trackers opened

theorem allTextTrackers_register (above : bound ≤ identifier.toNat) :
    ∀ trackers : List Tracker, AreOpenFrom bound trackers →
      allTextTrackers (registerAll identifier name trackers).2 =
        (allTextTrackers trackers).map fun single => (single.register identifier name).2
  | [], _ => rfl
  | tracker :: rest, ⟨first, others⟩ => by
      have accepted := (register_of_isOpenFrom name above tracker first).1
      have first_eq := textTrackers_register above tracker first
      have others_eq := allTextTrackers_register above rest others
      rw [registerAll]
      split
      · next refused => cases refused ▸ accepted
      · next registered =>
          rw [registered] at first_eq
          rw [allTextTrackers, allTextTrackers, List.map_append, first_eq, others_eq]

end

/-- The text trackers of a group after a registration, each with the counter of the group. -/
theorem map_withNext_register {tracker : Tracker} (above : bound ≤ identifier.toNat)
    (opened : tracker.IsOpenFrom bound) {former after : UInt64} :
    ((tracker.register identifier name).2.withNext after).textTrackers.map (withNext after) =
      tracker.textTrackers.map fun single =>
        ((single.withNext former).register identifier name).2.withNext after := by
  rw [map_withNext_textTrackers, textTrackers_register above tracker opened, List.map_map]
  refine List.map_congr_left fun single _ => ?_
  rw [Function.comp_apply, register_withNext, withNext_withNext]

end Registrations

/-- A tree of trackers that have just been made. -/
inductive IsFreshTree : Tracker → Prop
  | silent : IsFreshTree .silent
  | text (defaultLevel : Level) (filters : List LevelFilter) :
      IsFreshTree (.ofRegistry (.empty defaultLevel filters))
  | collecting (next : UInt64) : IsFreshTree (.collecting next #[])
  | several {trackers : List Tracker} (fresh : ∀ tracker ∈ trackers, IsFreshTree tracker) :
      IsFreshTree (.several 2 trackers)

theorem areOpenFrom_iff {bound : Nat} {trackers : List Tracker} :
    AreOpenFrom bound trackers ↔ ∀ tracker ∈ trackers, tracker.IsOpenFrom bound := by
  induction trackers with
  | nil => exact iff_of_true trivial nofun
  | cons tracker rest ih => rw [AreOpenFrom, ih, List.forall_mem_cons]

namespace IsFreshTree

variable {tree single : Tracker} (fresh : tree.IsFreshTree)

include fresh

theorem isOpenFrom {bound : Nat} : tree.IsOpenFrom bound := by
  induction fresh with
  | silent => trivial
  | text defaultLevel filters => exact fun _ _ => rfl
  | collecting next => trivial
  | several _ ih => exact areOpenFrom_iff.2 ih

theorem next_of_mem (member : single ∈ tree.textTrackers) : single.next = 2 := by
  induction fresh with
  | silent => cases member
  | text defaultLevel filters =>
      cases List.mem_singleton.1 member
      rfl
  | collecting next => cases member
  | several _ ih =>
      rw [textTrackers, allTextTrackers_eq_flatMap] at member
      obtain ⟨tracker, inside, found⟩ := List.mem_flatMap.1 member
      exact ih tracker inside found

/-- The first identifier of a tree is that of each of its text trackers. -/
theorem next_eq (member : single ∈ tree.textTrackers) : tree.next = single.next := by
  rw [fresh.next_of_mem member]
  cases fresh with
  | silent => cases member
  | text defaultLevel filters => rfl
  | collecting next => cases member
  | several _ => rfl

end IsFreshTree

end Tracker

end MemoryFabric
