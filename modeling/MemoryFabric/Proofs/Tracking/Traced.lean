import MemoryFabric.Proofs.Tracking.Groups

/-!
# Trackers that trace every entity

What a tracker has received while it came to another state is the list of the events that it was enabled for
(`Receives`).  A collecting tracker has collected them, and a text tracker has written a line about each.
A tracker under which all entities are enabled at the most detailed level records every event of these
entities (`Watches.records`), and the next entity gets an identifier that none of them has
(`Watches.enrols`).

A tracker traces a name when an entity of that name is enabled at the most detailed level (`traces`).  In a
group one member is enough for each name.  A tracker that traces all names, and that knows no identifier that
is still to be given, enables every entity that is created under it (`TracesAll.enrols`).
-/

namespace MemoryFabric

set_option autoImplicit false

namespace Tracker

/-! ## Traced names -/

mutual

/-- Whether entities of a name are enabled at the most detailed level. -/
def traces (name : String) : Tracker → Bool
  | .silent => false
  | .text registry _ => registry.levelOf name = .trace
  | .collecting _ _ => true
  | .several _ trackers => anyTraces name trackers

/-- Whether one of several trackers traces a name. -/
def anyTraces (name : String) : List Tracker → Bool
  | [] => false
  | tracker :: rest => tracker.traces name || anyTraces name rest

end

/-- The trackers decide in the same way about every event. -/
structure DecidesAs (before after : Tracker) : Prop where
  isEnabled : ∀ identifier level, after.isEnabled identifier level = before.isEnabled identifier level
  traces : ∀ name, after.traces name = before.traces name

theorem DecidesAs.refl (tracker : Tracker) : DecidesAs tracker tracker := ⟨fun _ _ => rfl, fun _ => rfl⟩

theorem DecidesAs.cons {before after : Tracker} {next : UInt64} {former later : List Tracker}
    (first : DecidesAs before after) (others : DecidesAs (.several next former) (.several next later)) :
    DecidesAs (.several next (before :: former)) (.several next (after :: later)) where
  isEnabled identifier level := congrArg₂ or (first.isEnabled identifier level)
    (others.isEnabled identifier level)
  traces name := congrArg₂ or (first.traces name) (others.traces name)

mutual

/-- The record of an event decides nothing. -/
theorem record_decidesAs (event : Event) : ∀ tracker : Tracker, DecidesAs tracker (tracker.record event)
  | .silent => .refl _
  | .text _ _ => ⟨fun _ _ => rfl, fun _ => rfl⟩
  | .collecting _ _ => ⟨fun _ _ => rfl, fun _ => rfl⟩
  | .several _ trackers => observeAll_decidesAs event trackers

theorem observeAll_decidesAs (event : Event) {next : UInt64} : ∀ trackers : List Tracker,
    DecidesAs (.several next trackers) (.several next (observeAll event trackers))
  | [] => .refl _
  | tracker :: rest => by
      refine DecidesAs.cons ?_ (observeAll_decidesAs event rest)
      split
      · exact record_decidesAs event tracker
      · exact .refl _

end

theorem observe_decidesAs (event : Event) (tracker : Tracker) : DecidesAs tracker (tracker.observe event) := by
  rw [observe]
  split
  · exact record_decidesAs event tracker
  · exact .refl tracker

theorem withNext_decidesAs (tracker : Tracker) (next : UInt64) :
    DecidesAs tracker (tracker.withNext next) := by
  cases tracker <;> exact ⟨fun _ _ => rfl, fun _ => rfl⟩

/-! ## Registrations -/

/-- What the registration of an entity changes: nothing but what is enabled for this entity. -/
structure Admits (identifier : UInt64) (name : String) (before after : Tracker) : Prop where
  others : ∀ other level, other ≠ identifier → after.isEnabled other level = before.isEnabled other level
  traces : ∀ wanted, after.traces wanted = before.traces wanted
  /-- The entity is enabled when its name is traced. -/
  traced : before.traces name = true → after.isEnabled identifier .trace = true

section Registrations

variable {bound : Nat} {identifier : UInt64} {name : String}

theorem Admits.cons {before after : Tracker} {next : UInt64} {former later : List Tracker}
    (first : Admits identifier name before after)
    (rest : Admits identifier name (.several next former) (.several next later)) :
    Admits identifier name (.several next (before :: former)) (.several next (after :: later)) where
  others other level different := congrArg₂ or (first.others other level different)
    (rest.others other level different)
  traces wanted := congrArg₂ or (first.traces wanted) (rest.traces wanted)
  traced traced := Bool.or_eq_true_iff.2 ((Bool.or_eq_true_iff.1 traced).imp first.traced rest.traced)

theorem text_admits {registry : Registry} {lines : Array String}
    (opened : registry.levels.contains identifier.toNat = false) :
    Admits identifier name (.text registry lines)
      ((Tracker.text registry lines).register identifier name).2 := by
  by_cases plain : registry.levelOf name = registry.defaultLevel
  · have same : ((Tracker.text registry lines).register identifier name).2 = .text registry lines := by
      simp only [register, Registry.register, if_pos plain]
    have unlisted : registry.levels.get? identifier.toNat = none :=
      Option.isNone_iff_eq_none.1 (Option.isSome_eq_false_iff.1 opened)
    rw [same]
    refine ⟨fun _ _ _ => rfl, fun _ => rfl, fun traced => ?_⟩
    have level : registry.defaultLevel = .trace := plain.symm.trans (of_decide_eq_true traced)
    rw [isEnabled, Registry.isEnabled, unlisted, Option.getD_none, level]
    rfl
  · have listed : ((Tracker.text registry lines).register identifier name).2 =
        .text { registry with levels := registry.levels.insert identifier.toNat (registry.levelOf name) }
          lines := by
      simp only [register, Registry.register, if_neg plain]
    rw [listed]
    refine ⟨fun other level different => ?_, fun _ => rfl, fun traced => ?_⟩
    · have elsewhere : other.toNat ≠ identifier.toNat := fun same => different (UInt64.toNat_inj.1 same)
      simp only [isEnabled, Registry.isEnabled, SortedMap.get?_insert, if_neg elsewhere]
    · have level : registry.levelOf name = .trace := of_decide_eq_true traced
      simp only [isEnabled, Registry.isEnabled, SortedMap.get?_insert, if_pos, Option.getD_some, level]
      rfl

/-- Where the identifier is new, every member of a group registers the entity. -/
theorem registerAll_eq (above : bound ≤ identifier.toNat) {trackers : List Tracker}
    (opened : AreOpenFrom bound trackers) :
    registerAll identifier name trackers =
      (none, trackers.map fun tracker => (tracker.register identifier name).2) := by
  induction trackers with
  | nil => rfl
  | cons tracker rest ih =>
      obtain ⟨first, others⟩ := opened
      have accepted : tracker.register identifier name = (none, (tracker.register identifier name).2) :=
        Prod.ext (register_of_isOpenFrom name above tracker first).1 rfl
      rw [registerAll, accepted]
      simp only [ih others, List.map_cons]

mutual

/-- **A registration under a new identifier enables the entity when its name is traced.** -/
theorem register_admits (above : bound ≤ identifier.toNat) : ∀ tracker : Tracker,
    tracker.IsOpenFrom bound → Admits identifier name tracker (tracker.register identifier name).2
  | .silent, _ => ⟨fun _ _ _ => rfl, fun _ => rfl, nofun⟩
  | .text _ _, opened => text_admits (opened _ above)
  | .collecting _ _, _ => ⟨fun _ _ _ => rfl, fun _ => rfl, fun _ => rfl⟩
  | .several _ trackers, opened => by
      rw [register, registerAll_eq above opened]
      exact registerAll_admits above trackers opened

theorem registerAll_admits (above : bound ≤ identifier.toNat) {next : UInt64} :
    ∀ trackers : List Tracker, AreOpenFrom bound trackers →
      Admits identifier name (.several next trackers)
        (.several next (trackers.map fun tracker => (tracker.register identifier name).2))
  | [], _ => ⟨fun _ _ _ => rfl, fun _ => rfl, nofun⟩
  | tracker :: rest, ⟨first, others⟩ =>
      (register_admits above tracker first).cons (registerAll_admits above rest others)

end

end Registrations

/-! ## What a tracker receives -/

/-- A tracker comes to another state by giving identifiers, by registering names under them, accepted or not,
and by recording these events, each of which is enabled. -/
inductive Receives (before : Tracker) : List Event → Tracker → Prop
  | nothing : Receives before [] before
  | enrols {events : List Event} {between given : Tracker} {identifier : UInt64}
      (earlier : Receives before events between)
      (given_eq : between.freshIdentifier = .ok (identifier, given)) (name : String) :
      Receives before events (given.register identifier name).2
  | records {events : List Event} {between : Tracker} {event : Event}
      (earlier : Receives before events between)
      (enabled : between.isEnabled event.actor event.level = true) :
      Receives before (events ++ [event]) (between.record event)

section Receives

variable {events : List Event} {after : Tracker} {next : UInt64} {seen : Array Event} {registry : Registry}
  {lines : Array String}

/-- A collecting tracker has collected what it has received. -/
theorem Receives.collected (received : (Tracker.collecting next seen).Receives events after) :
    ∃ later, after = .collecting later (seen ++ events.toArray) := by
  induction received with
  | nothing => exact ⟨next, by simp⟩
  | enrols earlier given_eq name ih =>
      obtain ⟨later, rfl⟩ := ih
      simp only [freshIdentifier, Attempt.bind_eq_ok_iff, Attempt.pure_eq_ok_iff, Prod.mk.injEq] at given_eq
      obtain ⟨latest, _, _, rfl⟩ := given_eq
      exact ⟨latest, rfl⟩
  | records earlier enabled ih =>
      obtain ⟨later, rfl⟩ := ih
      exact ⟨later, by simp [record]⟩

/-- A text tracker has written a line about everything that it has received. -/
theorem Receives.written (received : (Tracker.text registry lines).Receives events after) :
    ∃ later, after = .text later (lines ++ (events.map Event.written).toArray) := by
  induction received with
  | nothing => exact ⟨registry, by simp⟩
  | enrols earlier given_eq name ih =>
      obtain ⟨later, rfl⟩ := ih
      simp only [freshIdentifier, Attempt.bind_eq_ok_iff, Attempt.pure_eq_ok_iff, Prod.mk.injEq] at given_eq
      obtain ⟨latest, _, _, rfl⟩ := given_eq
      exact ⟨_, rfl⟩
  | records earlier enabled ih =>
      obtain ⟨later, rfl⟩ := ih
      exact ⟨later, by simp [record]⟩

/-- An event is received when it is enabled, and otherwise nothing is. -/
theorem Receives.observe {before tracker : Tracker} (received : before.Receives events tracker)
    (event : Event) : ∃ more, before.Receives (events ++ more) (tracker.observe event) ∧
      (more = [event] ∨ more = [] ∧ tracker.isEnabled event.actor event.level = false) := by
  rw [Tracker.observe]
  split
  · next enabled => exact ⟨[event], received.records enabled, .inl rfl⟩
  · next disabled =>
      exact ⟨[], (List.append_nil events).symm ▸ received, .inr ⟨rfl, Bool.eq_false_iff.2 disabled⟩⟩

end Receives

/-! ## Entities under a tracker -/

/-- The identifier that is given is the next one, and the counter goes on by one. -/
theorem eq_of_freshIdentifier {tracker given : Tracker} {identifier : UInt64} (counts : tracker ≠ .silent)
    (given_eq : tracker.freshIdentifier = .ok (identifier, given)) :
    identifier = tracker.next ∧
      ∃ after, given = tracker.withNext after ∧ after.toNat = tracker.next.toNat + 1 := by
  rw [freshIdentifier_eq counts] at given_eq
  obtain ⟨after, added, same⟩ := Attempt.map_eq_ok_iff.1 given_eq
  cases same
  exact ⟨rfl, after, rfl, (Word.add_eq_ok_iff.1 added).symm⟩

theorem next_enrolled {tracker given : Tracker} {identifier : UInt64} (counts : tracker ≠ .silent)
    (given_eq : tracker.freshIdentifier = .ok (identifier, given)) (name : String) :
    (given.register identifier name).2.next.toNat = tracker.next.toNat + 1 := by
  obtain ⟨_, after, rfl, after_toNat⟩ := eq_of_freshIdentifier counts given_eq
  rw [register_withNext, next_withNext (register_ne_silent counts)]
  exact after_toNat

/-- These are the identifiers that the tracker has given to entities, each of which it traces. -/
structure Watches (identifiers : List UInt64) (tracker : Tracker) : Prop where
  given : ∀ identifier ∈ identifiers, identifier.toNat < tracker.next.toNat
  distinct : identifiers.Nodup
  enabled : ∀ identifier ∈ identifiers, tracker.isEnabled identifier .trace = true

namespace Watches

variable {identifiers : List UInt64} {tracker : Tracker} (watches : tracker.Watches identifiers)

include watches

theorem observe (event : Event) : (tracker.observe event).Watches identifiers := by
  refine ⟨?_, watches.distinct, fun identifier member => ?_⟩
  · rw [next_observe]
    exact watches.given
  · rw [(observe_decidesAs event tracker).isEnabled]
    exact watches.enabled identifier member

/-- **Every detail about an entity that has an identifier is received.** -/
theorem records {event : Event} (member : event.actor ∈ identifiers) (detailed : event.level = .trace)
    {before : Tracker} {events : List Event} (received : before.Receives events tracker) :
    before.Receives (events ++ [event]) (tracker.observe event) := by
  have enabled : tracker.isEnabled event.actor event.level = true :=
    detailed ▸ watches.enabled event.actor member
  rw [Tracker.observe, if_pos enabled]
  exact received.records enabled

section Enrolment

variable {identifier : UInt64} {given : Tracker}
  (given_eq : tracker.freshIdentifier = .ok (identifier, given))

include given_eq

/-- A name that is registered without an entity uses an identifier up. -/
theorem refuses (name : String) (enabled : ∀ other ∈ identifiers,
    (given.register identifier name).2.isEnabled other .trace = true) :
    (given.register identifier name).2.Watches identifiers := by
  refine ⟨fun other member => ?_, watches.distinct, enabled⟩
  have below := watches.given other member
  have counts : tracker ≠ .silent := by
    rintro rfl
    exact absurd below (Nat.not_lt_zero _)
  rw [next_enrolled counts given_eq name]
  exact Nat.lt_succ_of_lt below

/-- **The next entity gets an identifier that no other has.** -/
theorem enrols (name : String) (enabled : ∀ other ∈ identifiers ++ [identifier],
    (given.register identifier name).2.isEnabled other .trace = true) :
    (given.register identifier name).2.Watches (identifiers ++ [identifier]) := by
  have counts : tracker ≠ .silent := by
    rintro rfl
    cases given_eq
    cases enabled 0 (List.mem_append_right _ List.mem_cons_self)
  have next_eq := next_enrolled counts given_eq name
  obtain ⟨rfl, _⟩ := eq_of_freshIdentifier counts given_eq
  have new : tracker.next ∉ identifiers := fun member => Nat.lt_irrefl _ (watches.given tracker.next member)
  refine ⟨?_, ?_, enabled⟩
  · rw [next_eq]
    exact List.forall_mem_append.2 ⟨fun other member => Nat.lt_succ_of_lt (watches.given other member),
      List.forall_mem_singleton.2 (Nat.lt_succ_self _)⟩
  · rw [List.nodup_append_comm]
    exact List.nodup_cons.2 ⟨new, watches.distinct⟩

end Enrolment

end Watches

/-! ## Trackers that trace all names -/

/-- The tracker traces all names, and knows no identifier that is still to be given. -/
structure TracesAll (tracker : Tracker) : Prop where
  traces : ∀ name, tracker.traces name = true
  opened : tracker.IsOpenFrom tracker.next.toNat

namespace TracesAll

variable {tracker : Tracker} (all : tracker.TracesAll)

include all

theorem ne_silent : tracker ≠ .silent := by
  rintro rfl
  cases all.traces ""

/-- **A new identifier is accepted with any name**, and its entity is traced, as the others are. -/
theorem enrols {identifier : UInt64} {given : Tracker}
    (given_eq : tracker.freshIdentifier = .ok (identifier, given)) (name : String) :
    (given.register identifier name).1 = none ∧ (given.register identifier name).2.TracesAll ∧
      (given.register identifier name).2.isEnabled identifier .trace = true ∧
        ∀ other, other ≠ identifier →
          (given.register identifier name).2.isEnabled other .trace = tracker.isEnabled other .trace := by
  have next_eq := next_enrolled all.ne_silent given_eq name
  obtain ⟨rfl, after, rfl, _⟩ := eq_of_freshIdentifier all.ne_silent given_eq
  have decides := withNext_decidesAs tracker after
  have given_opened : (tracker.withNext after).IsOpenFrom tracker.next.toNat :=
    isOpenFrom_withNext.2 all.opened
  obtain ⟨accepted, opened⟩ := register_of_isOpenFrom name (Nat.le_refl _) _ given_opened
  have admits : Admits tracker.next name (tracker.withNext after) _ :=
    register_admits (Nat.le_refl _) _ given_opened
  have traces (wanted : String) : (tracker.withNext after).traces wanted = true :=
    (decides.traces wanted).trans (all.traces wanted)
  refine ⟨accepted, ⟨fun wanted => (admits.traces wanted).trans (traces wanted), ?_⟩,
    admits.traced (traces name), fun other different => ?_⟩
  · rw [next_eq]
    exact opened
  · rw [admits.others other .trace different, decides.isEnabled]

theorem record (event : Event) : (tracker.record event).TracesAll where
  traces name := ((record_decidesAs event tracker).traces name).trans (all.traces name)
  opened := by
    have same : (tracker.record event).next = tracker.next := by cases tracker <;> rfl
    rw [same]
    exact (record_isOpenFrom event tracker).2 all.opened

end TracesAll

/-- A tracker that traces all names goes on doing so. -/
theorem Receives.tracesAll {before after : Tracker} {events : List Event}
    (received : before.Receives events after) (all : before.TracesAll) : after.TracesAll := by
  induction received with
  | nothing => exact all
  | enrols _ given_eq name ih => exact (ih.enrols given_eq name).2.1
  | records _ _ ih => exact ih.record _

theorem IsFreshTree.tracesAll {tree : Tracker} (fresh : tree.IsFreshTree)
    (traces : ∀ name, tree.traces name = true) : tree.TracesAll := ⟨traces, fresh.isOpenFrom⟩

end Tracker

end MemoryFabric
