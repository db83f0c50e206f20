import MemoryFabric.Proofs.Host.Run
import Mathlib.Data.List.Nodup

/-!
# Links and their ports

A graph keeps its links in a list, and beside it an index by name and an index by port.  The calls change
the list and the indexes one by one, so that nothing in the data makes them agree.  `LinksIndexed` says that
both indexes give exactly what the list holds, and that the ends of a link are two ports of components; it is
kept by every step.

**`Recorder.after_portsAgree`** says what follows for the look-ups, after any run: links are found by their
names, a port is bound to the one link that has it as an end, and there are twice as many bound ports as
connected links.
-/

namespace MemoryFabric

set_option autoImplicit false

/-! ## The list of links -/

/-- The ports at the ends of a link; none as long as it is not connected. -/
def Link.ports (link : Link) : List ComponentPort :=
  match link.ends with
  | some (a, b) => [a.componentPort, b.componentPort]
  | none => []

theorem Link.mem_ports_iff {link : Link} {port : ComponentPort} :
    port ∈ link.ports ↔
      ∃ a b, link.ends = some (a, b) ∧ (port = a.componentPort ∨ port = b.componentPort) := by
  rw [ports]
  cases link.ends with
  | none => simp
  | some pair => simp [Prod.ext_iff]

theorem Link.length_ports (links : List Link) :
    (links.flatMap ports).length = 2 * links.countP fun link => link.ends.isSome := by
  induction links with
  | nil => rfl
  | cons link rest ih =>
      rw [List.flatMap_cons, List.length_append, ih, List.countP_cons, ports]
      cases link.ends with
      | none => simp
      | some pair => simp; omega

namespace ComponentGraph

variable {graph next : ComponentGraph}

/-- The name of the link at a position. -/
def linkNameAt? (graph : ComponentGraph) (position : Nat) : Option String :=
  graph.links[position]?.map Link.name

/-- The ports of the link at a position. -/
def portsAt (graph : ComponentGraph) (position : Nat) : List ComponentPort :=
  (graph.links[position]?.map Link.ports).getD []

theorem linkNameAt?_withOpenLink {name : String} {position : Nat} :
    (graph.withOpenLink name).linkNameAt? position =
      if position = graph.links.size then some name else graph.linkNameAt? position := by
  rw [linkNameAt?, withOpenLink, Array.getElem?_push]
  split <;> rfl

theorem portsAt_withOpenLink {name : String} {position : Nat} :
    (graph.withOpenLink name).portsAt position = graph.portsAt position := by
  rw [portsAt, withOpenLink, Array.getElem?_push]
  split
  · next same =>
      rw [portsAt, Array.getElem?_eq_none (Nat.le_of_eq same.symm)]
      rfl
  · rfl

section Ends

variable {handle : LinkHandle} {name : String} {a b : LinkEnd}

theorem linkNameAt?_withEnds {position : Nat} :
    (graph.withEnds handle a b).linkNameAt? position = graph.linkNameAt? position := by
  rw [linkNameAt?, withEnds, Array.getElem?_modify, linkNameAt?]
  split
  · rw [Option.map_map]
    rfl
  · rfl

theorem portsAt_withEnds (unconnected : graph.links[handle.index]? = some ⟨name, none⟩)
    {position : Nat} :
    (graph.withEnds handle a b).portsAt position =
      if handle.index = position then [a.componentPort, b.componentPort]
      else graph.portsAt position := by
  rw [portsAt, withEnds, Array.getElem?_modify]
  split
  · next same =>
      rw [← same, unconnected]
      rfl
  · rfl

end Ends

/-! ## The indexes -/

/-- Both indexes of the links are what the list of links says, and the ends of links are two ports of
components. -/
structure LinksIndexed (graph : ComponentGraph) : Prop where
  named : ∀ name handle,
    graph.linkByName.get? name = some handle ↔ graph.linkNameAt? handle.index = some name
  bound : ∀ port handle,
    graph.linkByPort.get? port = some handle ↔ port ∈ graph.portsAt handle.index
  apart : ∀ link ∈ graph.links, ∀ a b, link.ends = some (a, b) →
    a.componentPort ≠ b.componentPort ∧ a.component.index < graph.components.size ∧
      b.component.index < graph.components.size

theorem linksIndexed_empty : empty.LinksIndexed where
  named _ _ := ⟨nofun, nofun⟩
  bound _ _ := ⟨nofun, nofun⟩
  apart _ member := nomatch member

/-- More components do not touch the links. -/
theorem LinksIndexed.of_same_links (indexed : graph.LinksIndexed) (links : next.links = graph.links)
    (byName : next.linkByName = graph.linkByName) (byPort : next.linkByPort = graph.linkByPort)
    (grown : graph.components.size ≤ next.components.size) : next.LinksIndexed where
  named name handle := by
    rw [byName, linkNameAt?, links]
    exact indexed.named name handle
  bound port handle := by
    rw [byPort, portsAt, links]
    exact indexed.bound port handle
  apart link member a b ends := by
    rw [links] at member
    obtain ⟨different, first, second⟩ := indexed.apart link member a b ends
    exact ⟨different, Nat.lt_of_lt_of_le first grown, Nat.lt_of_lt_of_le second grown⟩

theorem LinksIndexed.withOpenLink (indexed : graph.LinksIndexed) {name : String}
    (fresh : graph.linkByName.contains name = false) : (graph.withOpenLink name).LinksIndexed where
  named other handle := by
    have absent : graph.linkByName.get? name = none := by simpa [SortedMap.contains] using fresh
    have unnamed := indexed.named name handle
    have kept := indexed.named other handle
    have behind : graph.linkNameAt? graph.links.size = none := by simp [linkNameAt?]
    obtain ⟨position⟩ := handle
    rw [linkNameAt?_withOpenLink]
    simp only [ComponentGraph.withOpenLink, SortedMap.get?_insert]
    by_cases same : other = name
    · subst same
      rw [if_pos rfl, Option.some.injEq, LinkHandle.mk.injEq]
      grind
    · grind
  bound port handle := by
    rw [portsAt_withOpenLink]
    exact indexed.bound port handle
  apart link member a b ends := by
    rcases Array.mem_push.1 member with old | rfl
    · exact indexed.apart link old a b ends
    · cases ends

theorem LinksIndexed.withEnds (indexed : graph.LinksIndexed) {handle : LinkHandle} {name : String}
    {a b : LinkEnd} {first second : Component}
    (unconnected : graph.links[handle.index]? = some ⟨name, none⟩)
    (first_found : graph.component? a.component = some first)
    (second_found : graph.component? b.component = some second)
    (different : a.componentPort ≠ b.componentPort)
    (a_free : graph.linkByPort.get? a.componentPort = none)
    (b_free : graph.linkByPort.get? b.componentPort = none) :
    (graph.withEnds handle a b).LinksIndexed where
  named other position := by
    rw [linkNameAt?_withEnds]
    exact indexed.named other position
  bound port position := by
    rw [portsAt_withEnds unconnected]
    have kept := indexed.bound port position
    have a_kept := indexed.bound a.componentPort position
    have b_kept := indexed.bound b.componentPort position
    have none_before : graph.portsAt handle.index = [] := by
      rw [portsAt, unconnected]
      rfl
    obtain ⟨index⟩ := position
    obtain ⟨connected⟩ := handle
    simp only [ComponentGraph.withEnds, SortedMap.get?_insert]
    grind
  apart link member c d ends := by
    obtain ⟨position, found⟩ := Array.mem_iff_getElem?.1 member
    rw [ComponentGraph.withEnds, Array.getElem?_modify] at found
    split at found
    · next same =>
        rw [← same, unconnected] at found
        cases found
        cases ends
        exact ⟨different, (Array.getElem?_eq_some_iff.1 first_found).1,
          (Array.getElem?_eq_some_iff.1 second_found).1⟩
    · exact indexed.apart link (Array.mem_of_getElem? found) c d ends

theorem LinksIndexed.get?_of_linkAt? (indexed : graph.LinksIndexed) {port : ComponentPort}
    (free : graph.linkAt? port = none) : graph.linkByPort.get? port = none := by
  cases bound : graph.linkByPort.get? port with
  | none => rfl
  | some handle =>
      have member := (indexed.bound port handle).1 bound
      rw [portsAt] at member
      cases found : graph.links[handle.index]? with
      | none =>
          rw [found] at member
          cases member
      | some link => simp [linkAt?, bound, found] at free

/-- **Every step keeps the indexes of the links.** -/
theorem LinksIndexed.step (indexed : graph.LinksIndexed) {command : Command}
    (step : graph.Step command next) : next.LinksIndexed := by
  cases step with
  | createComponent kinded named fresh =>
      exact indexed.of_same_links rfl rfl rfl (by simp [push])
  | attachSubcomponent kinded slotted found free =>
      exact indexed.of_same_links rfl rfl rfl (by simp [withSubcomponent, push, modify])
  | setParameters parameters found => exact indexed.of_same_links rfl rfl rfl (by simp [modify])
  | createLink fresh => exact indexed.withOpenLink fresh
  | connect unconnected first second different a_free b_free =>
      exact indexed.withEnds unconnected first second different
        (indexed.get?_of_linkAt? a_free) (indexed.get?_of_linkAt? b_free)
  | configureStatistics setup => exact indexed.of_same_links rfl rfl rfl (Nat.le_refl _)
  | finalize connected => exact indexed.of_same_links rfl rfl rfl (Nat.le_refl _)

/-! ## Look-ups -/

/-- The links of a graph and their ports agree with all look-ups. -/
structure PortsAgree (graph : ComponentGraph) : Prop where
  /-- No two links have one name. -/
  names_nodup : (graph.links.toList.map Link.name).Nodup
  /-- A look-up by name finds the link of the name. -/
  link?_iff : ∀ name link, graph.link? name = some link ↔ link ∈ graph.links ∧ link.name = name
  /-- A port is bound to a link when the link is connected and the port is one of its ends. -/
  bound_iff : ∀ port handle, graph.linkByPort.get? port = some handle ↔
    ∃ link a b, graph.links[handle.index]? = some link ∧ link.ends = some (a, b) ∧
      (port = a.componentPort ∨ port = b.componentPort)
  /-- The ends of a connected link are two ports of components. -/
  ends_apart : ∀ link ∈ graph.links, ∀ a b, link.ends = some (a, b) →
    a.componentPort ≠ b.componentPort ∧ (graph.component? a.component).isSome = true ∧
      (graph.component? b.component).isSome = true
  /-- No port is an end of two links. -/
  ports_nodup : (graph.links.toList.flatMap Link.ports).Nodup
  /-- A look-up by port names the only link that ends there. -/
  linkAt?_of_mem : ∀ link ∈ graph.links, ∀ port ∈ link.ports,
    graph.linkAt? port = some link.name ∧ ∀ other ∈ graph.links, port ∈ other.ports → other = link
  /-- A look-up at any other port finds nothing. -/
  linkAt?_of_not_mem : ∀ port, (∀ link ∈ graph.links, port ∉ link.ports) → graph.linkAt? port = none
  /-- There are two bound ports for every connected link. -/
  boundCount_eq : graph.boundCount = 2 * graph.links.toList.countP fun link => link.ends.isSome

namespace LinksIndexed

variable {link other : Link} {first second : Nat}

theorem mem_portsAt_iff {port : ComponentPort} {position : Nat} :
    port ∈ graph.portsAt position ↔
      ∃ link, graph.links[position]? = some link ∧ port ∈ link.ports := by
  rw [portsAt]
  cases graph.links[position]? <;> simp

/-- Links of one name are at one position. -/
theorem eq_of_name (indexed : graph.LinksIndexed) (found : graph.links[first]? = some link)
    (other_found : graph.links[second]? = some other) (same : link.name = other.name) :
    first = second := by
  have at_first : graph.linkByName.get? link.name = some ⟨first⟩ :=
    (indexed.named _ _).2 (by rw [linkNameAt?, found]; rfl)
  have at_second : graph.linkByName.get? link.name = some ⟨second⟩ :=
    (indexed.named _ _).2 (by rw [linkNameAt?, other_found, same]; rfl)
  exact congrArg LinkHandle.index (Option.some.inj (at_first.symm.trans at_second))

/-- Links with a common port are at one position. -/
theorem eq_of_port (indexed : graph.LinksIndexed) (found : graph.links[first]? = some link)
    (other_found : graph.links[second]? = some other) {port : ComponentPort}
    (member : port ∈ link.ports) (other_member : port ∈ other.ports) : first = second := by
  have at_first : graph.linkByPort.get? port = some ⟨first⟩ :=
    (indexed.bound _ _).2 (mem_portsAt_iff.2 ⟨link, found, member⟩)
  have at_second : graph.linkByPort.get? port = some ⟨second⟩ :=
    (indexed.bound _ _).2 (mem_portsAt_iff.2 ⟨other, other_found, other_member⟩)
  exact congrArg LinkHandle.index (Option.some.inj (at_first.symm.trans at_second))

theorem names_nodup (indexed : graph.LinksIndexed) : (graph.links.toList.map Link.name).Nodup := by
  refine List.pairwise_map.2 (List.pairwise_iff_getElem.2 ?_)
  intro first second first_lt second_lt before same
  refine Nat.ne_of_lt before (indexed.eq_of_name ?_ ?_ same)
  · simp
  · simp

theorem ports_nodup (indexed : graph.LinksIndexed) :
    (graph.links.toList.flatMap Link.ports).Nodup := by
  refine List.nodup_flatMap.2 ⟨fun link member => ?_, List.pairwise_iff_getElem.2 ?_⟩
  · rw [Link.ports]
    cases ends : link.ends with
    | none => exact List.nodup_nil
    | some pair =>
        have different := (indexed.apart link (Array.mem_toList_iff.1 member) _ _ ends).1
        simpa using different
  · intro first second first_lt second_lt before port member other_member
    refine Nat.ne_of_lt before (indexed.eq_of_port ?_ ?_ member other_member)
    · simp
    · simp

theorem link?_iff (indexed : graph.LinksIndexed) (name : String) (link : Link) :
    graph.link? name = some link ↔ link ∈ graph.links ∧ link.name = name := by
  constructor
  · intro found
    obtain ⟨handle, named, found⟩ := Option.bind_eq_some_iff.1 found
    have at_handle := (indexed.named name handle).1 named
    rw [linkNameAt?, found] at at_handle
    exact ⟨Array.mem_of_getElem? found, Option.some.inj at_handle⟩
  · rintro ⟨member, rfl⟩
    obtain ⟨position, found⟩ := Array.mem_iff_getElem?.1 member
    have named : graph.linkByName.get? link.name = some ⟨position⟩ :=
      (indexed.named _ _).2 (by rw [linkNameAt?, found]; rfl)
    exact Option.bind_eq_some_iff.2 ⟨⟨position⟩, named, found⟩

theorem linkAt?_of_mem (indexed : graph.LinksIndexed) (member : link ∈ graph.links)
    {port : ComponentPort} (ended : port ∈ link.ports) :
    graph.linkAt? port = some link.name ∧
      ∀ other ∈ graph.links, port ∈ other.ports → other = link := by
  obtain ⟨position, found⟩ := Array.mem_iff_getElem?.1 member
  constructor
  · have bound : graph.linkByPort.get? port = some ⟨position⟩ :=
      (indexed.bound _ _).2 (mem_portsAt_iff.2 ⟨link, found, ended⟩)
    simp only [linkAt?, bound, Option.bind_eq_bind, Option.bind_some, found]
    rfl
  · intro other other_member other_ended
    obtain ⟨place, other_found⟩ := Array.mem_iff_getElem?.1 other_member
    obtain rfl := indexed.eq_of_port found other_found ended other_ended
    exact Option.some.inj (other_found.symm.trans found)

theorem linkAt?_of_not_mem (indexed : graph.LinksIndexed) {port : ComponentPort}
    (free : ∀ link ∈ graph.links, port ∉ link.ports) : graph.linkAt? port = none := by
  have unbound : graph.linkByPort.get? port = none := by
    refine Option.eq_none_iff_forall_ne_some.2 fun handle bound => ?_
    obtain ⟨link, found, ended⟩ := mem_portsAt_iff.1 ((indexed.bound port handle).1 bound)
    exact free link (Array.mem_of_getElem? found) ended
  simp only [linkAt?, unbound, Option.bind_eq_bind, Option.bind_none]

theorem contains_port_iff (indexed : graph.LinksIndexed) {port : ComponentPort} :
    port ∈ graph.links.toList.flatMap Link.ports ↔ graph.linkByPort.contains port = true := by
  rw [SortedMap.contains, Option.isSome_iff_exists, List.mem_flatMap]
  constructor
  · rintro ⟨link, member, ended⟩
    obtain ⟨position, found⟩ := Array.mem_iff_getElem?.1 (Array.mem_toList_iff.1 member)
    exact ⟨⟨position⟩, (indexed.bound _ _).2 (mem_portsAt_iff.2 ⟨link, found, ended⟩)⟩
  · rintro ⟨handle, bound⟩
    obtain ⟨link, found, ended⟩ := mem_portsAt_iff.1 ((indexed.bound port handle).1 bound)
    exact ⟨link, Array.mem_toList_iff.2 (Array.mem_of_getElem? found), ended⟩

theorem boundCount_eq (indexed : graph.LinksIndexed) :
    graph.boundCount = 2 * graph.links.toList.countP fun link => link.ends.isSome := by
  rw [boundCount, SortedMap.size_eq_length indexed.ports_nodup fun _ => indexed.contains_port_iff,
    Link.length_ports]

/-- Indexes that are right give look-ups that are right. -/
theorem portsAgree (indexed : graph.LinksIndexed) : graph.PortsAgree where
  names_nodup := indexed.names_nodup
  link?_iff := indexed.link?_iff
  bound_iff port handle := by
    rw [indexed.bound, mem_portsAt_iff]
    simp only [Link.mem_ports_iff, exists_and_left]
  ends_apart link member a b ends := by
    obtain ⟨different, first, second⟩ := indexed.apart link member a b ends
    refine ⟨different, ?_, ?_⟩
    · simpa [component?] using first
    · simpa [component?] using second
  ports_nodup := indexed.ports_nodup
  linkAt?_of_mem _ member _ ended := indexed.linkAt?_of_mem member ended
  linkAt?_of_not_mem _ free := indexed.linkAt?_of_not_mem free
  boundCount_eq := indexed.boundCount_eq

end LinksIndexed

end ComponentGraph

namespace Recorder

/-- **After any run on an empty graph the links and their ports agree with all look-ups.** -/
theorem after_portsAgree {first : Recorder} (fresh : first.graph = .empty) (commands : List Command) :
    (first.after commands).graph.PortsAgree := by
  refine (after_keeps (fun _ step indexed => indexed.step step) commands ?_ :
    (first.after commands).graph.LinksIndexed).portsAgree
  rw [fresh]
  exact ComponentGraph.linksIndexed_empty

/-- A run that makes one connection; a link of a port to itself, a link to a bound port, a second connection
of a link and a connection of nothing are refused in it. -/
theorem portsAgree_one_connection : ∃ first, start .silent = .ok first ∧ first.graph = .empty ∧
    ∃ last, last = (first.after
      [.createComponent "kind" "a", .createLink "x", .createLink "y",
        .connect ⟨0⟩ ⟨⟨0⟩, "p", ⟨1⟩⟩ ⟨⟨0⟩, "p", ⟨1⟩⟩, .connect ⟨0⟩ ⟨⟨0⟩, "p", ⟨1⟩⟩ ⟨⟨0⟩, "q", ⟨1⟩⟩,
        .connect ⟨1⟩ ⟨⟨0⟩, "q", ⟨1⟩⟩ ⟨⟨0⟩, "r", ⟨1⟩⟩, .connect ⟨0⟩ ⟨⟨0⟩, "s", ⟨1⟩⟩ ⟨⟨0⟩, "t", ⟨1⟩⟩,
        .connect ⟨7⟩ ⟨⟨0⟩, "s", ⟨1⟩⟩ ⟨⟨9⟩, "t", ⟨1⟩⟩]).graph ∧
      last.PortsAgree ∧ last.linkAt? ⟨⟨0⟩, "q"⟩ = some "x" ∧ last.boundCount = 2 :=
  ⟨_, rfl, rfl, _, rfl, after_portsAgree rfl _, by decide +kernel, by decide +kernel⟩

end Recorder

end MemoryFabric
