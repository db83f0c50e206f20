import MemoryFabric.Proofs.Fabric.Outcome
import MemoryFabric.Proofs.Host.Extension

/-!
# Builds that extend a graph

A build changes components that it has created and connects links that it has created, so that it leaves alone
whatever a graph had before, and it does so wherever it stops.  `Build.Extends` says this of a build on all
recorders whose graph extends a given one.  There is one rule for each way to put builds together, and a handle
by which a later step changes something has to be younger than the given graph.

All phases but the last one extend every graph (`Partitioned.extends_create`, `Partitioned.extends_populate`,
`Populated.extends_link`).
-/

namespace MemoryFabric

set_option autoImplicit false

namespace Build

/-- On every recorder with a graph that extends the base, the build extends it further, wherever it stops, and
has a value as described if it has one. -/
def Extends {α : Type} (build : Build α) (base : ComponentGraph) (result : α → Prop) : Prop :=
  ∀ recorder : Recorder, base.ExtendedBy recorder.graph →
    base.ExtendedBy (build.run.run Recorder.host recorder).2.graph ∧
      ∀ value, (build.run.run Recorder.host recorder).1 = .ok value → result value

/-! ## Rules -/

section Rules

variable {α β : Type} {build : Build α} {base : ComponentGraph} {middle result : α → Prop}

theorem Extends.trivially (extending : build.Extends base result) :
    build.Extends base fun _ => True :=
  fun recorder extended => ⟨(extending recorder extended).1, fun _ _ => trivial⟩

theorem Extends.pure {value : α} (holds : result value) :
    (Pure.pure value : Build α).Extends base result :=
  fun _ extended => ⟨extended, fun _ same => Except.ok.inj same ▸ holds⟩

/-- **One build after another extends a graph when both do.** -/
theorem Extends.bind {rest : α → Build β} {result : β → Prop} (first : build.Extends base middle)
    (second : ∀ value, middle value → (rest value).Extends base result) :
    (build >>= rest).Extends base result := by
  intro recorder extended
  obtain ⟨extended, holds⟩ := first recorder extended
  cases ran : build.run.run Recorder.host recorder with
  | mk outcome between =>
      rw [ran] at extended holds
      cases outcome with
      | ok value =>
          rw [run_bind_ok ran]
          exact second value (holds value rfl) between extended
      | error failure =>
          rw [run_bind_error ran]
          exact ⟨extended, nofun⟩

theorem Extends.orRelease (extending : build.Extends base result) (entities : List EntityHandle) :
    (build.orRelease entities).Extends base result := by
  intro recorder extended
  obtain ⟨same, kept⟩ := run_orRelease build entities recorder
  rw [same, kept]
  exact extending recorder extended

theorem extends_ofBuilt (built : Built α) : (ofBuilt built).Extends base fun _ => True :=
  fun _ extended => ⟨extended, fun _ _ => trivial⟩

/-- A command extends a graph that it spares. -/
theorem extends_perform {command : Command} (spares : base.Spares command) :
    (perform command).Extends base (base.AnsweredLater command) := by
  intro recorder extended
  rw [run_perform]
  refine ⟨extended.answer spares, fun value answered => extended.answeredLater ?_⟩
  exact Attempt.mapError_eq_ok_iff.1 answered

end Rules

/-! ## Calls -/

section Calls

variable {base : ComponentGraph} {parent component : ComponentHandle} {link : LinkHandle}

theorem extends_createComponent (kind name : String) :
    (createComponent kind name).Extends base base.Predates :=
  @extends_perform base (.createComponent kind name) trivial

theorem extends_attachSubcomponent (later : base.Predates parent) (slot kind : String) :
    (attachSubcomponent parent slot kind).Extends base base.Predates :=
  @extends_perform base (.attachSubcomponent parent slot kind) later

theorem extends_setParameters (later : base.Predates component) (parameters : Parameters) :
    (setParameters component parameters).Extends base fun _ => True :=
  @extends_perform base (.setParameters component parameters) later

theorem extends_createLink (name : String) : (createLink name).Extends base base.PredatesLink :=
  @extends_perform base (.createLink name) trivial

theorem extends_connect (later : base.PredatesLink link) (a b : LinkEnd) :
    (connect link a b).Extends base fun _ => True :=
  @extends_perform base (.connect link a b) later

theorem extends_configureStatistics (setup : StatisticsSetup) :
    (configureStatistics setup).Extends base fun _ => True :=
  @extends_perform base (.configureStatistics setup) trivial

theorem extends_createEntity (parent : EntityHandle) (name : String) :
    (createEntity parent name).Extends base fun _ => True :=
  @extends_perform base (.createEntity parent name) trivial

theorem extends_log (entity : EntityHandle) (level : Level) (text : String) :
    (log entity level text).Extends base fun _ => True :=
  @extends_perform base (.log entity level text) trivial

theorem extends_portOf (component : ComponentHandle) (port : String) :
    (portOf component port).Extends base fun _ => True :=
  (@extends_perform base (.componentName component) trivial).bind fun _ _ => .pure trivial

theorem extends_createWith (kind name : String) (parameters : Parameters) :
    (createWith kind name parameters).Extends base base.Predates := by
  refine (extends_createComponent kind name).bind fun component later => ?_
  exact (extends_setParameters later parameters).bind fun _ _ => .pure later

theorem extends_attachWith (later : base.Predates parent) (slot kind : String)
    (parameters : Parameters) : (attachWith parent slot kind parameters).Extends base base.Predates := by
  refine (extends_attachSubcomponent later slot kind).bind fun component later => ?_
  exact (extends_setParameters later parameters).bind fun _ _ => .pure later

end Calls

end Build

/-! ## Creating the nodes -/

section Creating

variable {base : ComponentGraph} (settings : Settings)

namespace ProcessingNode

theorem extends_createProgram (entity : EntityHandle) {component : ComponentHandle}
    (later : base.Predates component) (index : Nat) :
    (createProgram settings entity component index).Extends base fun _ => True := by
  refine (Build.extends_ofBuilt _).bind fun placement _ => ?_
  refine (Build.extends_setParameters later _).bind fun _ _ => ?_
  refine (Build.extends_log _ _ _).bind fun _ _ => ?_
  refine (Build.extends_attachWith later _ _ _).bind fun controller later => ?_
  exact (Build.extends_attachWith later _ _ _).trivially

theorem extends_createGenerator (entity : EntityHandle) {component : ComponentHandle}
    (later : base.Predates component) (index : Nat) (workload : String) :
    (createGenerator settings entity component index workload).Extends base fun _ => True := by
  refine (Build.extends_setParameters later _).bind fun _ _ => ?_
  refine (Build.extends_log _ _ _).bind fun _ _ => ?_
  exact (Build.extends_attachWith later _ _ _).bind fun _ _ => .pure trivial

theorem extends_createClient (entity : EntityHandle) {component : ComponentHandle}
    (later : base.Predates component) (index : Nat) (core : Core) :
    (createClient settings entity component index core).Extends base fun _ => True := by
  cases core with
  | program => exact extends_createProgram settings entity later index
  | generator workload => exact extends_createGenerator settings entity later index workload

theorem extends_create (parent : EntityHandle) (core : Core) (index : Nat) :
    (create parent settings core index).Extends base fun _ => True := by
  refine (Build.extends_createEntity _ _).bind fun entity _ => Build.Extends.orRelease ?_ _
  refine (Build.extends_createComponent _ _).bind fun component later => ?_
  refine (extends_createClient settings entity later index core).bind fun client _ => ?_
  exact (Build.extends_createWith _ _ _).bind fun cache _ => .pure trivial

end ProcessingNode

namespace Cluster

theorem extends_createNodes (entity : EntityHandle) (core : Core) (created : List ProcessingNode)
    (indices : List Nat) :
    (createNodes entity settings core created indices).Extends base fun _ => True := by
  induction indices generalizing created with
  | nil => exact .pure trivial
  | cons index rest ih =>
      exact ((ProcessingNode.extends_create settings entity core index).orRelease _).bind
        fun node _ => ih _

theorem extends_createShared (entity : EntityHandle) (cacheNode : Nat) (ports : List PortId)
    (nodes : List ProcessingNode) :
    (createShared entity settings cacheNode ports nodes).Extends base fun _ => True := by
  refine (Build.extends_createWith _ _ _).bind fun bus _ => ?_
  refine (Build.extends_createWith _ _ _).bind fun cache later => ?_
  refine (Build.extends_attachWith later _ _ _).bind fun memoryLink _ => ?_
  refine (Build.extends_attachWith later _ _ _).bind fun interface _ => ?_
  refine (Build.extends_portOf _ _).bind fun uplink _ => ?_
  exact (Build.extends_log _ _ _).bind fun _ _ => .pure trivial

theorem extends_create (parent : EntityHandle) (cacheNode : Nat) :
    (create parent settings cacheNode).Extends base fun _ => True := by
  refine (Build.extends_ofBuilt _).bind fun ports _ => ?_
  refine (Build.extends_createEntity _ _).bind fun entity _ => Build.Extends.orRelease ?_ _
  refine (extends_createNodes settings entity _ [] _).bind fun nodes _ => ?_
  exact (extends_createShared settings entity cacheNode ports nodes).orRelease _

end Cluster

namespace MemoryNode

theorem extends_create (parent : EntityHandle) (descriptor : NodeDescriptor) :
    (create parent settings descriptor).Extends base fun _ => True := by
  refine (Build.extends_createEntity _ _).bind fun entity _ => Build.Extends.orRelease ?_ _
  refine (Build.extends_createWith _ _ _).bind fun controller later => ?_
  refine (Build.extends_attachWith later _ _ _).bind fun accelerator within => ?_
  refine (Build.extends_attachWith within _ _ _).bind fun storage _ => ?_
  refine (Build.extends_attachWith later _ _ _).bind fun interface _ => ?_
  refine (Build.extends_portOf _ _).bind fun uplink _ => ?_
  refine (Build.extends_log _ _ _).bind fun _ _ => ?_
  exact (Build.extends_log _ _ _).bind fun _ _ => .pure trivial

theorem extends_createAll (parent : EntityHandle) (created : List MemoryNode)
    (descriptors : List NodeDescriptor) :
    (createAll parent settings created descriptors).Extends base fun _ => True := by
  induction descriptors generalizing created with
  | nil => exact .pure trivial
  | cons descriptor rest ih =>
      exact ((extends_create settings parent descriptor).orRelease _).bind fun node _ => ih _

end MemoryNode

theorem Partitioned.extends_create (fabric : EntityHandle) :
    (create fabric settings).Extends base fun _ => True := by
  refine (Build.extends_ofBuilt _).bind fun partitioned _ => ?_
  exact (Build.extends_log _ _ _).bind fun _ _ => .pure trivial

theorem Partitioned.extends_populate (fabric : EntityHandle) (partitioned : Partitioned) :
    (partitioned.populate fabric).Extends base fun _ => True := by
  refine (Cluster.extends_create partitioned.settings fabric _).bind fun cluster _ => ?_
  refine ((MemoryNode.extends_createAll partitioned.settings fabric [] _).orRelease _).bind
    fun memoryNodes _ => ?_
  exact (Build.extends_log _ _ _).bind fun _ _ => .pure trivial

end Creating

/-! ## Linking -/

namespace Wiring

/-- With every ledger the wiring extends the graph. -/
def Extends {α : Type} (wiring : Wiring α) (base : ComponentGraph) : Prop :=
  ∀ ledger, (wiring.runWith ledger).Extends base fun _ => True

variable {α β : Type} {wiring : Wiring α} {base : ComponentGraph}

theorem Extends.pure (value : α) : (Pure.pure value : Wiring α).Extends base :=
  fun ledger => @Build.Extends.pure _ base _ (value, ledger) trivial

theorem Extends.bind {rest : α → Wiring β} (first : wiring.Extends base)
    (second : ∀ value, (rest value).Extends base) : (wiring >>= rest).Extends base := by
  intro ledger
  rw [runWith_bind]
  exact (first ledger).bind fun value _ => second value.1 value.2

theorem extends_ofBuild {build : Build α} (extending : build.Extends base fun _ => True) :
    (ofBuild build).Extends base := by
  intro ledger
  rw [runWith_ofBuild]
  exact extending.bind fun _ _ => .pure trivial

theorem extends_ofLedger (change : WiringLedger → Except BuildError Unit × WiringLedger) :
    (ofLedger change).Extends base :=
  fun ledger => Build.extends_ofBuilt ((Attempt.reporting (change ledger).1).map fun value =>
    (value, (change ledger).2))

theorem extends_expectAll (ports : List PortId) : (expectAll ports).Extends base := by
  induction ports with
  | nil => exact .pure ()
  | cons port rest ih => exact (extends_ofLedger _).bind fun _ => ih

theorem extends_connect (name : String) (a b : Terminal) (latency : Latency) :
    (connect name a b latency).Extends base := by
  refine (extends_ofLedger _).bind fun _ => (extends_ofLedger _).bind fun _ => extends_ofBuild ?_
  exact (Build.extends_createLink name).bind fun link later => Build.extends_connect later _ _

end Wiring

section Linking

variable {base : ComponentGraph}

theorem ProcessingNode.extends_wire (node : ProcessingNode) (latency : Latency) :
    (node.wire latency).Extends base :=
  (Wiring.extends_ofBuild (Build.extends_portOf _ _)).bind fun _ => Wiring.extends_connect _ _ _ _

namespace Cluster

theorem extends_nodePorts (nodes : List ProcessingNode) :
    (nodePorts nodes).Extends base fun _ => True := by
  induction nodes with
  | nil => exact .pure trivial
  | cons node rest ih =>
      exact (Build.extends_portOf _ _).bind fun _ _ => ih.bind fun _ _ => .pure trivial

theorem extends_expectedPorts (cluster : Cluster) :
    cluster.expectedPorts.Extends base fun _ => True := by
  refine (extends_nodePorts cluster.nodes).bind fun ports _ => ?_
  exact (Build.extends_portOf _ _).bind fun _ _ => .pure trivial

theorem extends_wireNodes (bus : ComponentHandle) (latency : Latency)
    (nodes : List (ProcessingNode × PortId)) : (wireNodes bus latency nodes).Extends base := by
  induction nodes with
  | nil => exact .pure ()
  | cons entry rest ih =>
      exact (entry.1.extends_wire latency).bind fun _ =>
        (Wiring.extends_connect _ _ _ _).bind fun _ => ih

theorem extends_wire (cluster : Cluster) (latency : Latency) : (cluster.wire latency).Extends base := by
  refine (extends_wireNodes _ _ _).bind fun _ => ?_
  exact (Wiring.extends_ofBuild (Build.extends_portOf _ _)).bind fun _ =>
    Wiring.extends_connect _ _ _ _

end Cluster

namespace Populated

theorem extends_expectPorts (fabric : Populated) (ports : RouterPorts) :
    (fabric.expectPorts ports).Extends base := by
  refine (Wiring.extends_ofBuild fabric.cluster.extends_expectedPorts).bind fun expected => ?_
  refine (Wiring.extends_expectAll _).bind fun _ => (Wiring.extends_ofLedger _).bind fun _ => ?_
  exact (Wiring.extends_expectAll _).bind fun _ => Wiring.extends_expectAll _

theorem extends_createRouter (settings : Settings) (ports : RouterPorts) :
    (createRouter settings ports).Extends base fun _ => True := by
  refine (Build.extends_createWith _ _ _).bind fun router later => ?_
  exact (Build.extends_attachSubcomponent later _ _).bind fun _ _ => .pure trivial

theorem extends_wireMemoryNodes (router : ComponentHandle) (latency : Latency)
    (nodes : List (MemoryNode × PortId)) : (wireMemoryNodes router latency nodes).Extends base := by
  induction nodes with
  | nil => exact .pure ()
  | cons entry rest ih => exact (Wiring.extends_connect _ _ _ _).bind fun _ => ih

theorem extends_wire (fabric : Populated) (ports : RouterPorts) (latency : Latency) :
    (fabric.wire ports latency).Extends base := by
  refine (fabric.extends_expectPorts ports).bind fun _ => ?_
  refine (fabric.cluster.extends_wire latency).bind fun _ => ?_
  refine (Wiring.extends_ofBuild (extends_createRouter _ ports)).bind fun router => ?_
  refine (Wiring.extends_connect _ _ _ _).bind fun _ => ?_
  refine (extends_wireMemoryNodes router latency _).bind fun _ => ?_
  exact (Wiring.extends_ofLedger _).bind fun _ => .pure router

theorem extends_link (fabric : EntityHandle) (populated : Populated) :
    (populated.link fabric).Extends base fun _ => True := by
  refine Build.Extends.orRelease ?_ _
  refine (Build.extends_ofBuilt _).bind fun latency _ => ?_
  refine (Build.extends_ofBuilt _).bind fun ports _ => ?_
  refine (populated.extends_wire ports latency .empty).bind fun wired _ => ?_
  exact (Build.extends_log _ _ _).bind fun _ _ => .pure trivial

end Populated

end Linking

end MemoryFabric
