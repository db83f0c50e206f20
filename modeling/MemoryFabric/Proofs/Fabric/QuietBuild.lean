import MemoryFabric.Proofs.Fabric.WiringYields
import MemoryFabric.Proofs.Host.Messages

/-!
# Builds that log no errors

The phases of a build log their progress, for information or for debugging, and nothing else; errors are logged
by whoever runs the phases.  `Build.Quiet` says so of a build as a program, whatever its host answers, so that it
holds wherever the build stops.  There is one rule for each way to put builds together, and letting go of entities
asks for no message at all.

Main statement: **`Topology.quiet_runPhases`**.
-/

namespace MemoryFabric

set_option autoImplicit false

/-- A level at which progress is logged. -/
def Level.IsQuiet (level : Level) : Prop := level = .info ∨ level = .debug

namespace Build

/-- Whatever it is answered, the build asks for no messages but those about its progress. -/
def Quiet {α : Type} (build : Build α) : Prop := build.run.LogsOnly Level.IsQuiet

/-! ## Rules -/

section Rules

variable {α β : Type} {build : Build α}

theorem quiet_ofBuilt (built : Built α) : (ofBuilt built).Quiet := trivial

theorem Quiet.pure (value : α) : (Pure.pure value : Build α).Quiet := trivial

theorem quiet_perform {command : Command} (fits : command.LogsOnly Level.IsQuiet) :
    (perform command).Quiet :=
  ⟨fits, fun _ => trivial⟩

/-- **One quiet build after another is quiet.** -/
theorem Quiet.bind {rest : α → Build β} (first : build.Quiet) (second : ∀ value, (rest value).Quiet) :
    (build >>= rest).Quiet := by
  refine Script.LogsOnly.bind first fun result => ?_
  cases result with
  | ok value => exact second value
  | error failure => trivial

theorem logsOnly_releaseAll {allowed : Level → Prop} (entities : List EntityHandle) :
    (releaseAll entities).LogsOnly allowed := by
  induction entities with
  | nil => trivial
  | cons entity rest ih => exact ⟨trivial, fun _ => ih⟩

theorem Quiet.orRelease (quiet : build.Quiet) (entities : List EntityHandle) :
    (build.orRelease entities).Quiet := by
  refine Script.LogsOnly.bind quiet fun result => ?_
  cases result with
  | ok value => trivial
  | error failure => exact (logsOnly_releaseAll entities).bind fun _ => trivial

end Rules

/-! ## Calls -/

theorem quiet_createComponent (kind name : String) : (createComponent kind name).Quiet :=
  @quiet_perform (.createComponent kind name) trivial

theorem quiet_attachSubcomponent (parent : ComponentHandle) (slot kind : String) :
    (attachSubcomponent parent slot kind).Quiet :=
  @quiet_perform (.attachSubcomponent parent slot kind) trivial

theorem quiet_setParameters (component : ComponentHandle) (parameters : Parameters) :
    (setParameters component parameters).Quiet :=
  @quiet_perform (.setParameters component parameters) trivial

theorem quiet_createLink (name : String) : (createLink name).Quiet :=
  @quiet_perform (.createLink name) trivial

theorem quiet_connect (link : LinkHandle) (a b : LinkEnd) : (connect link a b).Quiet :=
  @quiet_perform (.connect link a b) trivial

theorem quiet_configureStatistics (setup : StatisticsSetup) : (configureStatistics setup).Quiet :=
  @quiet_perform (.configureStatistics setup) trivial

theorem quiet_finalize : finalize.Quiet := @quiet_perform .finalize trivial

theorem quiet_createEntity (parent : EntityHandle) (name : String) : (createEntity parent name).Quiet :=
  @quiet_perform (.createEntity parent name) trivial

theorem quiet_log {level : Level} (quiet : level.IsQuiet) (entity : EntityHandle) (text : String) :
    (log entity level text).Quiet :=
  @quiet_perform (.log entity level text) quiet

theorem quiet_portOf (component : ComponentHandle) (port : String) : (portOf component port).Quiet :=
  (@quiet_perform (.componentName component) trivial).bind fun _ => .pure _

theorem quiet_createWith (kind name : String) (parameters : Parameters) :
    (createWith kind name parameters).Quiet :=
  (quiet_createComponent kind name).bind fun component =>
    (quiet_setParameters component parameters).bind fun _ => .pure component

theorem quiet_attachWith (parent : ComponentHandle) (slot kind : String) (parameters : Parameters) :
    (attachWith parent slot kind parameters).Quiet :=
  (quiet_attachSubcomponent parent slot kind).bind fun component =>
    (quiet_setParameters component parameters).bind fun _ => .pure component

end Build

/-! ## Creating the nodes -/

section Creating

variable (settings : Settings)

namespace ProcessingNode

theorem quiet_createProgram (entity : EntityHandle) (component : ComponentHandle) (index : Nat) :
    (createProgram settings entity component index).Quiet := by
  refine (Build.quiet_ofBuilt _).bind fun placement => ?_
  refine (Build.quiet_setParameters _ _).bind fun _ => ?_
  refine (Build.quiet_log (.inl rfl) _ _).bind fun _ => ?_
  exact (Build.quiet_attachWith _ _ _ _).bind fun controller => Build.quiet_attachWith _ _ _ _

theorem quiet_createGenerator (entity : EntityHandle) (component : ComponentHandle) (index : Nat)
    (workload : String) : (createGenerator settings entity component index workload).Quiet := by
  refine (Build.quiet_setParameters _ _).bind fun _ => ?_
  refine (Build.quiet_log (.inl rfl) _ _).bind fun _ => ?_
  exact (Build.quiet_attachWith _ _ _ _).bind fun _ => .pure _

theorem quiet_createClient (entity : EntityHandle) (component : ComponentHandle) (index : Nat)
    (core : Core) : (createClient settings entity component index core).Quiet := by
  cases core with
  | program => exact quiet_createProgram settings entity component index
  | generator workload => exact quiet_createGenerator settings entity component index workload

theorem quiet_create (parent : EntityHandle) (core : Core) (index : Nat) :
    (create parent settings core index).Quiet := by
  refine (Build.quiet_createEntity _ _).bind fun entity => Build.Quiet.orRelease ?_ _
  refine (Build.quiet_createComponent _ _).bind fun component => ?_
  refine (quiet_createClient settings entity component index core).bind fun client => ?_
  exact (Build.quiet_createWith _ _ _).bind fun cache => .pure _

end ProcessingNode

namespace Cluster

theorem quiet_createNodes (entity : EntityHandle) (core : Core) (created : List ProcessingNode)
    (indices : List Nat) : (createNodes entity settings core created indices).Quiet := by
  induction indices generalizing created with
  | nil => exact .pure _
  | cons index rest ih =>
      exact ((ProcessingNode.quiet_create settings entity core index).orRelease _).bind fun node => ih _

theorem quiet_createShared (entity : EntityHandle) (cacheNode : Nat) (ports : List PortId)
    (nodes : List ProcessingNode) : (createShared entity settings cacheNode ports nodes).Quiet := by
  refine (Build.quiet_createWith _ _ _).bind fun bus => ?_
  refine (Build.quiet_createWith _ _ _).bind fun cache => ?_
  refine (Build.quiet_attachWith _ _ _ _).bind fun memoryLink => ?_
  refine (Build.quiet_attachWith _ _ _ _).bind fun interface => ?_
  refine (Build.quiet_portOf _ _).bind fun uplink => ?_
  exact (Build.quiet_log (.inr rfl) _ _).bind fun _ => .pure _

theorem quiet_create (parent : EntityHandle) (cacheNode : Nat) :
    (create parent settings cacheNode).Quiet := by
  refine (Build.quiet_ofBuilt _).bind fun ports => ?_
  refine (Build.quiet_createEntity _ _).bind fun entity => Build.Quiet.orRelease ?_ _
  refine (quiet_createNodes settings entity _ [] _).bind fun nodes => ?_
  exact (quiet_createShared settings entity cacheNode ports nodes).orRelease _

end Cluster

namespace MemoryNode

theorem quiet_create (parent : EntityHandle) (descriptor : NodeDescriptor) :
    (create parent settings descriptor).Quiet := by
  refine (Build.quiet_createEntity _ _).bind fun entity => Build.Quiet.orRelease ?_ _
  refine (Build.quiet_createWith _ _ _).bind fun controller => ?_
  refine (Build.quiet_attachWith _ _ _ _).bind fun accelerator => ?_
  refine (Build.quiet_attachWith _ _ _ _).bind fun storage => ?_
  refine (Build.quiet_attachWith _ _ _ _).bind fun interface => ?_
  refine (Build.quiet_portOf _ _).bind fun uplink => ?_
  refine (Build.quiet_log (.inl rfl) _ _).bind fun _ => ?_
  exact (Build.quiet_log (.inr rfl) _ _).bind fun _ => .pure _

theorem quiet_createAll (parent : EntityHandle) (created : List MemoryNode)
    (descriptors : List NodeDescriptor) : (createAll parent settings created descriptors).Quiet := by
  induction descriptors generalizing created with
  | nil => exact .pure _
  | cons descriptor rest ih =>
      exact ((quiet_create settings parent descriptor).orRelease _).bind fun node => ih _

end MemoryNode

theorem Partitioned.quiet_create (fabric : EntityHandle) : (create fabric settings).Quiet := by
  refine (Build.quiet_ofBuilt _).bind fun partitioned => ?_
  exact (Build.quiet_log (.inl rfl) _ _).bind fun _ => .pure _

theorem Partitioned.quiet_populate (fabric : EntityHandle) (partitioned : Partitioned) :
    (partitioned.populate fabric).Quiet := by
  refine (Cluster.quiet_create partitioned.settings fabric _).bind fun cluster => ?_
  refine ((MemoryNode.quiet_createAll partitioned.settings fabric [] _).orRelease _).bind
    fun memoryNodes => ?_
  exact (Build.quiet_log (.inr rfl) _ _).bind fun _ => .pure _

end Creating

/-! ## Linking -/

namespace Wiring

/-- With every ledger the wiring is quiet. -/
def Quiet {α : Type} (wiring : Wiring α) : Prop := ∀ ledger, (wiring.runWith ledger).Quiet

variable {α β : Type} {wiring : Wiring α}

theorem Quiet.pure (value : α) : (Pure.pure value : Wiring α).Quiet := fun _ => trivial

theorem Quiet.bind {rest : α → Wiring β} (first : wiring.Quiet) (second : ∀ value, (rest value).Quiet) :
    (wiring >>= rest).Quiet := by
  intro ledger
  rw [runWith_bind]
  exact (first ledger).bind fun value => second value.1 value.2

theorem quiet_ofBuild {build : Build α} (quiet : build.Quiet) : (ofBuild build).Quiet := by
  intro ledger
  rw [runWith_ofBuild]
  exact quiet.bind fun _ => .pure _

theorem quiet_ofLedger (change : WiringLedger → Except BuildError Unit × WiringLedger) :
    (ofLedger change).Quiet :=
  fun ledger => Build.quiet_ofBuilt ((Attempt.reporting (change ledger).1).map fun value =>
    (value, (change ledger).2))

theorem quiet_expectAll (ports : List PortId) : (expectAll ports).Quiet := by
  induction ports with
  | nil => exact .pure ()
  | cons port rest ih => exact (quiet_ofLedger _).bind fun _ => ih

theorem quiet_connect (name : String) (a b : Terminal) (latency : Latency) :
    (connect name a b latency).Quiet := by
  refine (quiet_ofLedger _).bind fun _ => (quiet_ofLedger _).bind fun _ => quiet_ofBuild ?_
  exact (Build.quiet_createLink name).bind fun link => Build.quiet_connect link _ _

end Wiring

namespace Cluster

theorem quiet_nodePorts (nodes : List ProcessingNode) : (nodePorts nodes).Quiet := by
  induction nodes with
  | nil => exact .pure _
  | cons node rest ih =>
      exact (Build.quiet_portOf _ _).bind fun client => ih.bind fun _ => .pure _

theorem quiet_expectedPorts (cluster : Cluster) : cluster.expectedPorts.Quiet := by
  refine (quiet_nodePorts cluster.nodes).bind fun ports => ?_
  exact (Build.quiet_portOf _ _).bind fun _ => .pure _

theorem quiet_wireNodes (bus : ComponentHandle) (latency : Latency)
    (nodes : List (ProcessingNode × PortId)) : (wireNodes bus latency nodes).Quiet := by
  induction nodes with
  | nil => exact .pure ()
  | cons entry rest ih =>
      have wired : (entry.1.wire latency).Quiet :=
        (Wiring.quiet_ofBuild (Build.quiet_portOf _ _)).bind fun _ => Wiring.quiet_connect _ _ _ _
      exact wired.bind fun _ => (Wiring.quiet_connect _ _ _ _).bind fun _ => ih

theorem quiet_wire (cluster : Cluster) (latency : Latency) : (cluster.wire latency).Quiet := by
  refine (quiet_wireNodes _ _ _).bind fun _ => ?_
  exact (Wiring.quiet_ofBuild (Build.quiet_portOf _ _)).bind fun _ => Wiring.quiet_connect _ _ _ _

end Cluster

namespace Populated

theorem quiet_expectPorts (fabric : Populated) (ports : RouterPorts) :
    (fabric.expectPorts ports).Quiet := by
  refine (Wiring.quiet_ofBuild fabric.cluster.quiet_expectedPorts).bind fun expected => ?_
  refine (Wiring.quiet_expectAll _).bind fun _ => (Wiring.quiet_ofLedger _).bind fun _ => ?_
  exact (Wiring.quiet_expectAll _).bind fun _ => Wiring.quiet_expectAll _

theorem quiet_createRouter (settings : Settings) (ports : RouterPorts) :
    (createRouter settings ports).Quiet := by
  refine (Build.quiet_createWith _ _ _).bind fun router => ?_
  exact (Build.quiet_attachSubcomponent _ _ _).bind fun _ => .pure _

theorem quiet_wireMemoryNodes (router : ComponentHandle) (latency : Latency)
    (nodes : List (MemoryNode × PortId)) : (wireMemoryNodes router latency nodes).Quiet := by
  induction nodes with
  | nil => exact .pure ()
  | cons entry rest ih => exact (Wiring.quiet_connect _ _ _ _).bind fun _ => ih

theorem quiet_wire (fabric : Populated) (ports : RouterPorts) (latency : Latency) :
    (fabric.wire ports latency).Quiet := by
  refine (fabric.quiet_expectPorts ports).bind fun _ => ?_
  refine (fabric.cluster.quiet_wire latency).bind fun _ => ?_
  refine (Wiring.quiet_ofBuild (quiet_createRouter _ ports)).bind fun router => ?_
  refine (Wiring.quiet_connect _ _ _ _).bind fun _ => ?_
  refine (quiet_wireMemoryNodes router latency _).bind fun _ => ?_
  exact (Wiring.quiet_ofLedger _).bind fun _ => .pure router

theorem quiet_link (fabric : EntityHandle) (populated : Populated) : (populated.link fabric).Quiet := by
  refine Build.Quiet.orRelease ?_ _
  refine (Build.quiet_ofBuilt _).bind fun latency => ?_
  refine (Build.quiet_ofBuilt _).bind fun ports => ?_
  refine (populated.quiet_wire ports latency .empty).bind fun wired => ?_
  exact (Build.quiet_log (.inl rfl) _ _).bind fun _ => .pure _

end Populated

/-! ## All phases -/

theorem Linked.quiet_finish (fabric : EntityHandle) (linked : Linked) : (linked.finish fabric).Quiet := by
  have closed : linked.close.Quiet :=
    (Build.quiet_configureStatistics _).bind fun _ => Build.quiet_finalize
  refine (closed.orRelease _).bind fun _ => ?_
  exact (Build.quiet_log (.inl rfl) _ _).bind fun _ => .pure _

/-- **The phases of a build log no errors.** -/
theorem Topology.quiet_runPhases (fabric : EntityHandle) (settings : Settings) :
    (runPhases fabric settings).Quiet := by
  refine (Partitioned.quiet_create settings fabric).bind fun partitioned => ?_
  refine (partitioned.quiet_populate fabric).bind fun populated => ?_
  exact (populated.quiet_link fabric).bind fun linked => linked.quiet_finish fabric

end MemoryFabric
