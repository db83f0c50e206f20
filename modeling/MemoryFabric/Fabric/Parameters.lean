import MemoryFabric.Address.Interleave
import MemoryFabric.ByteSize.Written
import MemoryFabric.Configuration.Settings
import MemoryFabric.Fabric.Routing

/-!
# Parameter tables

The parameters of every kind of component.  A table depends on the settings, and on the node where it
belongs to one, and on nothing else; equal configurations have equal tables.
-/

namespace MemoryFabric.Table

set_option autoImplicit false

/-- A table from its entries. -/
def ofList (entries : List (String × Parameter)) : Parameters := SortedMap.ofList entries

/-- Debug output switched off, with the level for when it is switched on. -/
def quiet (level : UInt64) : Parameters :=
  ofList [("debug", .signed 0), ("debug_level", .unsigned level), ("debug_addr", .list [])]

/-- A core that runs a program. -/
def programCore (settings : Settings) : Parameters :=
  ofList [
    ("verbose", .unsigned 1),
    ("numCores", .unsigned settings.compute.cores),
    ("clock", .text settings.timing.clock),
    ("maxHeapSize", .unsigned 0x4000000),
    ("machine", .text ("[CORES:" ++ settings.compute.architecture ++ "]")),
    ("memCost", .text "[0:1:10]"),
    ("program", .text settings.compute.program),
    ("enableMemH", .signed 1),
    ("splash", .signed 0)]

/-- The memory controller of a core. -/
def coreController (settings : Settings) : Parameters :=
  let most := Parameter.ofUInt32 settings.timing.maxTransactions
  ofList [
    ("verbose", .unsigned 0),
    ("clock", .text settings.timing.clock),
    ("max_loads", most),
    ("max_stores", most),
    ("max_flush", most),
    ("max_llsc", most),
    ("max_readlock", most),
    ("max_writeunlock", most),
    ("max_custom", most),
    ("ops_per_cycle", most)]

/-- A workload generator. -/
def generator (settings : Settings) : Parameters :=
  ofList [
    ("verbose", .unsigned 1),
    ("max_reqs_cycle", .signed 2),
    ("cache_line_size", .ofUInt32 settings.cache.lineSize),
    ("maxmemreqpending", .signed 1),
    ("clock", .text settings.timing.clock)]

/-- The first address of the region that is never cached. -/
def uncachedFirst : UInt64 := 0x0E000000

/-- The last address of the region that is never cached. -/
def uncachedLast : UInt64 := 0x0F8FFFFF

/-- The interface between a core and its cache. -/
def coreInterface : Parameters :=
  ofList [("noncacheable_regions", .list [.unsigned uncachedFirst, .unsigned uncachedLast])]

/-- The private cache of a processing node. -/
def firstCache (settings : Settings) (node : Nat) : Parameters :=
  (ofList [
    ("cache_frequency", .text settings.timing.clock),
    ("cache_size", .text settings.cache.firstSize),
    ("associativity", .ofUInt32 settings.cache.firstAssociativity),
    ("access_latency_cycles", .ofUInt32 settings.timing.firstCacheLatency),
    ("L1", .signed 1),
    ("cache_line_size", .ofUInt32 settings.cache.lineSize),
    ("coherence_protocol", .text settings.cache.coherence),
    ("cache_type", .text "inclusive"),
    ("max_requests_per_cycle", .signed (-1)),
    ("maxRequestDelay", .signed 0),
    ("verbose", .unsigned 0),
    ("force_noncacheable_reqs", .ofUInt32 settings.compute.forceNoncacheable),
    ("replacement_policy", .text "lru"),
    ("node", .ofNat node)]).extend (quiet 4)

/-- The cache that the processing nodes share. -/
def secondCache (settings : Settings) (node : Nat) : Parameters :=
  (ofList [
    ("cache_frequency", .text settings.timing.clock),
    ("cache_size", .text settings.cache.secondSize),
    ("associativity", .ofUInt32 settings.cache.secondAssociativity),
    ("access_latency_cycles", .ofUInt32 settings.timing.secondCacheLatency),
    ("cache_line_size", .ofUInt32 settings.cache.lineSize),
    ("coherence_protocol", .text settings.cache.coherence),
    ("max_requests_per_cycle", .signed (-1)),
    ("request_link_width", .text "0B"),
    ("response_link_width", .text "0B"),
    ("maxRequestDelay", .signed 0),
    ("mshr_num_entries", .ofUInt32 settings.cache.missEntries),
    ("mshr_latency_cycles", .ofUInt32 settings.cache.missLatency),
    ("verbose", .unsigned 0),
    ("force_noncacheable_reqs", .ofUInt32 settings.compute.forceNoncacheable),
    ("node", .ofNat node)]).extend (quiet 4)

/-- The bus between the private caches and the shared one. -/
def bus (settings : Settings) : Parameters :=
  (ofList [("bus_frequency", .text settings.timing.clock)]).extend (quiet 9)

/-- The link between the bus and the shared cache. -/
def memoryLink : Parameters := (ofList [("latency", .text "0ps")]).extend (quiet 9)

/-- A network interface with its routing tags. -/
def networkInterface (settings : Settings) (tags : RoutingTags) : Parameters :=
  ((ofList [
    ("network_bw", .text settings.timing.interfaceBandwidth),
    ("network_input_buffer_size", .text "1KiB"),
    ("network_output_buffer_size", .text "1KiB"),
    ("range_check", .signed 0)]).extend (quiet 8)).extend tags.parameters

/-- The share of the memory that one node holds. -/
def nodeCapacity (settings : Settings) : UInt64 :=
  settings.memory.totalBytes / max settings.memory.nodes 1

/-- The granule and stride of an interleaved node. -/
def interleaving : Option Interleave → List (String × Parameter)
  | some interleave =>
    [("interleave_size", .text (ByteSize.written interleave.granule)),
      ("interleave_step", .text (ByteSize.written interleave.stride))]
  | none => []

/-- A memory controller, with the addresses of its node. -/
def memoryController (settings : Settings) (descriptor : NodeDescriptor) : Parameters :=
  ((ofList [
    ("pim_type", .unsigned settings.memory.unit.code.toUInt64),
    ("clock", .text settings.timing.clock),
    ("request_width", .signed 64),
    ("verbose", .unsigned 3),
    ("listenercount", .signed 0),
    ("backing", .text "malloc"),
    ("customCmdHandler", .text "memHierarchy.defCustomCmdHandler"),
    ("node_id", .ofNat descriptor.node),
    ("backend.mem_size", .text (ByteSize.written (nodeCapacity settings))),
    ("addr_range_start", .text (toString descriptor.range.first.toNat)),
    ("addr_range_end", .text (toString descriptor.range.last.toNat))]).insertAll
      (interleaving descriptor.interleave)).extend (quiet 8)

/-- What both backends of a memory node share. -/
def backend (settings : Settings) : Parameters :=
  (ofList [
    ("verbose", .unsigned 3),
    ("mem_size", .text (ByteSize.written (nodeCapacity settings))),
    ("pim_type", .unsigned settings.memory.unit.code.toUInt64),
    ("num_nodes", .unsigned settings.memory.nodes),
    ("output_directory", .text settings.outputDirectory)]).extend (quiet 8)

/-- The processing backend of a memory node. -/
def acceleratorBackend (settings : Settings) (node : Nat) : Parameters :=
  (ofList [
    ("node_id", .ofNat node),
    ("max_requests_per_cycle", .ofUInt32 settings.memory.maxRequestsPerCycle),
    ("request_delay", .text settings.memory.requestDelay)]).extend (backend settings)

/-- The storage backend of a memory node, by its model. -/
def storageBackend (settings : Settings) : Parameters :=
  (ofList
    (match settings.memory.model with
    | .simple => [("access_time", .text settings.memory.accessTime)]
    | .dramsim3 => [("config_ini", .text settings.memory.timingModelFile)])).extend
      (backend settings)

/-- The topology of the router. -/
def routerTopology : String := "merlin.singlerouter"

/-- The router. -/
def router (settings : Settings) (ports : Nat) : Parameters :=
  (ofList [
    ("id", .signed 0),
    ("num_ports", .text (toString ports)),
    ("topology", .text routerTopology),
    ("link_bw", .text settings.router.linkBandwidth),
    ("xbar_bw", .text settings.router.crossbarBandwidth),
    ("flit_size", .text settings.router.flitSize),
    ("input_latency", .text settings.router.inputLatency),
    ("output_latency", .text settings.router.outputLatency),
    ("input_buf_size", .text settings.router.inputBuffer),
    ("output_buf_size", .text settings.router.outputBuffer)]).extend (quiet 8)

end MemoryFabric.Table
