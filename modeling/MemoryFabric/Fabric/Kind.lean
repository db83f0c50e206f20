/-!
# Kinds of components

The kinds of the components of a fabric, and the names that are fixed.
-/

namespace MemoryFabric

set_option autoImplicit false

namespace Kind

/-- The memory controller of a core. -/
def coreController : String := "revcpu.RevBasicMemCtrl"

/-- The interface between a core and its cache. -/
def coreInterface : String := "memHierarchy.standardInterface"

/-- A workload generator of a name. -/
def generator (workload : String) : String := "AppGen." ++ workload

/-- A cache. -/
def cache : String := "memHierarchy.Cache"

/-- The bus between the caches. -/
def bus : String := "memHierarchy.Bus"

/-- The link between the bus and the shared cache. -/
def memoryLink : String := "memHierarchy.MemLink"

/-- A network interface. -/
def networkInterface : String := "memHierarchy.MemNIC"

/-- The controller of a memory node. -/
def memoryController : String := "PIM.PIMMemController"

/-- The processing backend of a memory node. -/
def acceleratorBackend : String := "PIM.PIMBackend"

/-- The router. -/
def router : String := "merlin.hr_router"

end Kind

namespace PortName

/-- The port of a cache or bus towards the cores. -/
def above : String := "high_network_0"

/-- The port of a cache or bus towards the memory. -/
def below : String := "low_network_0"

/-- The only port of a network interface or memory link. -/
def single : String := "port"

end PortName

/-- The name of the bus. -/
def busName : String := "cpubus"

/-- The name of the shared cache. -/
def sharedCacheName : String := "l2cache"

/-- The name of the router. -/
def routerName : String := "local_network"

end MemoryFabric
