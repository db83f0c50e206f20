import MemoryFabric.Configuration.Choice

/-!
# Settings of a fabric

The configuration of a fabric in six sections and an output directory, with the built-in default of every
setting.
-/

namespace MemoryFabric

set_option autoImplicit false

/-- The memory nodes and the address space they share. -/
structure MemorySettings where
  /-- The size of the address space in bytes. -/
  totalBytes : UInt64 := 0x40000000000
  nodes : UInt64 := 1
  interleave : InterleavePolicy := .wide
  model : MemoryModel := .simple
  unit : MemoryUnit := .none
  maxRequestsPerCycle : UInt32 := 128
  requestDelay : String := "1ns"
  accessTime : String := "100ns"
  timingModelFile : String := "HBM2e_8Gbx128_UP.ini"
  deriving DecidableEq, Repr

/-- The processing nodes. -/
structure ComputeSettings where
  processingNodes : UInt64 := 1
  /-- The cores of a processing node that runs a program. -/
  cores : UInt64 := 1
  architecture : String := "rv64g_zicntr"
  /-- A workload generator to drive the processing nodes instead of a program. -/
  workload : Option String := none
  /-- Arguments for all processing nodes; each one's number is added. -/
  arguments : String := ""
  program : String := "sanity.exe"
  forceNoncacheable : UInt32 := 0
  deriving DecidableEq, Repr

/-- Clocks and latencies. -/
structure TimingSettings where
  clock : String := "1.0GHz"
  linkLatency : UInt64 := 1
  maxTransactions : UInt32 := 16
  firstCacheLatency : UInt32 := 8
  secondCacheLatency : UInt32 := 30
  interfaceBandwidth : String := "100GiB/s"
  deriving DecidableEq, Repr

/-- The private first-level caches and the shared second-level cache. -/
structure CacheSettings where
  firstSize : String := "16KiB"
  firstAssociativity : UInt32 := 4
  secondSize : String := "64 KiB"
  secondAssociativity : UInt32 := 16
  lineSize : UInt32 := 64
  coherence : String := "MESI"
  missEntries : UInt32 := 8
  missLatency : UInt32 := 16
  deriving DecidableEq, Repr

/-- The router between the shared cache and the memory nodes. -/
structure RouterSettings where
  linkBandwidth : String := "1TiB/s"
  crossbarBandwidth : String := "1TiB/s"
  flitSize : String := "72B"
  inputLatency : String := "1ns"
  outputLatency : String := "1ns"
  inputBuffer : String := "1KB"
  outputBuffer : String := "1KB"
  deriving DecidableEq, Repr

/-- The statistics that a simulation collects. -/
structure StatisticsSettings where
  loadLevel : UInt32 := 7
  output : String := "sst.statOutputCSV"
  /-- The name of the file inside the output directory. -/
  fileName : String := "sst-stats.csv"
  separator : String := ","
  enableAll : Bool := true
  deriving DecidableEq, Repr

/-- The configuration of a fabric. -/
structure Settings where
  memory : MemorySettings := {}
  compute : ComputeSettings := {}
  timing : TimingSettings := {}
  cache : CacheSettings := {}
  router : RouterSettings := {}
  statistics : StatisticsSettings := {}
  outputDirectory : String := "./"
  deriving DecidableEq, Repr

end MemoryFabric
