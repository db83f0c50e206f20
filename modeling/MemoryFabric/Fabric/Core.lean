import MemoryFabric.Configuration.Settings

/-!
# Cores

A processing node carries one of two kinds of core: one that runs a program, or one that issues the
requests of a named workload generator.
-/

namespace MemoryFabric

set_option autoImplicit false

/-- What drives a processing node. -/
inductive Core where
  /-- A program on a model of an instruction set. -/
  | program
  /-- The requests of a workload generator. -/
  | generator (workload : String)
  deriving DecidableEq, Repr

namespace Core

/-- A generator when a workload is configured, otherwise a program. -/
def ofSettings (settings : Settings) : Core :=
  match settings.compute.workload with
  | some workload => .generator workload
  | none => .program

/-- The kind of the component. -/
def kind : Core → String
  | .program => "revcpu.RevCPU"
  | .generator _ => "AppGen.RequestGenCPU_KG"

/-- The port towards the private cache. -/
def cachePort : Core → String
  | .program => "port"
  | .generator _ => "cache_link"

end Core

end MemoryFabric
