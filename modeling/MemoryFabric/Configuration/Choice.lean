import MemoryFabric.Address.Interleave
import MemoryFabric.Number.Literal

/-!
# Choices by name

Settings that pick one of a few alternatives: the interleave policy, the storage model of the memory
nodes and the kind of their processing units.
-/

namespace MemoryFabric

set_option autoImplicit false

/-- Why a text or code names no alternative. -/
inductive ChoiceError where
  | unknownPolicy (text : String)
  | unknownModel (text : String)
  | unknownUnit (text : String)
  | unknownUnitCode (code : UInt8)
  | reservedUnit
  deriving DecidableEq, Repr

/-- What went wrong. -/
def ChoiceError.detail : ChoiceError → String
  | .unknownPolicy text =>
    s!"Unsupported interleave policy '{text}' (must be one of: none, wide, small)"
  | .unknownModel text =>
    s!"Unsupported memory model '{text}' (must be one of: simpleMem, dramsim3)"
  | .unknownUnit text => s!"Unsupported PIM type '{text}' (must be one of: 0, 1, 3)"
  | .unknownUnitCode code => s!"Unsupported PIM type {code.toNat} (must be one of: 0, 1, 3)"
  | .reservedUnit => "PIM type 2 is reserved"

/-- The policy of a name, in any case. -/
def InterleavePolicy.read (text : String) : Except ChoiceError InterleavePolicy :=
  match InterleavePolicy.ofName? text with
  | some policy => .ok policy
  | Option.none => .error (.unknownPolicy text)

/-- The storage behind a memory node. -/
inductive MemoryModel where
  /-- Storage with a fixed latency. -/
  | simple
  /-- A detailed timing model. -/
  | dramsim3
  deriving DecidableEq, Repr

namespace MemoryModel

/-- The name in configurations and messages. -/
def name : MemoryModel → String
  | .simple => "simpleMem"
  | .dramsim3 => "dramsim3"

/-- The kind of the component that models the storage. -/
def kind : MemoryModel → String
  | .simple => "memHierarchy.simpleMem"
  | .dramsim3 => "memHierarchy.dramsim3"

/-- The model of a name. -/
def read (text : String) : Except ChoiceError MemoryModel :=
  match text with
  | "simpleMem" => .ok .simple
  | "simplemem" => .ok .simple
  | "dramsim3" => .ok .dramsim3
  | _ => .error (.unknownModel text)

end MemoryModel

/-- The processing unit inside a memory node. -/
inductive MemoryUnit where
  | none
  | test
  | generic
  deriving DecidableEq, Repr

namespace MemoryUnit

/-- The code in configurations and parameters. -/
def code : MemoryUnit → UInt8
  | .none => 0
  | .test => 1
  | .generic => 3

/-- The unit of a code; one code is reserved. -/
def ofCode (code : UInt8) : Except ChoiceError MemoryUnit :=
  if code = 0 then .ok .none
  else if code = 1 then .ok .test
  else if code = 2 then .error .reservedUnit
  else if code = 3 then .ok .generic
  else .error (.unknownUnitCode code)

/-- The unit of a code in decimal digits. -/
def read (text : String) : Except ChoiceError MemoryUnit :=
  match Number.natural? 10 text.toList with
  | some code => if code < 256 then ofCode (UInt8.ofNat code) else .error (.unknownUnit text)
  | Option.none => .error (.unknownUnit text)

end MemoryUnit

end MemoryFabric
