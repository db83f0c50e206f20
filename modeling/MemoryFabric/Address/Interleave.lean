import MemoryFabric.Address.Range

/-!
# Interleaving

Several memory nodes can share the address space by taking turns: the space is cut into granules of one
size, and consecutive granules go to consecutive nodes.  A node's granules lie one stride apart, inside an
envelope that is the node's address range.
-/

namespace MemoryFabric

set_option autoImplicit false

/-- How the nodes take turns. -/
inductive InterleavePolicy where
  /-- A single node owns every address. -/
  | none
  /-- Turns of 128 MiB. -/
  | wide
  /-- Turns of one 64-byte cache line. -/
  | small
  deriving DecidableEq, Repr

namespace InterleavePolicy

/-- The bytes of one turn, when there are turns. -/
def granule? : InterleavePolicy → Option UInt64
  | .none => Option.none
  | .wide => some 0x8000000
  | .small => some 64

/-- The name in configurations and messages. -/
def name : InterleavePolicy → String
  | .none => "none"
  | .wide => "wide"
  | .small => "small"

/-- The policy of a name, in any case. -/
def ofName? (text : String) : Option InterleavePolicy :=
  match String.ofList (text.toList.map Char.toLower) with
  | "none" => some .none
  | "wide" => some .wide
  | "small" => some .small
  | _ => Option.none

end InterleavePolicy

/-- The granule of an interleaved node and the distance between its granules. -/
structure Interleave where
  granule : UInt64
  stride : UInt64
  deriving DecidableEq, Repr

/-- The part of the address space that belongs to one memory node. -/
structure NodeDescriptor where
  node : Nat
  range : AddressRange
  interleave : Option Interleave
  deriving DecidableEq, Repr

/-- The descriptor as messages write it. -/
def NodeDescriptor.text (descriptor : NodeDescriptor) : String :=
  let owned := s!"node {descriptor.node} {descriptor.range.text}"
  match descriptor.interleave with
  | none => owned
  | some interleave =>
    owned ++ " granule " ++ Text.hexadecimal interleave.granule ++
      " stride " ++ Text.hexadecimal interleave.stride

end MemoryFabric
