import MemoryFabric.Host.Parameter

/-!
# Routing tags

Network interfaces carry the number of a routing group and, where the default of the host is not meant,
the groups they accept traffic from and the groups they may send to.
-/

namespace MemoryFabric

set_option autoImplicit false

/-- The routing groups of an interface. -/
structure RoutingTags where
  group : UInt32
  sources : List UInt32
  destinations : List UInt32
  deriving DecidableEq, Repr

namespace RoutingTags

/-- The interface of the processing nodes. -/
def compute : RoutingTags := ⟨1, [], []⟩

/-- The interface of a memory node: it takes requests of either group and replies within its own. -/
def memory : RoutingTags := ⟨2, [1, 2], [2]⟩

/-- A list of groups under a name, unless it is empty. -/
def groups (name : String) (list : List UInt32) : List (String × Parameter) :=
  if list.isEmpty then [] else [(name, .list (list.map Parameter.ofUInt32))]

/-- The tags as parameters. -/
def parameters (tags : RoutingTags) : Parameters :=
  SortedMap.ofList
    (("group", Parameter.ofUInt32 tags.group) ::
      groups "sources" tags.sources ++ groups "destinations" tags.destinations)

end RoutingTags

end MemoryFabric
