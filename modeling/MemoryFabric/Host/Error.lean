/-!
# Errors of a host

The reasons for which a simulation host refuses a call.
-/

namespace MemoryFabric

set_option autoImplicit false

/-- The calls that change what a host has recorded. -/
inductive HostCall where
  | createComponent
  | attachSubcomponent
  | setParameters
  | createLink
  | connect
  | configureStatistics
  | finalize
  deriving DecidableEq, Repr

namespace HostCall

/-- The name of the call. -/
def name : HostCall → String
  | .createComponent => "create_component"
  | .attachSubcomponent => "attach_subcomponent"
  | .setParameters => "set_parameters"
  | .createLink => "create_link"
  | .connect => "connect"
  | .configureStatistics => "configure_statistics"
  | .finalize => "finalize"

/-- What the call does, as it completes the word "cannot". -/
def action : HostCall → String
  | .createComponent => "create components"
  | .attachSubcomponent => "attach subcomponents"
  | .setParameters => "set parameters"
  | .createLink => "create links"
  | .connect => "connect links"
  | .configureStatistics => "configure statistics"
  | .finalize => "finalize twice"

end HostCall

/-- Why a call is refused. -/
inductive HostError where
  /-- The graph accepts no more changes. -/
  | finalized (call : HostCall)
  | unnamedComponent (name kind : String)
  | duplicateComponent (name : String)
  | unnamedSubcomponent (slot kind : String)
  | slotFilled (slot component : String)
  | unknownComponent (index : Nat)
  | duplicateLink (name : String)
  | linkConnected (name : String)
  | unknownLink (index : Nat)
  | selfLink (name port : String)
  | portBound (port link : String)
  | linkOpen (name : String)
  /-- The host was told to refuse its call of this number. -/
  | interrupted (number : Nat) (call : HostCall)
  /-- An error of another host, known by its text only. -/
  | stated (detail : String)
  deriving DecidableEq, Repr

namespace HostError

/-- What went wrong. -/
def detail : HostError → String
  | .finalized call => s!"Graph already finalized, cannot {call.action}"
  | .unnamedComponent name kind => s!"Component requires a kind and a name ('{name}': '{kind}')"
  | .duplicateComponent name => s!"Duplicate component name '{name}'"
  | .unnamedSubcomponent slot kind =>
    s!"Subcomponent requires a kind and a slot ('{slot}': '{kind}')"
  | .slotFilled slot component => s!"Slot '{slot}' of '{component}' already filled"
  | .unknownComponent index => s!"Unknown component #{index}"
  | .duplicateLink name => s!"Duplicate link name '{name}'"
  | .linkConnected name => s!"Link '{name}' already connected"
  | .unknownLink index => s!"Unknown link {index}"
  | .selfLink name port => s!"Link '{name}' connects {port} to itself"
  | .portBound port link => s!"Port {port} already bound by link '{link}'"
  | .linkOpen name => s!"Link '{name}' was never connected"
  | .interrupted number call => s!"injected fault at call {number} ({call.name})"
  | .stated detail => detail

/-- The whole message. -/
def message (error : HostError) : String := "Error: " ++ error.detail

end HostError

end MemoryFabric
