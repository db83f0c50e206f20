import MemoryFabric.Host.Graph

/-!
# Component graphs as text

A graph is written as the list of its components with their parameters, the list of its links, and, when
they are configured, where statistics go to.
-/

namespace MemoryFabric.ComponentGraph

set_option autoImplicit false

/-- One end of a link with its latency. -/
def endText (graph : ComponentGraph) (linkEnd : LinkEnd) : String :=
  graph.portText linkEnd.component linkEnd.port ++ " (" ++ linkEnd.latency.text ++ ")"

/-- Both ends of a link. -/
def endsText (graph : ComponentGraph) (a b : LinkEnd) : String :=
  graph.endText a ++ " <-> " ++ graph.endText b

/-- A component with its parameters, one to a line. -/
def componentLines (component : Component) : List String :=
  s!"  {component.name} ({component.kind})" ::
    component.parameters.toList.map fun entry => s!"    {entry.1} = {entry.2.written}"

/-- A link with its ends. -/
def linkLine (graph : ComponentGraph) (link : Link) : String :=
  match link.ends with
  | some (a, b) => s!"  {link.name}: " ++ graph.endsText a b
  | none => s!"  {link.name}: unconnected"

/-- The lines about statistics. -/
def statisticsLines : Option StatisticsSetup → List String
  | some setup => ["", s!"Statistics: level {setup.loadLevel} to {setup.output}"]
  | none => []

/-- All lines of the text. -/
def lines (graph : ComponentGraph) : List String :=
  "Components:" :: graph.components.toList.flatMap componentLines ++
    "" :: "Links:" :: graph.links.toList.map graph.linkLine ++
    statisticsLines graph.statistics

/-- The text of a graph; every line ends with a line feed. -/
def text (graph : ComponentGraph) : String :=
  String.join (graph.lines.map fun line => line ++ "\n")

end MemoryFabric.ComponentGraph
