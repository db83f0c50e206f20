import MemoryFabric.Fabric.Error
import MemoryFabric.Host.Script

/-!
# Builds

A build is a script that may stop with a build error or a fault.  Whatever a build has already recorded at
the host stays there when it stops; the entities that it holds are let go.
-/

namespace MemoryFabric

set_option autoImplicit false

/-- A script that may stop. -/
abbrev Build (α : Type) := ExceptT (Failure BuildError) Script α

namespace Build

/-- Perform a command; an error of the host stops the build. -/
def perform (command : Command) : Build command.Answer :=
  ExceptT.mk do return (← Script.perform command).mapError (Failure.map .host)

/-- A step without commands. -/
def ofBuilt {α : Type} (result : Built α) : Build α := ExceptT.mk (pure result)

/-- A step without commands that does not fault. -/
def ofExcept {α : Type} (result : Except BuildError α) : Build α := ofBuilt (Attempt.reporting result)

/-- Create a component. -/
def createComponent (kind name : String) : Build ComponentHandle :=
  perform (.createComponent kind name)

/-- Create a subcomponent. -/
def attachSubcomponent (parent : ComponentHandle) (slot kind : String) : Build ComponentHandle :=
  perform (.attachSubcomponent parent slot kind)

/-- Set parameters of a component. -/
def setParameters (component : ComponentHandle) (parameters : Parameters) : Build Unit :=
  perform (.setParameters component parameters)

/-- Create a subcomponent and set its parameters. -/
def attachWith (parent : ComponentHandle) (slot kind : String) (parameters : Parameters) :
    Build ComponentHandle := do
  let component ← attachSubcomponent parent slot kind
  setParameters component parameters
  return component

/-- Create a component and set its parameters. -/
def createWith (kind name : String) (parameters : Parameters) : Build ComponentHandle := do
  let component ← createComponent kind name
  setParameters component parameters
  return component

/-- Create a link. -/
def createLink (name : String) : Build LinkHandle := perform (.createLink name)

/-- Connect a link. -/
def connect (link : LinkHandle) (a b : LinkEnd) : Build Unit := perform (.connect link a b)

/-- Set how statistics are collected. -/
def configureStatistics (setup : StatisticsSetup) : Build Unit :=
  perform (.configureStatistics setup)

/-- Close the graph. -/
def finalize : Build Unit := perform .finalize

/-- A port of a component that is known by its handle. -/
def portOf (component : ComponentHandle) (port : String) : Build PortId := do
  return ⟨← perform (.componentName component), port⟩

/-- Create an entity. -/
def createEntity (parent : EntityHandle) (name : String) : Build EntityHandle :=
  perform (.createEntity parent name)

/-- Log a message. -/
def log (entity : EntityHandle) (level : Level) (text : String) : Build Unit :=
  perform (.log entity level text)

/-- Let go of entities, from the first to the last. -/
def releaseAll : List EntityHandle → Script Unit
  | [] => return ()
  | entity :: rest => do
    let _ ← Script.perform (.release entity)
    releaseAll rest

/-- A build that lets go of entities when it stops. -/
def orRelease {α : Type} (build : Build α) (entities : List EntityHandle) : Build α :=
  ExceptT.mk do
    match ← build.run with
    | .ok value => return .ok value
    | .error failure =>
      releaseAll entities
      return .error failure

end Build

end MemoryFabric
