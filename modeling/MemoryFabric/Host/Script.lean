import MemoryFabric.Fault
import MemoryFabric.Host.Component
import MemoryFabric.Host.Error
import MemoryFabric.Tracking.Entity

/-!
# Hosts and scripts

A host answers commands: it records components and links, and it keeps the entities that report what
happens to them.  A script is a finite program of commands whose remaining part depends on the answers.
Scripts know nothing about the host that runs them; every statement about what a host keeps or changes
carries over from single commands to scripts by one induction.
-/

namespace MemoryFabric

set_option autoImplicit false

/-! ## Commands -/

/-- What a host can be asked to do. -/
inductive Command where
  | createComponent (kind name : String)
  | attachSubcomponent (parent : ComponentHandle) (slot kind : String)
  | setParameters (component : ComponentHandle) (parameters : Parameters)
  | createLink (name : String)
  | connect (link : LinkHandle) (a b : LinkEnd)
  | configureStatistics (setup : StatisticsSetup)
  | finalize
  /-- Ask for the full name of a component. -/
  | componentName (component : ComponentHandle)
  | createEntity (parent : EntityHandle) (name : String)
  /-- Let go of an entity. -/
  | release (entity : EntityHandle)
  | log (entity : EntityHandle) (level : Level) (text : String)

namespace Command

/-- What a command is answered with. -/
abbrev Answer : Command → Type
  | .createComponent _ _ => ComponentHandle
  | .attachSubcomponent _ _ _ => ComponentHandle
  | .setParameters _ _ => Unit
  | .createLink _ => LinkHandle
  | .connect _ _ _ => Unit
  | .configureStatistics _ => Unit
  | .finalize => Unit
  | .componentName _ => String
  | .createEntity _ _ => EntityHandle
  | .release _ => Unit
  | .log _ _ _ => Unit

/-- The call of a command that changes the structure of a fabric. -/
def call? : Command → Option HostCall
  | .createComponent _ _ => some .createComponent
  | .attachSubcomponent _ _ _ => some .attachSubcomponent
  | .setParameters _ _ => some .setParameters
  | .createLink _ => some .createLink
  | .connect _ _ _ => some .connect
  | .configureStatistics _ => some .configureStatistics
  | .finalize => some .finalize
  | .componentName _ => none
  | .createEntity _ _ => none
  | .release _ => none
  | .log _ _ _ => none

end Command

/-! ## Hosts -/

/-- A host with its states. -/
structure Host (σ : Type) where
  answer : (command : Command) → σ → Attempt HostError command.Answer × σ

/-- A host that counts the structural calls and, when it is told a number, refuses the call of that
number without doing anything. -/
def Host.interruptedAt {σ : Type} (host : Host σ) (number? : Option Nat) : Host (σ × Nat) where
  answer command state :=
    match command.call? with
    | none =>
      let (answer, next) := host.answer command state.1
      (answer, next, state.2)
    | some call =>
      let number := state.2 + 1
      if number? = some number then
        (Attempt.report (.interrupted number call), state.1, number)
      else
        let (answer, next) := host.answer command state.1
        (answer, next, number)

/-! ## Scripts -/

/-- A program of commands. -/
inductive Script (α : Type) where
  | done (value : α)
  | step (command : Command) (next : Attempt HostError command.Answer → Script α)

namespace Script

/-- Go on with the value of a script. -/
def bind {α β : Type} (script : Script α) (rest : α → Script β) : Script β :=
  match script with
  | .done value => rest value
  | .step command next => .step command fun answer => (next answer).bind rest

instance : Monad Script where
  pure := done
  bind := bind

/-- The script of one command. -/
def perform (command : Command) : Script (Attempt HostError command.Answer) := .step command .done

/-- Run a script on a host. -/
def run {σ α : Type} (host : Host σ) : Script α → σ → α × σ
  | .done value, state => (value, state)
  | .step command next, state =>
    let (answer, state) := host.answer command state
    run host (next answer) state

@[simp]
theorem run_done {σ α : Type} (host : Host σ) (value : α) (state : σ) :
    (done value).run host state = (value, state) := rfl

@[simp]
theorem run_step {σ α : Type} (host : Host σ) (command : Command)
    (next : Attempt HostError command.Answer → Script α) (state : σ) :
    (step command next).run host state =
      (next (host.answer command state).1).run host (host.answer command state).2 := rfl

/-- **A script runs before the one that follows it.** -/
theorem run_bind {σ α β : Type} (host : Host σ) (script : Script α) (rest : α → Script β)
    (state : σ) :
    (script.bind rest).run host state =
      (rest (script.run host state).1).run host (script.run host state).2 := by
  induction script generalizing state with
  | done value => rfl
  | step command next ih => exact ih _ _

instance : LawfulMonad Script :=
  LawfulMonad.mk' Script
    (fun script => by
      induction script with
      | done value => rfl
      | step command next ih => exact congrArg (step command) (funext ih))
    (fun _ _ => rfl)
    (fun script first second => by
      induction script with
      | done value => rfl
      | step command next ih => exact congrArg (step command) (funext ih))

end Script

end MemoryFabric
