import MemoryFabric.Proofs.Configuration.Layering
import MemoryFabric.Proofs.Configuration.Spelling
import MemoryFabric.Proofs.Fabric.NumberedParameters

/-!
# Arguments of the cores

The arguments for the cores can be given by a variable.  What the variable says is what every core of the
built fabric gets, with its number behind, unless the text is respelled on the way.

Main statement: **`argumentsArrive_iff`**.
-/

namespace MemoryFabric

set_option autoImplicit false

/-- Every core of a fabric that is built gets these arguments and its number. -/
def Settings.GivesCores (settings : Settings) (text : String) : Prop :=
  ∀ tracker topology recorder, Topology.buildFresh tracker settings = .ok (.ok topology, recorder) →
    ∀ index < settings.compute.processingNodes.toNat,
      recorder.graph.parameter? ("cpu" ++ toString index) "args" =
        some (.text (text ++ " " ++ toString index))

/-- The setting for arguments has a text as it is, and so have the cores. -/
structure Settings.ArgumentsArrive (settings : Settings) (text : String) : Prop where
  setting : settings.compute.arguments = text
  cores : settings.GivesCores text

namespace Settings

theorem givesCores_arguments {settings : Settings} (nonempty : settings.compute.arguments ≠ "") :
    settings.GivesCores settings.compute.arguments := by
  intro tracker topology recorder built index inside
  obtain ⟨partitioned, latency, _, _, made, _, _, _, _, graph_eq⟩ := Topology.buildFresh_ok built
  have isFor := Partitioned.isFor_of_ofSettings made
  have notEmpty : ¬ settings.compute.arguments.isEmpty = true := fun empty =>
    nonempty (String.isEmpty_iff.1 empty)
  rw [graph_eq, isFor.carriesNumbers.arguments index inside, nodeArguments, if_neg notEmpty]

variable {path? : Option String} {text? : String → Option String} {environment : List (String × String)}
  {text : String}

/-- The setting for arguments is read from the variable, whatever the file says. -/
theorem read_arguments_of_load (sets : Environment.Sets environment "ARGS" text) {settings : Settings}
    (loaded : load path? text? environment = .ok settings) :
    Codec.text.read (Environment.value text) = .ok settings.compute.arguments := by
  obtain ⟨entries, _, _, gives⟩ := load_eq_ok_iff.1 loaded
  have mapped : Environment.path? "ARGS" = some Setting.arguments.path := by decide +kernel
  have read := gives .arguments Setting.arguments_mem
  rw [given?, sets.value?_eq mapped, Option.some_or] at read
  exact read

/-- **Arguments arrive as they are written, unless they are a number that is spelled in another way.**  For
every text of letters, digits, points and signs and every file, a loaded configuration has the text of the
variable for its arguments, and every core of the built fabric has it with its number behind, exactly when the
text is no number with a plus or zeros in front and no fraction but the shortest one. -/
theorem argumentsArrive_iff (nonempty : text ≠ "")
    (bare : ∀ character ∈ text.toList, character.isAlphanum ∨ character ∈ ['.', '+', '-'])
    (sets : Environment.Sets environment "ARGS" text) {settings : Settings}
    (loaded : load path? text? environment = .ok settings) :
    settings.ArgumentsArrive text ↔ ¬ Environment.IsRespelled text.toList := by
  have read := read_arguments_of_load sets loaded
  rw [← Environment.text_read_value_eq_ok_iff fun character member => ?_]
  · constructor
    · rintro ⟨rfl, _⟩
      exact read
    · intro unchanged
      obtain same : settings.compute.arguments = text := Except.ok.inj (read.symm.trans unchanged)
      exact ⟨same, same ▸ givesCores_arguments (same ▸ nonempty)⟩
  · simpa [Environment.isBareCharacter, or_assoc] using bare character member

/-- A variable alone. -/
theorem sets_alone {name text : String} : Environment.Sets [(name, text)] name text := by
  refine ⟨List.mem_singleton_self _, fun entry member _ => ?_⟩
  rw [List.mem_singleton.1 member]

/-- A fraction that is written in the shortest way arrives, over another value in a file. -/
theorem argumentsArrive_quarter : ∃ settings,
    load (some "fabric.yaml") (fun _ => some "compute: {args: 7}\n") [("ARGS", "0.25")] = .ok settings ∧
      settings.ArgumentsArrive "0.25" := by
  have checked : (fileEntries? (some "fabric.yaml") fun _ => some "compute: {args: 7}\n").any
      (isReadable [("ARGS", "0.25")]) = true := by decide +kernel
  obtain ⟨entries, given, readable⟩ := (Option.any_eq_true _ _).1 checked
  obtain ⟨settings, loaded⟩ := exists_load_of_isReadable given readable
  have shortest : (Number.fraction? "0.25".toList).any
      (fun number => number.setting = String.ofList "0.25".toList) = true := by decide +kernel
  obtain ⟨number, reads, written⟩ := (Option.any_eq_true _ _).1 shortest
  refine ⟨settings, loaded, (argumentsArrive_iff (by decide) (by simp) sets_alone loaded).2 ?_⟩
  rw [Environment.isRespelled_fraction_iff (by decide) reads, not_not]
  exact of_decide_eq_true written

/-- A text that the reader gives back in another way does not arrive. -/
theorem exists_not_argumentsArrive {written arrives : String}
    (readable : isReadable [("ARGS", written)] [] = true)
    (read : (Codec.text.read (Environment.value written)).toOption = some arrives)
    (different : arrives ≠ written) : ∃ settings,
      load none (fun _ => none) [("ARGS", written)] = .ok settings ∧
        settings.compute.arguments = arrives ∧ ¬ settings.ArgumentsArrive written := by
  obtain ⟨settings, loaded⟩ := exists_load_of_isReadable (show fileEntries? none _ = some [] from rfl)
    readable
  rw [read_arguments_of_load sets_alone loaded] at read
  have arguments : settings.compute.arguments = arrives := Option.some.inj read
  exact ⟨settings, loaded, arguments, fun arrive => different (arguments.symm.trans arrive.setting)⟩

/-- Zeros and a plus in front of a number are lost, and so are zeros behind a fraction. -/
theorem not_argumentsArrive_respelled :
    (∃ settings, load none (fun _ => none) [("ARGS", "007")] = .ok settings ∧
      settings.compute.arguments = "7" ∧ ¬ settings.ArgumentsArrive "007") ∧
    (∃ settings, load none (fun _ => none) [("ARGS", "+5")] = .ok settings ∧
      settings.compute.arguments = "5" ∧ ¬ settings.ArgumentsArrive "+5") ∧
    ∃ settings, load none (fun _ => none) [("ARGS", "1.50")] = .ok settings ∧
      settings.compute.arguments = "1.5" ∧ ¬ settings.ArgumentsArrive "1.50" := by
  refine ⟨?zeros, ?plus, ?fraction⟩
  case zeros => exact exists_not_argumentsArrive (by decide +kernel) (by decide +kernel) (by decide)
  case plus => exact exists_not_argumentsArrive (by decide +kernel) (by decide +kernel) (by decide)
  case fraction => exact exists_not_argumentsArrive (by decide +kernel) (by decide +kernel) (by decide)

end Settings

end MemoryFabric
