import ResourceMeter.Command.Arguments

/-!
# Commands

There are two commands: one analyses simulation files, the other shows a configuration snapshot.
`Command.ofList` reads a command from its name and its arguments.
-/

namespace ResourceMeter

/-- What the program is asked to do. -/
inductive Command where
  /-- Analyse simulation files against the snapshot in a file, or else that of the main network. -/
  | analyze (sims : List String) (config : Option String) (failOnViolation : Bool)
  /-- Show the snapshot in a file, or else that of the main network. -/
  | showSnapshot (config : Option String)
  deriving DecidableEq

namespace Command

/-- The option names a configuration file. -/
def configOption : OptionSpec :=
  ⟨"config", true, false⟩

/-- The option names a simulation file. -/
def simOption : OptionSpec :=
  ⟨"sim", true, true⟩

/-- The option turns safety violations into a failure. -/
def failOption : OptionSpec :=
  ⟨"fail-on-violation", false, false⟩

/-- The command that analyses simulations, of which it needs at least one. -/
def analyzeOfList (arguments : List String) : Except UsageFault Command := do
  let given ← givenOptions [simOption, configOption, failOption] arguments
  let sims := valuesOf simOption.name given
  if sims.isEmpty then .error (.missingOption simOption.name)
  else
    return .analyze sims (valuesOf configOption.name given).head?
      !(valuesOf failOption.name given).isEmpty

/-- The command that shows a snapshot. -/
def showSnapshotOfList (arguments : List String) : Except UsageFault Command := do
  let given ← givenOptions [configOption] arguments
  return .showSnapshot (valuesOf configOption.name given).head?

/-- The command that the first argument names, with the arguments that follow. -/
def ofList : List String → Except UsageFault Command
  | "analyze" :: arguments => analyzeOfList arguments
  | "config" :: arguments => showSnapshotOfList arguments
  | argument :: _ => .error (.unknownArgument argument)
  | [] => .error .helpRequested

/-- The files that the command names. -/
def paths : Command → List String
  | .analyze sims config _ => config.toList ++ sims
  | .showSnapshot config => config.toList

end Command

end ResourceMeter
