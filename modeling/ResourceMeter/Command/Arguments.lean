/-!
# Command-line arguments

Options have a long name and take a value or none; a value follows as the next argument or behind an
equals sign. Arguments are taken from the left, and the first one that does not fit is the answer.
An option that is still waiting for its value is settled when the next known option or the end of
the arguments shows that nothing more belongs to it; an unknown argument is reported before that.
-/

namespace ResourceMeter.Command

/-- Why arguments are refused, or that help was asked for. -/
inductive UsageFault where
  | missingOption (name : String)
  | invalidValue (name : String)
  | unknownArgument (argument : String)
  | repeatedOption (name : String)
  | unexpectedValue (name : String)
  | helpRequested
  deriving DecidableEq

/-- An option of a command. -/
structure OptionSpec where
  name : String
  takesValue : Bool
  repeatable : Bool
  deriving DecidableEq

/-- The option that every command has. -/
def helpOption : OptionSpec :=
  ⟨"help", false, false⟩

/-- An option as it was given; one that takes no value has the empty one. -/
structure GivenOption where
  name : String
  value : String
  deriving DecidableEq

/-- What has been read of the arguments. -/
structure ArgumentState where
  /-- The options that are settled, the last first. -/
  given : List GivenOption
  /-- An option that takes a value, and its value as soon as it is known. -/
  pending : Option (OptionSpec × Option String)
  /-- Options have ended. -/
  ended : Bool

namespace ArgumentState

/-- The state before any argument. -/
def start : ArgumentState :=
  ⟨[], none, false⟩

/-- Adds an option; only a repeatable one may be given twice, and no value is empty. -/
def add (state : ArgumentState) (spec : OptionSpec) (value : String) :
    Except UsageFault ArgumentState :=
  if !spec.repeatable && state.given.any (·.name == spec.name) then
    .error (.repeatedOption spec.name)
  else if spec.takesValue && value.isEmpty then .error (.invalidValue spec.name)
  else .ok { state with given := ⟨spec.name, value⟩ :: state.given }

/-- Settles the option that is pending. -/
def settle (state : ArgumentState) : Except UsageFault ArgumentState :=
  match state.pending with
  | none => .ok state
  | some (spec, none) => .error (.invalidValue spec.name)
  | some (spec, some value) => { state with pending := none }.add spec value

/-- An option that takes no value. -/
def flag (state : ArgumentState) (spec : OptionSpec) : Except UsageFault ArgumentState := do
  let state ← state.settle
  if spec = helpOption then .error .helpRequested else state.add spec ""

/-- The argument `--name` or `--name=value`. -/
def long (specs : List OptionSpec) (state : ArgumentState) (name : String)
    (attached : Option String) (argument : String) : Except UsageFault ArgumentState :=
  match (helpOption :: specs).find? (·.name == name) with
  | none => .error (.unknownArgument argument)
  | some spec =>
    match spec.takesValue, attached with
    | true, some value => do
      let state ← state.settle
      state.add spec value
    | true, none => do
      let state ← state.settle
      .ok { state with pending := some (spec, none) }
    | false, some _ => .error (.unexpectedValue spec.name)
    | false, none => state.flag spec

/-- An argument that is no option: the value that the pending option waits for. -/
def word (state : ArgumentState) (argument : String) : Except UsageFault ArgumentState :=
  match state.pending with
  | some (spec, none) => .ok { state with pending := some (spec, some argument) }
  | _ => .error (.unknownArgument argument)

/-- Takes one argument. -/
def step (specs : List OptionSpec) (state : ArgumentState) (argument : String) :
    Except UsageFault ArgumentState :=
  if state.ended then .error (.unknownArgument argument)
  else match argument.toList with
    | ['-', '-'] => .ok { state with ended := true }
    | '-' :: '-' :: cs =>
      let name := String.ofList (cs.takeWhile (· != '='))
      match cs.dropWhile (· != '=') with
      | [] => state.long specs name none argument
      | _ :: value => state.long specs name (some (String.ofList value)) argument
    | ['-'] => state.word argument
    | '-' :: 'h' :: _ => state.flag helpOption
    | '-' :: _ => .error (.unknownArgument argument)
    | _ => state.word argument

end ArgumentState

/-- The options that the arguments give, in their order. -/
def givenOptions (specs : List OptionSpec) (arguments : List String) :
    Except UsageFault (List GivenOption) := do
  let state ← arguments.foldlM (ArgumentState.step specs) .start
  let state ← state.settle
  return state.given.reverse

/-- The values of an option. -/
def valuesOf (name : String) (given : List GivenOption) : List String :=
  (given.filter (·.name == name)).map (·.value)

end ResourceMeter.Command
