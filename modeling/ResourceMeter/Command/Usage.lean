import ResourceMeter.Command.Arguments

/-!
# The arguments of the program

The first argument that is no global option names the command. Global options may stand anywhere and
choose the style of the output; what remains are the arguments of the command.
-/

namespace ResourceMeter.Command

/-- An argument that asks for JSON. -/
def isJsonFlag (argument : String) : Bool :=
  argument == "--json"

/-- An argument that asks for details. -/
def isVerboseFlag (argument : String) : Bool :=
  argument == "--verbose" || argument == "-v"

/-- The arguments without the global options. -/
def commandArguments (arguments : List String) : List String :=
  arguments.filter fun argument => !isJsonFlag argument && !isVerboseFlag argument

/-- What is wrong with the arguments, in words. -/
def UsageFault.message : UsageFault → String
  | .missingOption name => "the following required arguments were not provided: --" ++ name
  | .invalidValue name => "a value is required for '--" ++ name ++ "' but none was supplied"
  | .unknownArgument argument => "unexpected argument '" ++ argument ++ "' found"
  | .repeatedOption name => "the argument '--" ++ name ++ "' cannot be used multiple times"
  | .unexpectedValue name => "unexpected value for '--" ++ name ++ "' found; no more were expected"
  | .helpRequested =>
    "commands: analyze --sim FILE... [--config FILE] [--fail-on-violation], config [--config FILE]"

/-- A failure with its causes, as it is shown to the user. -/
def failureText : List String → String
  | [] => ""
  | [message] => "Error: " ++ message
  | message :: causes =>
    "Error: " ++ message ++ "\n\nCaused by:" ++ String.join (causes.map ("\n    " ++ ·))

end ResourceMeter.Command
