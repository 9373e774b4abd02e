import ResourceMeter.Command.Run
import ResourceMeter.Command.Usage
import Std.Time.DateTime.Timestamp

/-!
# The program

Reads the files that the command names and the clock, runs the command, and prints what it gives.
The exit code is 0 on success, 1 on failure and 2 when the arguments are refused.
-/

open ResourceMeter

/-- The number of an error of the system, which some calls report as a negative one. -/
def errorNumber (code : UInt32) : Nat :=
  (if code < 0x80000000 then code else 0 - code).toNat

/-- Why a file cannot be read, from the error of the attempt. -/
def readFault : IO.Error → ReadFault
  | .noFileOrDirectory .. => .notFound
  | .userError _ | .unexpectedEof => .notText
  | .alreadyExists _ code reason | .interrupted _ code reason | .invalidArgument _ code reason
  | .permissionDenied _ code reason | .resourceExhausted _ code reason
  | .inappropriateType _ code reason | .noSuchThing _ code reason => system code reason
  | .otherError code reason | .resourceBusy code reason | .resourceVanished code reason
  | .unsupportedOperation code reason | .hardwareFault code reason
  | .unsatisfiedConstraints code reason | .illegalOperation code reason
  | .protocolError code reason | .timeExpired code reason => system code reason
where
  system (code : UInt32) (reason : String) : ReadFault :=
    .system (errorNumber code) reason.capitalize

/-- The text of a file, or why it cannot be read. -/
def readFile (path : String) : IO (Except ReadFault String) :=
  try
    return .ok (← IO.FS.readFile path)
  catch error =>
    return .error (readFault error)

/-- The files of some names. -/
def readFiles (paths : List String) : IO Command.Files := do
  let files ← paths.mapM fun path => do
    return (path, ← readFile path)
  return .ofList files

/-- The time of the clock. -/
def readClock : IO Timestamp := do
  let now ← Std.Time.Timestamp.now
  return ⟨now.val.second.val, now.val.nano.val.toNat⟩

/-- Runs the program on the arguments of the command line. -/
def main (arguments : List String) : IO UInt32 := do
  let style : Command.Style :=
    ⟨arguments.any Command.isJsonFlag, arguments.any Command.isVerboseFlag⟩
  match Command.ofList (Command.commandArguments arguments) with
  | .error fault =>
    IO.eprintln fault.message
    return 2
  | .ok command =>
    let files ← readFiles command.paths
    let outcome := Command.run files (← readClock) style command
    IO.print outcome.printed
    match outcome.failure with
    | none => return 0
    | some failure =>
      IO.eprintln (Command.failureText failure.messages)
      return 1
