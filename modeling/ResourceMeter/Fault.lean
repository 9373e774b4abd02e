import ResourceMeter.Decimal.Fixed
import ResourceMeter.Footprint
import ResourceMeter.Json.Fault

/-!
# Faults

There are two classes. A `ConfigurationFault` condemns a configuration snapshot, an `InputFault` one
simulation. The causes carry what they are about; `Fault.message` puts them into words. A file that
cannot be read is a `ReadFault`.
-/

namespace ResourceMeter

/-- Why a file cannot be read. -/
inductive ReadFault where
  /-- The system refuses, with the number of its error and a reason in its own words. -/
  | system (code : Nat) (reason : String)
  /-- The bytes of the file are no text. -/
  | notText

namespace ReadFault

/-- The system knows no file of this name. -/
def notFound : ReadFault :=
  .system 2 "No such file or directory"

/-- The reason in words. -/
def message : ReadFault → String
  | .system code reason => reason ++ " (os error " ++ toString code ++ ")"
  | .notText => "stream did not contain valid UTF-8"

end ReadFault

/-- Why a configuration snapshot is refused. -/
inductive ConfigurationFault (α : Type) where
  | blankVersion
  /-- A limit or increment of zero. -/
  | zeroLimit (name : String)
  /-- A fee or weight that is negative or not finite. -/
  | notNonNegative (name : String) (value : α)
  /-- A safety margin that is not finite or not positive. -/
  | marginNotPositive (value : α)
  /-- A weight of a group that is negative or not finite. -/
  | invalidWeight (group name : String) (value : α)
  /-- The weights of a group do not sum to one. -/
  | weightsNotOne (group : String) (total : α)
  | thresholdsNotOrdered (low high : α)
  /-- The text holds no snapshot. -/
  | unreadable (cause : Json.Fault)
  /-- The file of the snapshot cannot be read. -/
  | unreadFile (path : String) (cause : ReadFault)

/-- Why a simulation is refused. -/
inductive InputFault (α : Type) where
  /-- The text holds no simulation. -/
  | unreadable (cause : Json.Fault)
  /-- The memory penalty is not finite. -/
  | penaltyOverflow (bytes : UInt64) (utilization : α)
  | footprintConflict (conflict : FootprintConflict)

/-- Why an assessment fails. -/
inductive Fault (α : Type) where
  | configuration (cause : ConfigurationFault α)
  | input (cause : InputFault α)

/-- The two classes of faults. -/
inductive FaultClass where
  | configuration
  | input
  deriving DecidableEq

/-- The text of a fault of a class, from what it is about. -/
def FaultClass.describe : FaultClass → String → String
  | .configuration, detail => "invalid configuration: " ++ detail
  | .input, detail => "invalid input: " ++ detail

/-- Numbers in messages are positional, with as many digits as it takes to read them back. -/
def messageLayout : Decimal.Layout :=
  ⟨none, false, false⟩

/-- The text of a number in a message. -/
def messageText (x : Float) : String :=
  Decimal.shortestText messageLayout .awayFromZero x

/-- The greatest distance from one that the sum of a weight group may have. -/
def weightTolerance {α : Type} [OfScientific α] : α :=
  0.000001

/-- The reason in words. -/
def ConfigurationFault.detail : ConfigurationFault Float → String
  | .blankVersion => "version tag must not be empty"
  | .zeroLimit name => name ++ " must be > 0"
  | .notNonNegative name value =>
    name ++ " must be a finite non-negative number, got " ++ messageText value
  | .marginNotPositive value =>
    "safety_margin must be a finite number > 0, got " ++ messageText value
  | .invalidWeight group name value =>
    group ++ " weight \x60" ++ name ++ "\x60 must be a finite non-negative number, got " ++
      messageText value
  | .weightsNotOne group total =>
    group ++ " weights must sum to 1.0 (tolerance " ++ messageText weightTolerance ++ "), got " ++
      messageText total
  | .thresholdsNotOrdered low high =>
    "scoring thresholds must satisfy 0 < low < high < 1, got low=" ++ messageText low ++
      " high=" ++ messageText high
  | .unreadable cause => "failed to parse config snapshot: " ++ cause.message
  | .unreadFile path cause =>
    "failed to read config snapshot " ++ path ++ ": " ++ cause.message

/-- The reason in words. -/
def InputFault.detail : InputFault Float → String
  | .unreadable cause => "failed to parse simulation result: " ++ cause.message
  | .penaltyOverflow bytes utilization =>
    "memory usage of " ++ toString bytes ++ " bytes (" ++ Decimal.fixedText 1 utilization ++
      "x the limit) overflows the penalty model"
  | .footprintConflict conflict => conflict.message

namespace Fault

/-- The class of a fault. -/
def faultClass {α : Type} : Fault α → FaultClass
  | .configuration _ => .configuration
  | .input _ => .input

/-- The fault in words. -/
def message : Fault Float → String
  | .configuration cause => FaultClass.configuration.describe cause.detail
  | .input cause => FaultClass.input.describe cause.detail

end Fault

end ResourceMeter
