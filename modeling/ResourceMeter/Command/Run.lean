import ResourceMeter.Analyzer
import ResourceMeter.Command
import ResourceMeter.Format.Analysis
import ResourceMeter.Format.Simulation
import ResourceMeter.Report

/-!
# Running commands

A command is a function of the files it can see and of the time: `Command.run` gives what is printed
and, when the command fails, why. What was printed before a failure stays.
-/

namespace ResourceMeter.Command

open Json

/-- The files that a command can see: each has a text, or cannot be read. -/
abbrev Files :=
  String → Except ReadFault String

/-- The files of a list, and no others. -/
def Files.ofList (files : List (String × Except ReadFault String)) : Files :=
  fun path => (files.lookup path).getD (.error .notFound)

/-- Why a command fails. -/
inductive Failure where
  | fault (cause : Fault Float)
  | unreadSimulation (path : String) (cause : ReadFault)
  | invalidSimulation (path : String) (cause : Fault Float)
  /-- The only simulation could not be analysed. -/
  | analysisFailed (path : String) (cause : Fault Float)
  /-- Some of several simulations could not be analysed. -/
  | someFailed (failures total : Nat)
  | violationsFound (violations : Nat)

/-- The failure in words, followed by its causes. -/
def Failure.messages : Failure → List String
  | .fault cause => [cause.message]
  | .unreadSimulation path cause => ["Failed to read simulation file: " ++ path, cause.message]
  | .invalidSimulation path cause => ["Invalid simulation file: " ++ path, cause.message]
  | .analysisFailed path cause => ["Failed to analyze " ++ path, cause.message]
  | .someFailed failures total =>
    [toString failures ++ " of " ++ toString total ++ " simulation(s) could not be analyzed"]
  | .violationsFound violations =>
    [toString violations ++ " safety-margin violation(s) found"]

/-- What a command prints, and why it fails if it does. -/
structure Outcome where
  printed : String
  failure : Option Failure

/-- How results are shown. -/
structure Style where
  /-- As JSON, not as a report. -/
  json : Bool
  /-- Reports have all details. -/
  verbose : Bool

/-- The snapshot in a file, or that of the main network when no file is named. -/
def loadSnapshot (files : Files) : Option String → Except (Fault Float) (Snapshot Float)
  | none => .ok .mainnet
  | some path =>
    match files path with
    | .error cause => .error (.configuration (.unreadFile path cause))
    | .ok text => Snapshot.ofText text

/-- The simulation in a file. -/
def loadSimulation (files : Files) (path : String) : Except Failure Simulation :=
  match files path with
  | .error cause => .error (.unreadSimulation path cause)
  | .ok text =>
    match Simulation.ofText text with
    | .ok sim => .ok sim
    | .error cause => .error (.invalidSimulation path cause)

/-- One analysis as it is printed when it is the only one. -/
def analysisText (style : Style) (thresholds : Thresholds Float) (analysis : Analysis Float) :
    String :=
  if style.json then analysis.pretty ++ "\n" else Report.analysis analysis thresholds style.verbose

/-- The section of a report for one of several simulations. -/
def sectionText (style : Style) (thresholds : Thresholds Float) (path : String)
    (result : Except (Fault Float) (Analysis Float)) : String :=
  "== " ++ path ++ "\n" ++
    (match result with
      | .ok analysis => Report.analysis analysis thresholds style.verbose
      | .error fault => Report.failure fault.message ++ "\n") ++ "\n"

/-- The entry for one of several simulations. -/
def entry (path : String) (result : Except (Fault Float) (Analysis Float)) : Json :=
  .object [("sim", .string path),
    match result with
    | .ok analysis => ("analysis", Analysis.codec.encode analysis)
    | .error fault => ("error", .string fault.message)]

/-- Several results as they are printed together. -/
def batchText (style : Style) (thresholds : Thresholds Float)
    (results : List (String × Except (Fault Float) (Analysis Float))) : String :=
  if style.json then
    (Json.list (results.map fun (path, result) => entry path result)).pretty ++ "\n"
  else String.join (results.map fun (path, result) => sectionText style thresholds path result)

/-- The number of violations in a result. -/
def violationCount : Except (Fault Float) (Analysis Float) → Nat
  | .ok analysis => analysis.safetyViolations.length
  | .error _ => 0

/-- A result is a failure. -/
def isFailure : Except (Fault Float) (Analysis Float) → Bool
  | .ok _ => false
  | .error _ => true

/-- The failure that violations are, if they have to be one. -/
def violationFailure (failOnViolation : Bool) (violations : Nat) : Option Failure :=
  if failOnViolation ∧ 0 < violations then some (.violationsFound violations) else none

/-- Analyses the only simulation. -/
def analyzeOne (slot : SnapshotSlot Float) (now : Timestamp) (style : Style)
    (failOnViolation : Bool) (path : String) (sim : Simulation) : Outcome :=
  match slot.analyze now sim with
  | .error cause => ⟨"", some (.analysisFailed path cause)⟩
  | .ok analysis =>
    ⟨analysisText style slot.current.tuning.thresholds analysis,
      violationFailure failOnViolation analysis.safetyViolations.length⟩

/-- Analyses several simulations. -/
def analyzeSeveral (slot : SnapshotSlot Float) (now : Timestamp) (style : Style)
    (failOnViolation : Bool) (paths : List String) (sims : List Simulation) : Outcome :=
  let results := slot.analyzeBatch now sims
  let failures := results.countP isFailure
  ⟨batchText style slot.current.tuning.thresholds (paths.zip results),
    if 0 < failures then some (.someFailed failures sims.length)
    else violationFailure failOnViolation ((results.map violationCount).foldl (· + ·) 0)⟩

/-- Analyses simulation files. -/
def analyzeFiles (files : Files) (now : Timestamp) (style : Style) (paths : List String)
    (config : Option String) (failOnViolation : Bool) : Outcome :=
  match loadSnapshot files config with
  | .error cause => ⟨"", some (.fault cause)⟩
  | .ok snapshot =>
    match SnapshotSlot.of snapshot with
    | .error cause => ⟨"", some (.fault cause)⟩
    | .ok slot =>
      match paths.mapM (loadSimulation files) with
      | .error failure => ⟨"", some failure⟩
      | .ok [sim] => analyzeOne slot now style failOnViolation (paths.headD "") sim
      | .ok sims => analyzeSeveral slot now style failOnViolation paths sims

/-- Shows a configuration snapshot. -/
def showFile (files : Files) (style : Style) (config : Option String) : Outcome :=
  match loadSnapshot files config with
  | .error cause => ⟨"", some (.fault cause)⟩
  | .ok snapshot =>
    ⟨if style.json then snapshot.pretty ++ "\n" else Report.snapshot snapshot, none⟩

/-- What a command does. -/
def run (files : Files) (now : Timestamp) (style : Style) : Command → Outcome
  | .analyze sims config failOnViolation =>
    analyzeFiles files now style sims config failOnViolation
  | .showSnapshot config => showFile files style config

end ResourceMeter.Command
