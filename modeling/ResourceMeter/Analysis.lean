import ResourceMeter.Cost.Ledger
import ResourceMeter.Cost.Memory
import ResourceMeter.Hint
import ResourceMeter.Safety
import ResourceMeter.Score
import ResourceMeter.Timestamp

/-!
# Analyses

`Analysis.of` assesses one simulation against one snapshot: the three costs, and what scores, hints
and safety checks make of them, under the time and the version tag of the snapshot. The first fault
of a cost is the answer, and then there is no analysis at all.
-/

namespace ResourceMeter

variable {α : Type} [Arithmetic α]

/-- The assessment of one simulation. -/
structure Analysis (α : Type) where
  costs : ResourceCosts α
  scores : Scores
  rawScores : RawScores α
  /-- The messages of the hints, the most severe first. -/
  hints : List String
  /-- The messages of the safety violations. -/
  safetyViolations : List String
  timestamp : Timestamp
  /-- The version tag of the snapshot. -/
  configVersion : String
  deriving DecidableEq

/-- The costs of a simulation: cpu first, then memory, then ledger. -/
def ResourceCosts.of [Exponential α] (sim : Simulation) (snapshot : Snapshot α) :
    Except (Fault α) (ResourceCosts α) :=
  match CpuCost.of sim snapshot with
  | .error fault => .error fault
  | .ok cpu =>
    match MemoryCost.of sim snapshot with
    | .error fault => .error fault
    | .ok memory =>
      match LedgerCost.of sim snapshot with
      | .error fault => .error fault
      | .ok ledger => .ok { cpu, memory, ledger }

namespace Analysis

/-- What scores, hints and safety checks make of the costs. -/
def ofCosts (costs : ResourceCosts α) (snapshot : Snapshot α) (timestamp : Timestamp) :
    Analysis α :=
  let tuning := snapshot.tuning
  let rawScores := RawScores.of costs tuning.thresholds
  { costs
    scores := Scores.of rawScores tuning.scoreWeights
    rawScores
    hints := (Hint.generate costs).map Hint.message
    safetyViolations :=
      (SafetyViolation.check costs tuning.safetyMargin).map SafetyViolation.message
    timestamp
    configVersion := snapshot.version }

/-- The assessment of a simulation. -/
def of [Exponential α] (sim : Simulation) (snapshot : Snapshot α) (timestamp : Timestamp) :
    Except (Fault α) (Analysis α) :=
  match ResourceCosts.of sim snapshot with
  | .error fault => .error fault
  | .ok costs => .ok (ofCosts costs snapshot timestamp)

/-- The cpu fee and the ledger fee; memory has none. -/
def totalFee (analysis : Analysis α) : α :=
  analysis.costs.cpu.fee + analysis.costs.ledger.fee

/-- No dimension is above the safety margin. -/
def isSafe (analysis : Analysis α) : Bool :=
  analysis.safetyViolations.isEmpty

end Analysis

end ResourceMeter
