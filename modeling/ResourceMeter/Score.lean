import ResourceMeter.Cost
import ResourceMeter.Snapshot.Tuning

/-!
# Scores

A utilization is scored by a piecewise linear function with three bands, which meet at the
thresholds:

| Band      | Utilization       | Score                                     |
|-----------|-------------------|-------------------------------------------|
| excellent | below `low`       | from 100 down to 80                       |
| good      | `low` to `high`   | from 80 down to 50                        |
| poor      | `high` and above  | from 50 down to 0 at one, negative beyond |

The raw scores keep their sign; the reported scores are whole numbers from 0 to 100.
-/

namespace ResourceMeter

open Arithmetic

variable {α : Type} [Arithmetic α]

/-- The band of a utilization. -/
inductive ScoreBand where
  | excellent
  | good
  | poor
  deriving DecidableEq

/-- The band in which a utilization lies; what compares with no threshold is poor. -/
def ScoreBand.of (utilization : α) (thresholds : Thresholds α) : ScoreBand :=
  if utilization < thresholds.low then .excellent
  else if utilization < thresholds.high then .good
  else .poor

/-- The score of a utilization, with its sign. -/
def rawScore (utilization : α) (thresholds : Thresholds α) : α :=
  let low := thresholds.low
  let high := thresholds.high
  match ScoreBand.of utilization thresholds with
  | .excellent => 100.0 - utilization / low * 20.0
  | .good => 80.0 - (utilization - low) / (high - low) * 30.0
  | .poor => 50.0 - (utilization - high) / (1.0 - high) * 50.0

/-- What a score may fall short of a whole number and still count as that number. -/
def scoreFloorTolerance : α :=
  0.000000001

/-- The raw score moved into the range from 0 to 100. -/
def clampScore (raw : α) : α :=
  clamp raw 0.0 100.0

/-- A value cut down to a whole number of at most 100. No number at all counts as 100. -/
def NumberValue.floorScore : NumberValue → UInt8
  | .notANumber => 100
  | .infinite negative => if negative then 0 else 100
  | .finite negative magnitude =>
    if negative then 0 else UInt8.ofNat (min magnitude.floor.toNat 100)

/-- The reported score of a dimension: clamped and cut down to a whole number. -/
def displayScore (raw : α) : UInt8 :=
  (value (clampScore raw + scoreFloorTolerance)).floorScore

/-- A value rounded to a whole number from 0 to 100, where halves go up. No number at all counts
as 0. -/
def NumberValue.roundScore : NumberValue → UInt8
  | .notANumber => 0
  | .infinite negative => if negative then 0 else 100
  | .finite negative magnitude =>
    if negative then 0 else UInt8.ofNat (min (magnitude + 1 / 2).floor.toNat 100)

/-- The reported scores. -/
structure Scores where
  cpu : UInt8
  memory : UInt8
  ledger : UInt8
  total : UInt8
  deriving DecidableEq

/-- The signed scores of the dimensions. -/
structure RawScores (α : Type) where
  cpu : α
  memory : α
  ledger : α
  deriving DecidableEq

/-- The signed scores of the three costs. -/
def RawScores.of (costs : ResourceCosts α) (thresholds : Thresholds α) : RawScores α :=
  { cpu := rawScore costs.cpu.normalized thresholds
    memory := rawScore costs.memory.normalized thresholds
    ledger := rawScore costs.ledger.normalized thresholds }

/-- The weighted mean of the clamped raw scores. -/
def RawScores.weighted (raw : RawScores α) (weights : ScoreWeights α) : α :=
  weights.cpu * clampScore raw.cpu + weights.memory * clampScore raw.memory +
    weights.ledger * clampScore raw.ledger

/-- The reported scores. The total rounds the weighted mean of the raw scores, so that what each
dimension loses by cutting down does not add up. -/
def Scores.of (raw : RawScores α) (weights : ScoreWeights α) : Scores :=
  { cpu := displayScore raw.cpu
    memory := displayScore raw.memory
    ledger := displayScore raw.ledger
    total := (value (raw.weighted weights)).roundScore }

end ResourceMeter
