import ResourceMeter.Cost
import ResourceMeter.Decimal.Fixed

/-!
# Safety margins

A dimension whose utilization is above the safety margin is a violation, whatever its score. A
utilization equal to the margin passes.
-/

namespace ResourceMeter

variable {α : Type} [Arithmetic α]

/-- A dimension that is held against the safety margin. -/
inductive SafetyDimension where
  | cpu
  | memory
  | ledger (dimension : LedgerDimension)
  deriving DecidableEq

namespace SafetyDimension

/-- All dimensions, in the order of the check. -/
def all : List SafetyDimension :=
  [.cpu, .memory] ++ LedgerDimension.all.map .ledger

/-- The name in messages. -/
def label : SafetyDimension → String
  | .cpu => "CPU"
  | .memory => "Memory"
  | .ledger dimension => "Ledger " ++ dimension.key

/-- The utilization that is held against the margin. -/
def utilization (costs : ResourceCosts α) : SafetyDimension → α
  | .cpu => costs.cpu.normalized
  | .memory => costs.memory.normalized
  | .ledger dimension => costs.ledger.breakdown.get dimension

end SafetyDimension

/-- A utilization above the margin. -/
structure SafetyViolation (α : Type) where
  dimension : SafetyDimension
  utilization : α
  margin : α
  deriving DecidableEq

namespace SafetyViolation

/-- The violation in words: the utilization in percent with one decimal place, the margin in whole
percent. -/
def message (violation : SafetyViolation α) : String :=
  violation.dimension.label ++ " at " ++ Decimal.fixedText 1 (violation.utilization * 100.0) ++
    "% exceeds " ++ Decimal.fixedText 0 (violation.margin * 100.0) ++ "% safety margin"

/-- The violations of a margin, in the order of the dimensions. -/
def check (costs : ResourceCosts α) (margin : α) : List (SafetyViolation α) :=
  (SafetyDimension.all.filter fun dimension => decide (margin < dimension.utilization costs)).map
    fun dimension => ⟨dimension, dimension.utilization costs, margin⟩

end SafetyViolation

end ResourceMeter
