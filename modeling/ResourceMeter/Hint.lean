import ResourceMeter.Cost.Cpu
import ResourceMeter.Decimal.Fixed

/-!
# Hints

Hints come from a fixed table of rules, `HintRule.table`. Each rule has a condition on the costs, a
severity and a template for its message. The hints of all rules whose condition holds are ranked by
severity, the most severe first, and rules of equal severity keep the order of the table. When no
other rule holds, the hint of the rule for that case stands alone.
-/

namespace ResourceMeter

open Arithmetic

variable {α : Type} [Arithmetic α]

/-- How severe a hint is, from the least to the most severe. -/
inductive Severity where
  | info
  | tip
  | moderate
  | warning
  | high
  | critical
  deriving DecidableEq

namespace Severity

/-- The place in the order of severities. -/
def rank : Severity → Nat
  | .info => 0
  | .tip => 1
  | .moderate => 2
  | .warning => 3
  | .high => 4
  | .critical => 5

/-- The name in data. -/
def name : Severity → String
  | .info => "info"
  | .tip => "tip"
  | .moderate => "moderate"
  | .warning => "warning"
  | .high => "high"
  | .critical => "critical"

/-- All severities, the least severe first. -/
def all : List Severity :=
  [.info, .tip, .moderate, .warning, .high, .critical]

/-- Severities are compared by their places. -/
instance : LE Severity where
  le s t := s.rank ≤ t.rank

instance : DecidableLE Severity :=
  fun s t => inferInstanceAs (Decidable (s.rank ≤ t.rank))

end Severity

/-- What a hint is about. -/
inductive HintKind where
  | criticalCpu
  | highCpu
  | ledgerPressure
  | criticalMemory
  | moderateMemory
  | highLedger
  | redundantReads
  | efficient
  deriving DecidableEq

namespace HintKind

/-- The name in data. -/
def name : HintKind → String
  | .criticalCpu => "critical_cpu"
  | .highCpu => "high_cpu"
  | .ledgerPressure => "ledger_pressure"
  | .criticalMemory => "critical_memory"
  | .moderateMemory => "moderate_memory"
  | .highLedger => "high_ledger"
  | .redundantReads => "redundant_reads"
  | .efficient => "efficient"

/-- All kinds. -/
def all : List HintKind :=
  [.criticalCpu, .highCpu, .ledgerPressure, .criticalMemory, .moderateMemory, .highLedger,
   .redundantReads, .efficient]

end HintKind

/-- The condition of a rule. A range is open below and closed above. -/
inductive HintCondition (α : Type) where
  | cpuAbove (limit : α)
  | cpuWithin (above upTo : α)
  | pressureAbove (limit : α)
  | memoryAbove (limit : α)
  | memoryWithin (above upTo : α)
  | ledgerAbove (dimension : LedgerDimension) (limit : α)
  | cpuAndReadEntriesAbove (cpu readEntries : α)
  /-- No other rule holds. -/
  | noOtherHint

/-- The number, if it lies in the range, which is open below and closed above. -/
def within? (x above upTo : α) : Option α :=
  if above < x ∧ x ≤ upTo then some x else none

/-- The number, if it is above the limit. -/
def above? (x limit : α) : Option α :=
  if limit < x then some x else none

/-- The utilization that a message reports, if the condition holds of the costs. -/
def HintCondition.measure? (costs : ResourceCosts α) : HintCondition α → Option α
  | .cpuAbove limit => above? costs.cpu.normalized limit
  | .cpuWithin above upTo => within? costs.cpu.normalized above upTo
  | .pressureAbove limit =>
    (above? costs.cpu.pressure limit).map fun _ => costs.cpu.ledgerUtilization
  | .memoryAbove limit => above? costs.memory.normalized limit
  | .memoryWithin above upTo => within? costs.memory.normalized above upTo
  | .ledgerAbove dimension limit => above? (costs.ledger.breakdown.get dimension) limit
  | .cpuAndReadEntriesAbove cpu readEntries =>
    if cpu < costs.cpu.normalized ∧ readEntries < costs.ledger.breakdown.readEntries then
      some costs.cpu.normalized
    else none
  | .noOtherHint => none

/-- A piece of a message template. -/
inductive HintPiece where
  | text (s : String)
  /-- The reported utilization in percent, with a number of decimal places. -/
  | percent (places : Nat)
  /-- The label of a ledger dimension. -/
  | label (dimension : LedgerDimension)
  deriving DecidableEq

/-- A utilization in percent. -/
def percentText (places : Nat) (utilization : α) : String :=
  Decimal.fixedText places (utilization * 100.0) ++ "%"

/-- The text of a piece in a message that reports a utilization. -/
def HintPiece.render (utilization : α) : HintPiece → String
  | .text s => s
  | .percent places => percentText places utilization
  | .label dimension => dimension.label

/-- A row of the hint table. -/
structure HintRule (α : Type) where
  kind : HintKind
  condition : HintCondition α
  severity : Severity
  template : List HintPiece

/-- A hint. -/
structure Hint where
  kind : HintKind
  severity : Severity
  message : String
  deriving DecidableEq

namespace HintRule

/-- The rule for a ledger dimension. -/
def ofDimension (dimension : LedgerDimension) : HintRule α where
  kind := .highLedger
  condition := .ledgerAbove dimension 0.75
  severity := .high
  template := [.text "HIGH ", .label dimension, .text ". Consider batching or compression."]

/-- The rule for costs on which no other rule has anything to say. -/
def efficient : HintRule α where
  kind := .efficient
  condition := .noOtherHint
  severity := .info
  template := [.text "Excellent resource efficiency!"]

/-- The hint table. -/
def table : List (HintRule α) :=
  [{ kind := .criticalCpu
     condition := .cpuAbove 0.8
     severity := .critical
     template := [.text "CRITICAL: CPU usage at ", .percent 0,
       .text ". Reduce instruction count."] },
   { kind := .highCpu
     condition := .cpuWithin 0.6 0.8
     severity := .high
     template := [.text "HIGH CPU: Optimize hot loops and host function calls."] },
   { kind := .ledgerPressure
     condition := .pressureAbove 0.5
     severity := .warning
     template := [.text "High ledger CPU pressure (", .percent 1, .text ")."] },
   { kind := .criticalMemory
     condition := .memoryAbove 0.7
     severity := .critical
     template := [.text "CRITICAL: Memory usage at ", .percent 0,
       .text ". Optimize allocations."] },
   { kind := .moderateMemory
     condition := .memoryWithin 0.5 0.7
     severity := .moderate
     template := [.text "MODERATE memory usage. Review data structure sizes."] },
   ofDimension .readEntries,
   ofDimension .readBytes,
   ofDimension .writeEntries,
   ofDimension .writeBytes,
   ofDimension .bandwidth,
   { kind := .redundantReads
     condition := .cpuAndReadEntriesAbove 0.7 0.5
     severity := .tip
     template := [.text "TIP: High CPU + reads. Check for redundant storage accesses."] },
   efficient]

/-- The hint of a rule, with a message that reports the utilization. -/
def hint (rule : HintRule α) (utilization : α) : Hint where
  kind := rule.kind
  severity := rule.severity
  message := String.join (rule.template.map (HintPiece.render utilization))

/-- The hint of a rule, if its condition holds. -/
def fire? (costs : ResourceCosts α) (rule : HintRule α) : Option Hint :=
  (rule.condition.measure? costs).map rule.hint

end HintRule

namespace Hint

/-- The hints of the rules that hold, in table order. -/
def fired (costs : ResourceCosts α) : List Hint :=
  (HintRule.table : List (HintRule α)).filterMap (HintRule.fire? costs)

/-- The first hint is at least as severe as the second. -/
def rankedBefore (first second : Hint) : Bool :=
  decide (second.severity ≤ first.severity)

/-- The hints for the costs, the most severe first. There is always at least one. -/
def generate (costs : ResourceCosts α) : List Hint :=
  let hints := fired costs
  let hints := if hints.isEmpty then [(HintRule.efficient : HintRule α).hint 0.0] else hints
  hints.mergeSort rankedBefore

end Hint

end ResourceMeter
