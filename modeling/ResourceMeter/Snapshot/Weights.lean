import ResourceMeter.Fault
import ResourceMeter.LedgerDimension

/-!
# Weight groups

The weights of a group are finite, not negative and sum to one, up to a tolerance; a group that does
not is refused and never normalised. The types hold the rule, so every group in use satisfies it.
-/

namespace ResourceMeter

open Arithmetic

variable {α : Type} [Arithmetic α]

/-- A weight that is finite and not negative. -/
def isWeight (weight : α) : Bool :=
  isFinite weight && !decide (weight < 0.0)

/-- What is wrong with a group of named weights: the first that is no weight, or else the sum. -/
def weightFault? (group : String) (weights : List (String × α)) : Option (ConfigurationFault α) :=
  match weights.find? fun (_, weight) => !isWeight weight with
  | some (name, weight) => some (.invalidWeight group name weight)
  | none =>
    let total := sum (weights.map Prod.snd)
    if weightTolerance < magnitude (total - 1.0) then some (.weightsNotOne group total) else none

/-- Weights in reporting order with the names of the ledger dimensions. -/
def namedLedgerWeights (weights : Vector α 5) : List (String × α) :=
  (LedgerDimension.all.zip weights.toList).map fun (dimension, weight) => (dimension.key, weight)

/-- An array of five holds these values. -/
theorem toList_five {β : Type} (values : Vector β 5) :
    values.toList = [values[0], values[1], values[2], values[3], values[4]] := by
  refine List.ext_getElem Vector.length_toList fun i hi _ => ?_
  rw [Vector.length_toList] at hi
  rw [Vector.getElem_toList]
  match i, hi with
  | 0, _ | 1, _ | 2, _ | 3, _ | 4, _ => rfl

omit [Arithmetic α] in
/-- Each weight has the name of the dimension at whose place it is. -/
theorem namedLedgerWeights_eq (weights : Vector α 5) : namedLedgerWeights weights =
    LedgerDimension.all.map fun dimension => (dimension.key, weights[dimension.index]) := by
  rw [namedLedgerWeights, toList_five]
  rfl

/-- The weights of the five ledger utilizations in the ledger cost, in reporting order. -/
structure LedgerWeights (α : Type) [Arithmetic α] where
  weights : Vector α 5
  valid : weightFault? "ledger" (namedLedgerWeights weights) = none

namespace LedgerWeights

/-- The weights as a group, if they are one. -/
def of (weights : Vector α 5) : Except (ConfigurationFault α) (LedgerWeights α) :=
  match h : weightFault? "ledger" (namedLedgerWeights weights) with
  | none => .ok ⟨weights, h⟩
  | some fault => .error fault

/-- The weight of a dimension. -/
def weight (group : LedgerWeights α) (dimension : LedgerDimension) : α :=
  group.weights[dimension.index]

/-- Weights by name as a group, if they are one. -/
def ofNamed (v : LedgerVector α) : Except (ConfigurationFault α) (LedgerWeights α) :=
  of #v[v.readEntries, v.readBytes, v.writeEntries, v.writeBytes, v.bandwidth]

/-- The weights by name. -/
def toNamed (group : LedgerWeights α) : LedgerVector α where
  readEntries := group.weights[0]
  readBytes := group.weights[1]
  writeEntries := group.weights[2]
  writeBytes := group.weights[3]
  bandwidth := group.weights[4]

@[simp] theorem get_toNamed (group : LedgerWeights α) (dimension : LedgerDimension) :
    group.toNamed.get dimension = group.weight dimension := by
  cases dimension <;> rfl

/-- The weights are those of the dimensions, in reporting order. -/
theorem toList_weights (group : LedgerWeights α) :
    group.weights.toList = LedgerDimension.all.map group.weight := by
  rw [toList_five]
  rfl

/-- The same weight for every dimension. -/
def uniform : LedgerWeights Float where
  weights := .replicate 5 0.2
  valid := by decide +kernel

end LedgerWeights

/-- Named weights of the three scores. -/
def namedScoreWeights (cpu memory ledger : α) : List (String × α) :=
  [("cpu", cpu), ("memory", memory), ("ledger", ledger)]

/-- The weights of the three scores in the total score. -/
structure ScoreWeights (α : Type) [Arithmetic α] where
  cpu : α
  memory : α
  ledger : α
  valid : weightFault? "score" (namedScoreWeights cpu memory ledger) = none

namespace ScoreWeights

/-- The weights as a group, if they are one. -/
def of (cpu memory ledger : α) : Except (ConfigurationFault α) (ScoreWeights α) :=
  match h : weightFault? "score" (namedScoreWeights cpu memory ledger) with
  | none => .ok ⟨cpu, memory, ledger, h⟩
  | some fault => .error fault

/-- Cpu and ledger weigh the same, memory half as much. -/
def standard : ScoreWeights Float where
  cpu := 0.4
  memory := 0.2
  ledger := 0.4
  valid := by decide +kernel

end ScoreWeights

end ResourceMeter
