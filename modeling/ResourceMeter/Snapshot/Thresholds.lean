import ResourceMeter.Fault

/-!
# Scoring thresholds

Two utilizations separate the three score bands. They satisfy `0 < low < high < 1`, which the type
holds.
-/

namespace ResourceMeter

open Arithmetic

variable {α : Type} [Arithmetic α]

/-- Both numbers are finite and `0 < low < high < 1`. -/
def thresholdsOrdered (low high : α) : Bool :=
  isFinite low && isFinite high && decide (0.0 < low) && decide (low < high) && decide (high < 1.0)

/-- The utilizations that separate the score bands. -/
structure Thresholds (α : Type) [Arithmetic α] where
  low : α
  high : α
  ordered : thresholdsOrdered low high = true

namespace Thresholds

/-- The thresholds, if they are ordered. -/
def of (low high : α) : Except (ConfigurationFault α) (Thresholds α) :=
  if h : thresholdsOrdered low high = true then .ok ⟨low, high, h⟩
  else .error (.thresholdsNotOrdered low high)

/-- Half of a limit and four fifths of it. -/
def standard : Thresholds Float where
  low := 0.5
  high := 0.8
  ordered := by decide +kernel

end Thresholds

end ResourceMeter
