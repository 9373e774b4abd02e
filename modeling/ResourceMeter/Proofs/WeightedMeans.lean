import Mathlib.Algebra.BigOperators.Ring.List
import ResourceMeter.Proofs.Exact

/-!
# Weighted means

The weights of a group sum to one only up to a tolerance, and what they weigh is never normalised.
So a mean under such weights is between the least and the greatest of its values only up to that
tolerance (`le_weightedMean`, `weightedMean_le`).
-/

namespace ResourceMeter

open Arithmetic

variable {exp sqrt : Rat → Rat}

namespace Exact

/-- The distance from zero. -/
theorem toRat_magnitude (x : Exact exp sqrt) : (magnitude x).toRat = |x.toRat| := by
  have hzero : (0.0 : Exact exp sqrt).toRat = 0 := by
    rw [toRat_ofScientific]
    norm_num
  unfold magnitude
  split_ifs with h
  · rw [lt_iff, hzero] at h
    rw [toRat_sub, hzero, zero_sub, abs_of_neg h]
  · rw [lt_iff, hzero, not_lt] at h
    rw [abs_of_nonneg h]

/-- The tolerance of weight groups. -/
theorem toRat_weightTolerance : (weightTolerance : Exact exp sqrt).toRat = 1 / 1000000 := by
  unfold weightTolerance
  rw [toRat_ofScientific]
  norm_num

/-- The weights of a valid group are not negative and sum to one, up to the tolerance. -/
theorem weights_near_one {group : String} {weights : List (String × Exact exp sqrt)}
    (h : weightFault? group weights = none) :
    (∀ p ∈ weights, 0 ≤ p.2.toRat) ∧
      1 - 1 / 1000000 ≤ (weights.map fun p => p.2.toRat).sum ∧
      (weights.map fun p => p.2.toRat).sum ≤ 1 + 1 / 1000000 := by
  obtain ⟨hweights, htotal⟩ := weightFault?_eq_none_iff.1 h
  have hone : (1.0 : Exact exp sqrt).toRat = 1 := by
    rw [toRat_ofScientific]
    norm_num
  rw [lt_iff, not_lt, toRat_magnitude, toRat_weightTolerance, toRat_sub, toRat_sum, hone,
    List.map_map, abs_le] at htotal
  have hsum : (weights.map fun p => p.2.toRat) = weights.map (toRat ∘ Prod.snd) := rfl
  rw [hsum]
  exact ⟨fun p hp => (nonNegative_iff _).1 (hweights p hp), by linarith [htotal.1],
    by linarith [htotal.2]⟩

end Exact

/-! ## Bounds -/

/-- Values with their weights: no weight is negative, and all of them sum to one, up to the
tolerance. -/
structure IsWeighted (terms : List (Rat × Rat)) : Prop where
  nonneg : ∀ term ∈ terms, 0 ≤ term.1
  le_sum : 1 - 1 / 1000000 ≤ (terms.map Prod.fst).sum
  sum_le : (terms.map Prod.fst).sum ≤ 1 + 1 / 1000000

/-- The sum of the values, each times its weight. -/
def weightedMean (terms : List (Rat × Rat)) : Rat :=
  (terms.map fun term => term.1 * term.2).sum

variable {terms : List (Rat × Rat)}

/-- A mean falls short of a lower bound on the values by no more than the tolerance. -/
theorem IsWeighted.le_weightedMean (h : IsWeighted terms) (bound : Rat) (hbound : 0 ≤ bound)
    (hterms : ∀ term ∈ terms, bound ≤ term.2) :
    (1 - 1 / 1000000) * bound ≤ weightedMean terms :=
  calc (1 - 1 / 1000000) * bound ≤ (terms.map Prod.fst).sum * bound :=
        mul_le_mul_of_nonneg_right h.le_sum hbound
    _ = (terms.map fun term => term.1 * bound).sum := (List.sum_map_mul_right ..).symm
    _ ≤ weightedMean terms := List.sum_le_sum fun term hterm =>
        mul_le_mul_of_nonneg_left (hterms term hterm) (h.nonneg term hterm)

/-- A mean exceeds an upper bound on the values by no more than the tolerance. -/
theorem IsWeighted.weightedMean_le (h : IsWeighted terms) (bound : Rat) (hbound : 0 ≤ bound)
    (hterms : ∀ term ∈ terms, term.2 ≤ bound) :
    weightedMean terms ≤ (1 + 1 / 1000000) * bound :=
  calc weightedMean terms ≤ (terms.map fun term => term.1 * bound).sum :=
        List.sum_le_sum fun term hterm =>
          mul_le_mul_of_nonneg_left (hterms term hterm) (h.nonneg term hterm)
    _ = (terms.map Prod.fst).sum * bound := List.sum_map_mul_right ..
    _ ≤ (1 + 1 / 1000000) * bound := mul_le_mul_of_nonneg_right h.sum_le hbound

end ResourceMeter
