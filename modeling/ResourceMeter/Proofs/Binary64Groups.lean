import ResourceMeter.Proofs.Binary64Bounds
import ResourceMeter.Proofs.SnapshotValidity

/-!
# Weights and thresholds in binary64

Checks compare, and a comparison with a number that is infinite or no number at all says little.
Here the checks of snapshots are read in binary64: a rate or scale that passes is finite and at
least zero (`nonNegative_iff`), a weight group that passes has a finite sum which is one up to the
tolerance (`isWeightGroup_of_weightFault?`), so that no weight is above two, and thresholds that
pass are in the order of their values (`Thresholds.toRat_lt`).
-/

namespace ResourceMeter

open Arithmetic Binary64

/-- A number passes the check of rates and scales exactly if it is finite and at least zero. -/
theorem nonNegative_iff {x : Float} : NonNegative x ↔ x.isFinite = true ∧ 0.0 ≤ x := by
  unfold NonNegative
  rw [isFinite_eq]
  refine and_congr_right fun hx => ?_
  rw [lt_iff hx rfl, le_iff rfl hx, not_lt]

/-- A number that passes the check is finite. -/
theorem NonNegative.isFinite {x : Float} (h : NonNegative x) : x.isFinite = true :=
  (nonNegative_iff.1 h).1

/-- A number that passes the check is not negative. -/
theorem NonNegative.nonNeg {x : Float} (h : NonNegative x) : NonNeg x := by
  obtain ⟨hx, hnonneg⟩ := nonNegative_iff.1 h
  exact .finite hx ((le_iff rfl hx).1 hnonneg)

/-! ## Weight groups -/

/-- The weights are finite and at least zero, and their sum is one, up to the tolerance. -/
structure IsWeightGroup (weights : List Float) : Prop where
  each : ∀ weight ∈ weights, weight.isFinite = true ∧ 0.0 ≤ weight
  total : magnitude (sum weights - 1.0) ≤ 0.000001

/-- The distance of an infinite number from one is not within the tolerance. -/
theorem tolerance_lt_of_infinite {x : Float} (h : x.toModel.unpack = .infinity .positive) :
    (weightTolerance : Float) < magnitude (x - 1.0) := by
  have hdiff : (x - 1.0).toModel.unpack = .infinity .positive := by
    show (Float.Model.pack (Float.Model.UnpackedFloat.sub .binary64 x.toModel.unpack
      (1.0 : Float).toModel.unpack)).unpack = _
    rw [h]
    rfl
  have hnonneg : ¬ x - 1.0 < 0.0 := by
    rw [float_lt_iff, hdiff]
    exact nofun
  unfold magnitude
  rw [if_neg hnonneg, float_lt_iff, hdiff]
  rfl

/-- The value of minus one. -/
theorem toRat_neg_one : toRat (-1.0) = -1 := by
  decide +kernel

/-- A number that is not far below zero has a finite distance from it. -/
theorem isFinite_magnitude {x : Float} (hx : x.isFinite = true) (hlow : -1 ≤ toRat x) :
    (magnitude x).isFinite = true := by
  unfold magnitude
  split
  · next hneg =>
    rw [lt_iff hx rfl, toRat_zero] at hneg
    have hround := rounded_sub (x := 0.0) rfl hx
    rw [toRat_zero, zero_sub] at hround
    have hsub : UpTo 0 (0.0 - x) :=
      .of_rounded hround (by decide) (by linarith) (by rw [pow_zero]; linarith)
    exact hsub.finite
  · exact hx

/-- A number that is not negative and whose distance from one is not above the tolerance is finite
and at most two, and its distance is within the tolerance. -/
theorem near_one {x : Float} (hx : NonNeg x) (h : ¬ weightTolerance < magnitude (x - 1.0)) :
    x.isFinite = true ∧ toRat x ≤ 2 ∧ magnitude (x - 1.0) ≤ 0.000001 := by
  cases hx with
  | infinite hinf => exact absurd (tolerance_lt_of_infinite hinf) h
  | finite hx hnonneg =>
    have hround := rounded_sub hx (y := 1.0) rfl
    rw [toRat_one] at hround
    obtain ⟨hdiff, hlow, -⟩ := hround.between (a := -1.0) (b := x) rfl hx
      (by rw [toRat_neg_one]; linarith) (by linarith)
    rw [toRat_neg_one] at hlow
    refine ⟨hx, ?_, ?_⟩
    · by_contra hgt
      have hone : toRat 1.0 ≤ toRat (x - 1.0) :=
        hround.le_toRat hdiff rfl (by rw [toRat_one]; linarith)
      have htolerance : toRat 0.000001 < toRat 1.0 := by decide +kernel
      have hnonneg : ¬ x - 1.0 < 0.0 := by
        rw [toRat_one] at hone
        rw [lt_iff hdiff rfl, toRat_zero]
        linarith
      refine h ?_
      unfold magnitude
      rw [if_neg hnonneg, lt_iff rfl hdiff]
      exact htolerance.trans_le hone
    · have hmagnitude := isFinite_magnitude hdiff hlow
      rw [lt_iff rfl hmagnitude, not_lt] at h
      exact (le_iff hmagnitude rfl).2 h

section
variable {group : String} {weights : List (String × Float)}

/-- The sum of a group that passes its check is near to one. -/
theorem total_near_one (h : weightFault? group weights = none) :
    (∀ x ∈ weights.map Prod.snd, NonNegative x) ∧
      (sum (weights.map Prod.snd)).isFinite = true ∧ toRat (sum (weights.map Prod.snd)) ≤ 2 ∧
      magnitude (sum (weights.map Prod.snd) - 1.0) ≤ 0.000001 := by
  obtain ⟨hweights, htotal⟩ := weightFault?_eq_none_iff.1 h
  have hnonneg : ∀ x ∈ weights.map Prod.snd, NonNegative x := List.forall_mem_map.2 hweights
  exact ⟨hnonneg, near_one (.sum fun x hx => (hnonneg x hx).nonNeg) htotal⟩

/-- A group that passes its check has finite weights of at least zero with a sum near to one. -/
theorem isWeightGroup_of_weightFault? (h : weightFault? group weights = none) :
    IsWeightGroup (weights.map Prod.snd) := by
  obtain ⟨hnonneg, -, -, htotal⟩ := total_near_one h
  exact ⟨fun x hx => nonNegative_iff.1 (hnonneg x hx), htotal⟩

/-- No weight of a group that passes its check is above two. -/
theorem upTo_of_weightFault? (h : weightFault? group weights = none) :
    ∀ x ∈ weights.map Prod.snd, UpTo 1 x := by
  obtain ⟨hnonneg, hfinite, hle, -⟩ := total_near_one h
  intro x hx
  obtain ⟨hx_finite, hx_le⟩ := le_sum (fun x hx => (hnonneg x hx).nonNeg) hfinite x hx
  refine ⟨hx_finite, (hnonneg x hx).nonNeg.nonneg hx_finite, ?_⟩
  rw [pow_one]
  exact hx_le.trans hle

end

/-- The values of the named ledger weights are the weights of the dimensions. -/
theorem LedgerWeights.map_snd_named (group : LedgerWeights Float) :
    (namedLedgerWeights group.weights).map Prod.snd = LedgerDimension.all.map group.weight := by
  rw [namedLedgerWeights_eq, List.map_map]
  rfl

/-- Ledger weights are a group. -/
theorem LedgerWeights.isWeightGroup (group : LedgerWeights Float) :
    IsWeightGroup (LedgerDimension.all.map group.weight) :=
  group.map_snd_named ▸ isWeightGroup_of_weightFault? group.valid

/-- Ledger weights are at most two. -/
theorem LedgerWeights.upTo (group : LedgerWeights Float) (dimension : LedgerDimension) :
    UpTo 1 (group.weight dimension) := by
  refine upTo_of_weightFault? group.valid _ ?_
  rw [map_snd_named]
  exact List.mem_map_of_mem dimension.mem_all

/-- Score weights are a group. -/
theorem ScoreWeights.isWeightGroup (group : ScoreWeights Float) :
    IsWeightGroup [group.cpu, group.memory, group.ledger] :=
  isWeightGroup_of_weightFault? group.valid

/-! ## Thresholds -/

namespace Thresholds

variable (thresholds : Thresholds Float)

/-- Thresholds are finite. -/
theorem isFinite : thresholds.low.isFinite = true ∧ thresholds.high.isFinite = true := by
  have hordered := thresholds.ordered
  unfold thresholdsOrdered at hordered
  simp only [Bool.and_eq_true, isFinite_eq] at hordered
  exact ⟨hordered.1.1.1.1, hordered.1.1.1.2⟩

/-- Thresholds are in order. -/
theorem lt_lt_lt : 0.0 < thresholds.low ∧ thresholds.low < thresholds.high ∧
    thresholds.high < 1.0 := by
  have hordered := thresholds.ordered
  unfold thresholdsOrdered at hordered
  simp only [Bool.and_eq_true, decide_eq_true_iff] at hordered
  exact ⟨hordered.1.1.2, hordered.1.2, hordered.2⟩

/-- The values of thresholds are in order. -/
theorem toRat_lt : 0 < toRat thresholds.low ∧ toRat thresholds.low < toRat thresholds.high ∧
    toRat thresholds.high < 1 := by
  obtain ⟨hlow, hhigh⟩ := thresholds.isFinite
  obtain ⟨hpos, hlt, hone⟩ := thresholds.lt_lt_lt
  rw [lt_iff rfl hlow, toRat_zero] at hpos
  rw [lt_iff hlow hhigh] at hlt
  rw [lt_iff hhigh rfl, toRat_one] at hone
  exact ⟨hpos, hlt, hone⟩

end Thresholds

end ResourceMeter
