import ResourceMeter.Proofs.ScoreOrder

/-!
# Reported scores as whole numbers

A reported score is the greatest whole number up to 100 that some rational number reaches
(`CappedFloor`). In exact arithmetic that number is the clamped raw score with the tolerance for a
dimension (`Exact.cappedFloor_displayScore`), and the weighted mean and a half for the total
(`Exact.cappedFloor_total`). Bounds on reported scores are read from there.
-/

namespace ResourceMeter

open Arithmetic

/-! ## The greatest whole number up to 100 -/

/-- The whole number is the greatest one up to 100 that the rational number reaches. -/
structure CappedFloor (q : Rat) (n : Nat) : Prop where
  le_hundred : n ≤ 100
  le_iff : ∀ k ≤ 100, k ≤ n ↔ (k : Rat) ≤ q

namespace CappedFloor

variable {q : Rat} {n : Nat}

/-- The number reaches it. -/
theorem cast_le (h : CappedFloor q n) : (n : Rat) ≤ q :=
  (h.le_iff n h.le_hundred).1 le_rfl

/-- The number does not reach the next one, unless this is beyond 100. -/
theorem lt_add_one (h : CappedFloor q n) (hn : n < 100) : q < n + 1 := by
  have hnext := not_congr (h.le_iff (n + 1) hn)
  rw [Nat.cast_add_one, not_le, not_le] at hnext
  exact hnext.1 (Nat.lt_succ_self n)

/-- A bound of less than one more than a whole number bounds it. -/
theorem le_of_lt (h : CappedFloor q n) {k : Nat} (hq : q < k + 1) : n ≤ k := by
  have hlt : (n : Rat) < (k + 1 : Nat) := h.cast_le.trans_lt (by rwa [Nat.cast_add_one])
  exact Nat.le_of_lt_succ (by exact_mod_cast hlt)

/-- Of a number that is not negative, the whole part is cut off at 100. -/
theorem of_floor (hq : 0 ≤ q) : CappedFloor q (UInt8.ofNat (min q.floor.toNat 100)).toNat := by
  have hbyte : min q.floor.toNat 100 < UInt8.size :=
    Nat.lt_of_le_of_lt (Nat.min_le_right _ _) (by decide)
  have hfloor : 0 ≤ q.floor := Rat.le_floor_iff.2 hq
  rw [UInt8.toNat_ofNat_of_lt' hbyte]
  refine ⟨Nat.min_le_right _ _, fun k hk => ?_⟩
  rw [Nat.le_min, and_iff_left hk, Int.le_toNat hfloor, Rat.le_floor_iff, Int.cast_natCast]

end CappedFloor

/-! ## Reported scores -/

namespace Exact

variable {exp sqrt : Rat → Rat}

/-- The tolerance of reported scores. -/
theorem toRat_scoreFloorTolerance :
    (scoreFloorTolerance : Exact exp sqrt).toRat = 1 / 1000000000 := by
  unfold scoreFloorTolerance
  rw [toRat_ofScientific]
  norm_num

/-- The score of a dimension is cut down from the clamped raw score with the tolerance. -/
theorem cappedFloor_displayScore (raw : Exact exp sqrt) :
    CappedFloor (max 0 (min raw.toRat 100) + 1 / 1000000000) (displayScore raw).toNat := by
  have hsum : (clampScore raw + scoreFloorTolerance).toRat =
      max 0 (min raw.toRat 100) + 1 / 1000000000 := by
    rw [toRat_add, toRat_clampScore, toRat_scoreFloorTolerance]
  have hnonneg : 0 ≤ (clampScore raw + scoreFloorTolerance).toRat := by
    rw [hsum]
    positivity
  rw [← hsum]
  unfold displayScore
  rw [value_of_nonneg hnonneg]
  exact .of_floor hnonneg

/-- The total is cut down from the weighted mean and a half. -/
theorem cappedFloor_total (raw : RawScores (Exact exp sqrt))
    (weights : ScoreWeights (Exact exp sqrt)) :
    CappedFloor ((raw.weighted weights).toRat + 1 / 2) (Scores.of raw weights).total.toNat := by
  have hnonneg := raw.weighted_nonneg weights
  unfold Scores.of
  dsimp only
  rw [value_of_nonneg hnonneg]
  exact .of_floor (add_nonneg hnonneg (by norm_num))

end Exact

end ResourceMeter
