import ResourceMeter.Proofs.Binary64Brackets
import ResourceMeter.Proofs.ReportedScores
import ResourceMeter.Proofs.ScoreRange

/-!
# Scores of exceeded limits

In the arithmetic of the running program a utilization of one or more, infinity included, has the
reported score 0 (`displayScore_rawScore_of_one_le`). The exact score is not positive; the rounded
one stays far enough below one point, because the two differences that it divides are each rounded
within the factor `129 / 128`.

A utilization that is no number is in the poor band as well, but its raw score is no number either,
and this is reported as 100 (`displayScore_rawScore_of_isNaN`).
-/

namespace ResourceMeter

open Binary64 Float.Model Float.Model.UnpackedFloat

/-! ## The band -/

section
variable {u : Float} (thresholds : Thresholds Float)

/-- What is not below one is not below any threshold. -/
theorem ScoreBand.of_eq_poor (hu : ¬ u < 1.0) : ScoreBand.of u thresholds = .poor := by
  obtain ⟨hlow, hhigh⟩ := thresholds.isFinite
  obtain ⟨-, hlt, hone⟩ := thresholds.toRat_lt
  have hbelow {t : Float} (ht : t.isFinite = true) (hlt : toRat t < 1) : ¬ u < t := by
    intro h
    rw [← toRat_one] at hlt
    exact hu (Binary64.lt_trans h ((lt_iff ht rfl).2 hlt))
  unfold ScoreBand.of
  rw [if_neg (hbelow hlow (hlt.trans hone)), if_neg (hbelow hhigh hone)]

/-- So its raw score is that of the poor band. -/
theorem rawScore_eq_poor (hu : ¬ u < 1.0) : rawScore u thresholds =
    50.0 - (u - thresholds.high) / (1.0 - thresholds.high) * 50.0 := by
  unfold rawScore
  rw [ScoreBand.of_eq_poor thresholds hu]

/-! ## Utilizations of one and more -/

/-- The share of the poor band is one, up to two roundings. -/
theorem le_poorShare (hu : 1.0 ≤ u) :
    0.984375 ≤ (u - thresholds.high) / (1.0 - thresholds.high) := by
  obtain ⟨-, hhigh⟩ := thresholds.isFinite
  obtain ⟨hlow, hlt, hone⟩ := thresholds.toRat_lt
  have hpositive : 0 < toRat thresholds.high := hlow.trans hlt
  have hplace := le_one_sub hhigh hone
  obtain ⟨v, w, hv, hw, hv_pos, hv_le, hw_le, hratio⟩ :=
    exists_bracket (q := 1 - toRat thresholds.high)
      ((zpow_le_zpow_right₀ one_le_two (by decide)).trans hplace) (by linarith)
  have hdividend : v ≤ u - thresholds.high := by
    refine le_sub rfl hu hhigh hv ?_
    rwa [toRat_one]
  have hrounded : Rounded (1 - toRat thresholds.high) (1.0 - thresholds.high) := by
    rw [← toRat_one]
    exact rounded_sub rfl hhigh
  obtain ⟨hdivisor, hdivisor_ge, hdivisor_le⟩ := hrounded.between hv hw hv_le hw_le
  have hshare : toRat 0.984375 = 63 / 64 := by decide +kernel
  refine le_div hv hdividend hdivisor (hv_pos.trans_le hdivisor_ge) rfl ?_
  rw [hshare, le_div_iff₀ (hv_pos.trans_le hdivisor_ge)]
  linarith

/-- The raw score is less than one point. -/
theorem rawScore_le (hu : 1.0 ≤ u) : rawScore u thresholds ≤ 0.78125 := by
  have hloss : 49.21875 ≤ (u - thresholds.high) / (1.0 - thresholds.high) * 50.0 :=
    le_mul rfl (le_poorShare thresholds hu) rfl (by decide +kernel) rfl (by decide +kernel)
  rw [rawScore_eq_poor thresholds fun h => not_le_of_lt h hu]
  exact sub_le rfl hloss rfl rfl (by decide +kernel)

/-- A number that is nearer to zero than one has the whole part zero. -/
theorem floorScore_eq_zero {x : Float} (hx : x.isFinite = true) (h : |toRat x| < 1) :
    (Arithmetic.value x).floorScore = 0 := by
  obtain ⟨negative, hvalue⟩ := exists_value_eq hx
  rw [hvalue]
  cases negative with
  | true => rfl
  | false =>
    have hfloor := CappedFloor.of_floor (abs_nonneg (toRat x))
    exact UInt8.toNat_inj.1 (Nat.le_zero.1 (hfloor.le_of_lt (by simpa using h)))

/-- A raw score below one point is reported as zero. -/
theorem displayScore_eq_zero {raw : Float} (h : raw ≤ 0.78125) : displayScore raw = 0 := by
  unfold displayScore clampScore Arithmetic.clamp
  split_ifs with hnegative hgreat
  · decide +kernel
  · have hlt : raw < 100.0 := lt_of_le_of_lt h (by decide +kernel)
    exact absurd (Binary64.lt_trans hgreat hlt) (by decide +kernel)
  · obtain ⟨hraw, hle⟩ | hraw := finite_or_infinite_of_ge rfl h
    · rw [lt_iff hraw rfl, not_lt] at hnegative
      have htolerance : UpTo 0 (scoreFloorTolerance : Float) ∧
          toRat (scoreFloorTolerance : Float) ≤ 1 / 8 := by decide +kernel
      have hlimit : toRat 0.78125 = 25 / 32 ∧ toRat 0.9375 = 15 / 16 := by decide +kernel
      obtain ⟨hsum, hsum_ge, hsum_le⟩ := (rounded_add hraw htolerance.1.finite).between
        (a := 0.0) (b := 0.9375) rfl rfl (add_nonneg hnegative htolerance.1.nonneg) (by linarith)
      refine floorScore_eq_zero hsum ?_
      rw [abs_of_nonneg hsum_ge]
      linarith
    · exact absurd (infinite_lt hraw rfl) hnegative

/-- So is the score of every utilization of one and more. -/
theorem displayScore_rawScore_of_one_le (hu : 1.0 ≤ u) :
    displayScore (rawScore u thresholds) = 0 :=
  displayScore_eq_zero (rawScore_le thresholds hu)

/-! ## No numbers -/

/-- The raw score of no number is no number. -/
theorem isNaN_rawScore (hu : u.isNaN = true) : (rawScore u thresholds).isNaN = true := by
  rw [rawScore_eq_poor thresholds (not_lt_of_isNaN hu)]
  exact isNaN_sub_of_isNaN _ (isNaN_mul (isNaN_div (isNaN_sub hu _) _) _)

/-- What is no number is reported as 100. -/
theorem displayScore_of_isNaN {raw : Float} (h : raw.isNaN = true) : displayScore raw = 100 := by
  have hvalue := value_eq (raw + scoreFloorTolerance)
  rw [isNaN_iff_unpack.1 (isNaN_add h scoreFloorTolerance)] at hvalue
  unfold displayScore clampScore Arithmetic.clamp
  rw [if_neg (not_lt_of_isNaN h), if_neg (not_gt_of_isNaN h), hvalue]
  rfl

/-- So is the score of a utilization that is no number. -/
theorem displayScore_rawScore_of_isNaN (hu : u.isNaN = true) :
    displayScore (rawScore u thresholds) = 100 :=
  displayScore_of_isNaN (isNaN_rawScore thresholds hu)

/-- A number that is not below one is at least one. -/
theorem one_le_of_not_lt (hu : ¬ u < 1.0) (hnumber : u.isNaN = false) : 1.0 ≤ u := by
  have hplaced := placed u
  generalize extended u = place at hplaced
  cases hplaced with
  | notANumber h =>
    exact absurd (hnumber.symm.trans (isNaN_iff_unpack.2 h)) Bool.false_ne_true
  | top h => exact le_of_infinite rfl h
  | bottom h => exact absurd (infinite_lt h rfl) hu
  | finite h =>
    rw [lt_iff h rfl, not_lt] at hu
    exact (le_iff rfl h).2 hu

end

end ResourceMeter
