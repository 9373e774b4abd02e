import ResourceMeter.Proofs.Binary64Groups
import ResourceMeter.Score

/-!
# Scores are finite

A score divides by a threshold, by the difference of the thresholds or by what the upper one leaves
below one. Each of these divisors may be tiny. `isFinite_rawScore` says that the score of a bounded
utilization is finite nevertheless: in the two lower bands the dividend is as small as the divisor,
up to one rounding, and no number below one is nearer to it than `2 ^ (-53)`.
-/

namespace ResourceMeter

namespace Binary64

/-! ## Differences -/

/-- Finite numbers are multiples of the least positive one. -/
theorem exists_int_mul {x : Float} (hx : x.isFinite = true) :
    ∃ n : ℤ, toRat x = n * 2 ^ (-1074 : ℤ) := by
  obtain ⟨sign, m, e, hm, -, hvalue⟩ := exists_toRat_eq hx
  rw [mul_two_zpow_of_le hm.exponent] at hvalue
  rw [hvalue]
  cases sign with
  | positive =>
    refine ⟨(m * 2 ^ (e - -1074).toNat : ℕ), ?_⟩
    rw [factor, one_mul, Int.cast_natCast]
  | negative =>
    refine ⟨-(m * 2 ^ (e - -1074).toNat : ℕ), ?_⟩
    rw [factor, neg_one_mul, Int.cast_neg, Int.cast_natCast, neg_mul]

/-- The difference of different numbers is not rounded to zero. -/
theorem toRat_sub_pos {x y : Float} (hx : x.isFinite = true) (hy : y.isFinite = true)
    (hlt : toRat x < toRat y) (hsub : (y - x).isFinite = true) : 0 < toRat (y - x) := by
  have hleast : Canonical 1 (-1074) := ⟨by decide, le_rfl, .inl rfl⟩
  obtain ⟨v, hv, hvalue⟩ := exists_float .positive one_pos hleast (by decide)
  have hv_pos : 0 < toRat v := by
    rw [hvalue, factor, one_mul]
    exact mul_pos (by norm_num) (two_zpow_pos _)
  refine hv_pos.trans_le ((rounded_sub hy hx).le_toRat hsub hv ?_)
  obtain ⟨n, hn⟩ := exists_int_mul hx
  obtain ⟨k, hk⟩ := exists_int_mul hy
  rw [hn, hk] at hlt ⊢
  have hnk : n < k := by exact_mod_cast lt_of_mul_lt_mul_right hlt (two_zpow_pos (-1074)).le
  have hone : (1 : ℚ) ≤ k - n := by exact_mod_cast (by omega : (1 : ℤ) ≤ k - n)
  rw [hvalue, factor, one_mul, Nat.cast_one, ← sub_mul]
  exact mul_le_mul_of_nonneg_right hone (two_zpow_pos _).le

/-- A number from zero to one can be doubled. -/
theorem exists_double {x : Float} (hx : x.isFinite = true) (hnonneg : 0 ≤ toRat x)
    (hle : toRat x ≤ 1) : ∃ v : Float, v.isFinite = true ∧ toRat v = 2 * toRat x := by
  obtain ⟨sign, m, e, hm, -, hvalue⟩ := exists_toRat_eq hx
  rcases Nat.eq_zero_or_pos m with rfl | hpos
  · refine ⟨0.0, rfl, ?_⟩
    rw [hvalue, toRat_zero]
    simp
  by_cases hlow : 2 ^ 52 ≤ m
  · have he : e + 1 ≤ 971 := by
      by_contra hgt
      have hone : (1 : ℚ) ≤ 2 ^ e := one_le_zpow₀ one_le_two (by omega)
      have hm_low : (2 : ℚ) ^ 52 ≤ m := by exact_mod_cast hlow
      have hgreat : (2 : ℚ) ^ 52 * 1 ≤ m * 2 ^ e :=
        mul_le_mul hm_low hone zero_le_one (Nat.cast_nonneg m)
      cases sign <;> simp only [factor, one_mul, neg_one_mul] at hvalue <;> norm_num at hgreat <;>
        linarith
    have hcanonical : Canonical m (e + 1) :=
      ⟨hm.lt, hm.exponent.trans (by omega), .inr hlow⟩
    obtain ⟨v, hv, hv_value⟩ := exists_float sign hpos hcanonical he
    refine ⟨v, hv, ?_⟩
    rw [hv_value, hvalue, two_zpow_succ]
    ring
  · have he : e = -1074 := hm.normal.resolve_right hlow
    have hcanonical : Canonical (2 * m) e := ⟨by omega, hm.exponent, .inl he⟩
    obtain ⟨v, hv, hv_value⟩ := exists_float sign (by omega) hcanonical (by omega)
    refine ⟨v, hv, ?_⟩
    rw [hv_value, hvalue]
    push_cast
    ring

/-- Results of values in order are in order, up to a factor of two. -/
theorem Rounded.le_two_mul {p q : ℚ} {x y : Float} (hx : Rounded p x) (hy : Rounded q y)
    (hpq : p ≤ q) (hx_finite : x.isFinite = true) (hy_finite : y.isFinite = true)
    (hpos : 0 < toRat y) (hle : toRat y ≤ 1) : toRat x ≤ 2 * toRat y := by
  obtain ⟨v, hv, hvalue⟩ := exists_double hy_finite hpos.le hle
  have hp : p ≤ toRat v := by
    by_contra hlt
    have hdouble : toRat v ≤ toRat y := hy.le_toRat hy_finite hv (by linarith)
    linarith
  rw [← hvalue]
  exact hx.toRat_le hx_finite hv hp

/-- A number below one is not nearer to it than the last place of such numbers. -/
theorem le_one_sub {x : Float} (hx : x.isFinite = true) (hlt : toRat x < 1) :
    2 ^ (-53 : ℤ) ≤ 1 - toRat x := by
  obtain ⟨sign, m, e, hm, -, hvalue⟩ := exists_toRat_eq hx
  have hnonneg : (0 : ℚ) ≤ m * 2 ^ e := mul_nonneg (Nat.cast_nonneg m) (two_zpow_pos e).le
  cases sign with
  | negative =>
    rw [factor, neg_one_mul] at hvalue
    have hplace : (2 : ℚ) ^ (-53 : ℤ) ≤ 1 := by norm_num
    linarith
  | positive =>
    rw [factor, one_mul] at hvalue
    rw [hvalue] at hlt ⊢
    rcases lt_or_ge e (-53) with hsmall | hle
    · have hhalf := hm.lt_two_zpow hsmall
      norm_num at hhalf ⊢
      linarith
    · rw [mul_two_zpow_of_le hle] at hlt ⊢
      generalize m * 2 ^ (e - -53).toNat = n at hlt ⊢
      have hone : (1 : ℚ) = (2 ^ 53 : ℕ) * 2 ^ (-53 : ℤ) := by norm_num
      rw [hone] at hlt ⊢
      have hn : n < 2 ^ 53 := by
        exact_mod_cast lt_of_mul_lt_mul_right hlt (two_zpow_pos (-53)).le
      have hgap : (1 : ℚ) ≤ (2 ^ 53 : ℕ) - n := by
        rw [le_sub_iff_add_le, add_comm]
        exact_mod_cast hn
      rw [← sub_mul]
      exact le_mul_of_one_le_left (two_zpow_pos _).le hgap

end Binary64

open Binary64

section
variable {u : Float} (thresholds : Thresholds Float)

/-- Thresholds are at most one. -/
theorem Thresholds.upTo : UpTo 0 thresholds.low ∧ UpTo 0 thresholds.high := by
  obtain ⟨hlow, hhigh⟩ := thresholds.isFinite
  obtain ⟨hpos, hlt, hone⟩ := thresholds.toRat_lt
  rw [← pow_zero 2] at hone
  exact ⟨⟨hlow, hpos.le, (hlt.trans hone).le⟩, hhigh, (hpos.trans hlt).le, hone.le⟩

/-- In the excellent band the utilization is at most the lower threshold. -/
theorem upTo_excellent (hu : u.isFinite = true) (hnonneg : 0 ≤ toRat u)
    (hlt : toRat u < toRat thresholds.low) : UpTo 0 (u / thresholds.low) := by
  obtain ⟨hpos, -, -⟩ := thresholds.toRat_lt
  refine .of_rounded (rounded_div hu thresholds.isFinite.1 hpos.ne') (by decide)
    (div_nonneg hnonneg hpos.le) ?_
  rw [pow_zero]
  exact (div_le_one hpos).2 hlt.le

/-- In the good band the utilization is as far from the lower threshold as the upper one, up to a
rounding. -/
theorem upTo_good (hu : u.isFinite = true) (hge : toRat thresholds.low ≤ toRat u)
    (hlt : toRat u < toRat thresholds.high) :
    UpTo 1 ((u - thresholds.low) / (thresholds.high - thresholds.low)) := by
  obtain ⟨hpos, horder, -⟩ := thresholds.toRat_lt
  obtain ⟨hlow, hhigh⟩ := thresholds.upTo
  have hu_upTo : UpTo 0 u := ⟨hu, hpos.le.trans hge, hlt.le.trans hhigh.le⟩
  have hpart : UpTo 0 (u - thresholds.low) :=
    hu_upTo.sub hlow.finite hlow.nonneg hge (by decide)
  have hwhole : UpTo 0 (thresholds.high - thresholds.low) :=
    hhigh.sub hlow.finite hlow.nonneg horder.le (by decide)
  have hwhole_pos := toRat_sub_pos hlow.finite hhigh.finite horder hwhole.finite
  have hratio : toRat (u - thresholds.low) ≤ 2 * toRat (thresholds.high - thresholds.low) :=
    (rounded_sub hu hlow.finite).le_two_mul (rounded_sub hhigh.finite hlow.finite)
      (by linarith) hpart.finite hwhole.finite hwhole_pos (hwhole.le.trans_eq (pow_zero 2))
  refine .of_rounded (rounded_div hpart.finite hwhole.finite hwhole_pos.ne') (by decide)
    (div_nonneg hpart.nonneg hwhole_pos.le) ?_
  rw [pow_one]
  exact (div_le_iff₀ hwhole_pos).2 hratio

/-- In the poor band the divisor is at least the last place of the numbers below one. -/
theorem upTo_poor {k : ℕ} (hu : UpTo k u) (hge : toRat thresholds.high ≤ toRat u)
    (hk : k + 53 ≤ 1023) :
    UpTo (k + 53) ((u - thresholds.high) / (1.0 - thresholds.high)) := by
  obtain ⟨-, -, hone⟩ := thresholds.toRat_lt
  obtain ⟨-, hupper⟩ := thresholds.upTo
  have hpart : UpTo k (u - thresholds.high) :=
    hu.sub hupper.finite hupper.nonneg hge (by omega)
  have hrest : UpTo 0 (1.0 - thresholds.high) :=
    upTo_one.sub hupper.finite hupper.nonneg (toRat_one ▸ hone.le) (by decide)
  obtain ⟨v, hv, hvalue⟩ := exists_two_zpow .positive (show (-1022 : ℤ) ≤ -53 by decide) (by decide)
  rw [factor, one_mul] at hvalue
  have hplace : 2 ^ (-53 : ℤ) ≤ toRat (1.0 - thresholds.high) := by
    rw [← hvalue]
    refine (rounded_sub rfl hupper.finite).le_toRat hrest.finite hv ?_
    rw [hvalue, toRat_one]
    exact le_one_sub hupper.finite hone
  refine hpart.div hrest.finite ?_ hk
  calc (1 : ℚ) = 2 ^ 53 * 2 ^ (-53 : ℤ) := by norm_num
    _ ≤ 2 ^ 53 * toRat (1.0 - thresholds.high) :=
      mul_le_mul_of_nonneg_left hplace (by positivity)

/-- What a band takes away from its points leaves a finite score. -/
theorem isFinite_points {k : ℕ} {points share slope : Float} (hpoints : UpTo 7 points)
    (hshare : UpTo k share) (hslope : UpTo 6 slope) (hk : k ≤ 1000) :
    (points - share * slope).isFinite = true := by
  have hloss : UpTo (k + 6) (share * slope) := hshare.mul hslope (by omega)
  exact (hpoints.mono (by omega)).isFinite_sub (hloss.mono (show k + 6 ≤ k + 7 by omega)) (by omega)

/-- The score of a utilization that is not astronomic is finite. -/
theorem isFinite_rawScore (hu : UpTo 70 u) : (rawScore u thresholds).isFinite = true := by
  obtain ⟨hlow, hhigh⟩ := thresholds.isFinite
  have hpoints : ∀ points ∈ [100.0, 80.0, 50.0], UpTo 7 points := by
    decide +kernel
  have hslopes : ∀ slope ∈ [20.0, 30.0, 50.0], UpTo 6 slope := by
    decide +kernel
  simp only [List.forall_mem_cons] at hpoints hslopes
  obtain ⟨hpoints_excellent, hpoints_good, hpoints_poor, -⟩ := hpoints
  obtain ⟨hslope_excellent, hslope_good, hslope_poor, -⟩ := hslopes
  unfold rawScore ScoreBand.of
  split_ifs with hexcellent hgood
  · rw [lt_iff hu.finite hlow] at hexcellent
    have hshare := upTo_excellent thresholds hu.finite hu.nonneg hexcellent
    exact isFinite_points hpoints_excellent hshare hslope_excellent (by decide)
  · rw [lt_iff hu.finite hlow, not_lt] at hexcellent
    rw [lt_iff hu.finite hhigh] at hgood
    have hshare := upTo_good thresholds hu.finite hexcellent hgood
    exact isFinite_points hpoints_good hshare hslope_good (by decide)
  · rw [lt_iff hu.finite hhigh, not_lt] at hgood
    have hshare := upTo_poor thresholds hu hgood (by decide)
    exact isFinite_points hpoints_poor hshare hslope_poor (by decide)

end

end ResourceMeter
