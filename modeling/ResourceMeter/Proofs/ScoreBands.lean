import ResourceMeter.Proofs.ScoreBeyondLimit
import ResourceMeter.Proofs.ScoreSlope

/-!
# Bands, raw scores and reported scores

The band of a utilization and its reported score are computed apart. In exact arithmetic they agree:
`Exact.displayScore_mem_band` says which reported scores a band has, and
`Exact.displayScore_near_rawScore` how far cutting down takes a reported score from the raw one.
`reported_scores_agree` collects what holds of the scores of a dimension.
-/

namespace ResourceMeter

open Arithmetic

/-- The least reported score of a band. -/
def ScoreBand.leastScore : ScoreBand → Nat
  | .excellent => 80
  | .good => 50
  | .poor => 0

/-- The greatest reported score of a band. -/
def ScoreBand.greatestScore : ScoreBand → Nat
  | .excellent => 100
  | .good => 80
  | .poor => 50

namespace Exact

variable {exp sqrt : Rat → Rat} {raw u v : Exact exp sqrt} {k : Nat}

/-- A raw score that reaches a whole number up to 100 is reported as that or more. -/
theorem le_displayScore (hk : k ≤ 100) (h : k ≤ raw.toRat) : k ≤ (displayScore raw).toNat := by
  have hcast : (k : Rat) ≤ 100 := by exact_mod_cast hk
  have hclamp : (k : Rat) ≤ max 0 (min raw.toRat 100) := le_max_of_le_right (le_min h hcast)
  rw [(cappedFloor_displayScore raw).le_iff k hk]
  linarith

/-- A raw score up to a whole number is reported as that or less. -/
theorem displayScore_le (h : raw.toRat ≤ k) : (displayScore raw).toNat ≤ k := by
  have hclamp : max 0 (min raw.toRat 100) ≤ (k : Rat) :=
    max_le (Nat.cast_nonneg k) ((min_le_left _ _).trans h)
  exact (cappedFloor_displayScore raw).le_of_lt (by linarith)

/-- A raw score in the range of reported scores loses less than one point and gains no more than
the tolerance. -/
theorem displayScore_near_rawScore (hnonneg : 0 ≤ raw.toRat) (hle : raw.toRat ≤ 100) :
    raw.toRat - 1 < (displayScore raw).toNat ∧
      ((displayScore raw).toNat : Rat) ≤ raw.toRat + 1 / 1000000000 := by
  have hfloor := cappedFloor_displayScore raw
  rw [min_eq_left hle, max_eq_right hnonneg] at hfloor
  refine ⟨?_, hfloor.cast_le⟩
  rcases hfloor.le_hundred.lt_or_eq with hlt | heq
  · linarith [hfloor.lt_add_one hlt]
  · rw [heq]
    push_cast
    linarith

variable (thresholds : Thresholds (Exact exp sqrt))

/-- The raw scores with which the bands begin and end bound the raw scores of other
utilizations. -/
theorem rawScore_ends (u : Exact exp sqrt) :
    (0 ≤ u.toRat → (rawScore u thresholds).toRat ≤ 100) ∧
    (u.toRat ≤ thresholds.low.toRat → 80 ≤ (rawScore u thresholds).toRat) ∧
    (thresholds.low.toRat ≤ u.toRat → (rawScore u thresholds).toRat ≤ 80) ∧
    (u.toRat ≤ thresholds.high.toRat → 50 ≤ (rawScore u thresholds).toRat) ∧
    (thresholds.high.toRat ≤ u.toRat → (rawScore u thresholds).toRat ≤ 50) ∧
    (1 ≤ u.toRat → (rawScore u thresholds).toRat ≤ 0) := by
  obtain ⟨hzero, hlow, hhigh, hone⟩ := rawScore_at_ends thresholds
  have hfalls {x y : Exact exp sqrt} (h : x.toRat ≤ y.toRat) :
      (rawScore y thresholds).toRat ≤ (rawScore x thresholds).toRat :=
    rawScore_antitone h thresholds
  exact ⟨fun h => (hfalls (x := ⟨0⟩) h).trans_eq hzero, fun h => hlow.symm.trans_le (hfalls h),
    fun h => (hfalls h).trans_eq hlow, fun h => hhigh.symm.trans_le (hfalls h),
    fun h => (hfalls h).trans_eq hhigh, fun h => (hfalls (x := ⟨1⟩) h).trans_eq hone⟩

/-- A reported score is one of those of its band. -/
theorem displayScore_mem_band (hu : 0 ≤ u.toRat) :
    let band := ScoreBand.of u thresholds
    let score := (displayScore (rawScore u thresholds)).toNat
    band.leastScore ≤ score ∧ score ≤ band.greatestScore := by
  obtain ⟨hfull, hlow_ge, hlow_le, hhigh_ge, hhigh_le, -⟩ := rawScore_ends thresholds u
  intro band score
  unfold band ScoreBand.of
  simp only [lt_iff]
  split_ifs with hexcellent hgood
  · exact ⟨le_displayScore (by decide) (hlow_ge hexcellent.le), displayScore_le (hfull hu)⟩
  · rw [not_lt] at hexcellent
    exact ⟨le_displayScore (by decide) (hhigh_ge hgood.le), displayScore_le (hlow_le hexcellent)⟩
  · rw [not_lt] at hgood
    exact ⟨Nat.zero_le _, displayScore_le (hhigh_le hgood)⟩

end Exact

variable {exp sqrt : Rat → Rat}

/-- Band, raw score and reported score of a utilization agree, for all accepted thresholds, which
their type holds. In exact arithmetic the reported score is one of those of the band, falls with
the utilization, is less than one point below the raw score and at most the tolerance above it, and
is 0 from one on. In the arithmetic of the running program what is not below one is in the poor
band, and has the reported score 0 as well unless it is no number: then the reported score
is 100. -/
theorem reported_scores_agree (thresholds : Thresholds (Exact exp sqrt))
    (binary : Thresholds Float) :
    let raw (u : Rat) : Rat := (rawScore (⟨u⟩ : Exact exp sqrt) thresholds).toRat
    let reported (u : Rat) : Nat :=
      (displayScore (rawScore (⟨u⟩ : Exact exp sqrt) thresholds)).toNat
    (∀ u, 0 ≤ u →
      let band := ScoreBand.of (⟨u⟩ : Exact exp sqrt) thresholds
      band.leastScore ≤ reported u ∧ reported u ≤ band.greatestScore) ∧
    (∀ u v, 0 ≤ u → u ≤ v → reported v ≤ reported u) ∧
    (∀ u, 0 ≤ u → 0 ≤ raw u → raw u ≤ 100 →
      raw u - 1 < reported u ∧ (reported u : Rat) ≤ raw u + 1 / 1000000000) ∧
    (∀ u, 1 ≤ u → reported u = 0) ∧
    (∀ u : Float, ¬ u < 1.0 → ScoreBand.of u binary = .poor ∧
      displayScore (rawScore u binary) = if u.isNaN then 100 else 0) := by
  intro raw reported
  refine ⟨fun u hu => Exact.displayScore_mem_band thresholds hu, fun u v _ huv => ?_,
    fun u _ hnonneg hle => Exact.displayScore_near_rawScore hnonneg hle, fun u hu => ?_,
    fun u hu => ⟨ScoreBand.of_eq_poor binary hu, ?_⟩⟩
  · exact UInt8.le_iff_toNat_le.1 (displayScore_mono (rawScore_antitone huv thresholds))
  · obtain ⟨-, -, -, -, -, hone⟩ := Exact.rawScore_ends thresholds ⟨u⟩
    exact Nat.le_zero.1 (Exact.displayScore_le (by exact_mod_cast hone hu))
  · split_ifs with hnumber
    · exact displayScore_rawScore_of_isNaN binary hnumber
    · exact displayScore_rawScore_of_one_le binary
        (one_le_of_not_lt hu (Bool.eq_false_iff.2 hnumber))

/-- A utilization of each band; one, infinity and no number. -/
theorem reported_scores_agree_of_standard :
    let thresholds : Thresholds (Exact id id) := Exact.standardThresholds
    let reported (u : Rat) : Nat := (displayScore (rawScore (⟨u⟩ : Exact id id) thresholds)).toNat
    (80 ≤ reported 0.3 ∧ reported 0.3 ≤ 100) ∧ (50 ≤ reported 0.7 ∧ reported 0.7 ≤ 80) ∧
    reported 0.9 ≤ 50 ∧ reported 0.9 ≤ reported 0.7 ∧
    (rawScore (⟨0.9⟩ : Exact id id) thresholds).toRat - 1 < reported 0.9 ∧ reported 1.5 = 0 ∧
    displayScore (rawScore 1.0 Thresholds.standard) = 0 ∧
    displayScore (rawScore (1.0 / 0.0) Thresholds.standard) = 0 ∧
    displayScore (rawScore (0.0 / 0.0) Thresholds.standard) = 100 := by
  intro thresholds reported
  obtain ⟨hband, hfalls, hnear, hlimit, hbinary⟩ :=
    reported_scores_agree thresholds Thresholds.standard
  have hexcellent : ScoreBand.of (⟨0.3⟩ : Exact id id) thresholds = .excellent := by decide +kernel
  have hgood : ScoreBand.of (⟨0.7⟩ : Exact id id) thresholds = .good := by decide +kernel
  have hpoor : ScoreBand.of (⟨0.9⟩ : Exact id id) thresholds = .poor := by decide +kernel
  have hband_excellent := hband 0.3 (by norm_num)
  have hband_good := hband 0.7 (by norm_num)
  have hband_poor := hband 0.9 (by norm_num)
  rw [hexcellent] at hband_excellent
  rw [hgood] at hband_good
  rw [hpoor] at hband_poor
  exact ⟨hband_excellent, hband_good, hband_poor.2, hfalls 0.7 0.9 (by norm_num) (by norm_num),
    (hnear 0.9 (by norm_num) (by decide +kernel) (by decide +kernel)).1, hlimit 1.5 (by norm_num),
    (hbinary 1.0 (by decide +kernel)).2, (hbinary (1.0 / 0.0) (by decide +kernel)).2,
    (hbinary (0.0 / 0.0) (by decide +kernel)).2⟩

/-- Not every utilization that is not below one is reported as 0. -/
theorem reported_score_of_no_number :
    ¬ ∀ u : Float, ¬ u < 1.0 → displayScore (rawScore u Thresholds.standard) = 0 := by
  intro h
  exact absurd (h (0.0 / 0.0) (by decide +kernel)) (by decide +kernel)

end ResourceMeter
