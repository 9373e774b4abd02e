import Mathlib.Data.Rat.Floor
import Mathlib.Tactic.FieldSimp
import Mathlib.Tactic.Ring
import ResourceMeter.Proofs.CostOrder
import ResourceMeter.Score

/-!
# Scores fall with utilization

In exact arithmetic the three bands of a score fit together: `Exact.toRat_rawScore` writes it as
100 points less one ramp for each band, so a greater utilization has no greater score. Moving it
into its range, cutting it down to a whole number and averaging keep that order.
-/

namespace ResourceMeter

open Arithmetic

variable {exp sqrt : Rat → Rat}

/-- Thresholds are positive, different and below one. -/
theorem Thresholds.toRat_ordered (thresholds : Thresholds (Exact exp sqrt)) :
    0 < thresholds.low.toRat ∧ thresholds.low.toRat < thresholds.high.toRat ∧
      thresholds.high.toRat < 1 := by
  have hordered := thresholds.ordered
  unfold thresholdsOrdered at hordered
  simp only [Bool.and_eq_true, decide_eq_true_iff, Exact.lt_iff, Exact.toRat_ofScientific]
    at hordered
  obtain ⟨⟨⟨-, hlow⟩, hlt⟩, hhigh⟩ := hordered
  norm_num at hlow hhigh
  exact ⟨hlow, hlt, hhigh⟩

/-- A score is what three ramps leave of 100 points: 20 points over the excellent band, 30 over the
good one, and 50 over the rest up to one, at the same rate beyond. -/
theorem Exact.toRat_rawScore (u : Exact exp sqrt) (thresholds : Thresholds (Exact exp sqrt)) :
    let low := thresholds.low.toRat
    let high := thresholds.high.toRat
    (rawScore u thresholds).toRat = 100 - 20 / low * min u.toRat low -
      30 / (high - low) * (min (max u.toRat low) high - low) -
      50 / (1 - high) * (max u.toRat high - high) := by
  intro low high
  obtain ⟨hlow, hlt, hhigh⟩ := thresholds.toRat_ordered
  have hdiff_ne : high - low ≠ 0 := (sub_pos.2 hlt).ne'
  unfold rawScore ScoreBand.of
  simp only [Exact.lt_iff]
  split_ifs with hu hu'
  · rw [min_eq_left hu.le, max_eq_right hu.le, min_eq_left hlt.le, max_eq_right (hu.trans hlt).le]
    simp only [Exact.toRat_sub, Exact.toRat_mul, Exact.toRat_div, Exact.toRat_ofScientific]
    show 100.0 - u.toRat / low * 20.0 = _
    norm_num
    ring
  · rw [not_lt] at hu
    rw [min_eq_right hu, max_eq_left hu, min_eq_left hu'.le, max_eq_right hu'.le]
    simp only [Exact.toRat_sub, Exact.toRat_mul, Exact.toRat_div, Exact.toRat_ofScientific]
    show 80.0 - (u.toRat - low) / (high - low) * 30.0 = 100 - 20 / low * low - _ - _
    rw [div_mul_cancel₀ _ hlow.ne']
    norm_num
    ring
  · rw [not_lt] at hu hu'
    rw [min_eq_right hu, max_eq_left hu, min_eq_right hu', max_eq_left hu']
    simp only [Exact.toRat_sub, Exact.toRat_mul, Exact.toRat_div, Exact.toRat_ofScientific]
    show 50.0 - (u.toRat - high) / (1.0 - high) * 50.0 =
      100 - 20 / low * low - 30 / (high - low) * (high - low) - _
    rw [div_mul_cancel₀ _ hlow.ne', div_mul_cancel₀ _ hdiff_ne]
    norm_num
    ring

/-- A greater utilization has no greater score. -/
theorem rawScore_antitone {u v : Exact exp sqrt} (h : u ≤ v)
    (thresholds : Thresholds (Exact exp sqrt)) : rawScore v thresholds ≤ rawScore u thresholds := by
  obtain ⟨hlow, hlt, hhigh⟩ := thresholds.toRat_ordered
  rw [Exact.le_iff] at h ⊢
  rw [Exact.toRat_rawScore, Exact.toRat_rawScore]
  have hgood : 0 < thresholds.high.toRat - thresholds.low.toRat := sub_pos.2 hlt
  have hpoor : 0 < 1 - thresholds.high.toRat := sub_pos.2 hhigh
  gcongr

/-- A number moved into the range of scores. -/
theorem Exact.toRat_clampScore (raw : Exact exp sqrt) :
    (clampScore raw).toRat = max 0 (min raw.toRat 100) := by
  unfold clampScore
  rw [Exact.toRat_clamp]
  · simp only [Exact.toRat_ofScientific]
    norm_num
  · simp only [Exact.toRat_ofScientific]
    norm_num

/-- Scores stay in order when they are moved into their range. -/
theorem clampScore_mono {x y : Exact exp sqrt} (h : x ≤ y) : clampScore x ≤ clampScore y := by
  rw [Exact.le_iff] at h ⊢
  rw [Exact.toRat_clampScore, Exact.toRat_clampScore]
  exact max_le_max le_rfl (min_le_min h le_rfl)

/-- A score in its range is not negative. -/
theorem clampScore_nonneg (raw : Exact exp sqrt) : 0 ≤ (clampScore raw).toRat := by
  rw [Exact.toRat_clampScore]
  exact le_max_left _ _

/-- What a number that is not negative stands for. -/
theorem Exact.value_of_nonneg {x : Exact exp sqrt} (h : 0 ≤ x.toRat) :
    value x = .finite false x.toRat := by
  rw [Exact.value_eq, abs_of_nonneg h, decide_eq_false h.not_gt]

/-- Whole numbers of at most 100 keep their order as bytes. -/
theorem ofNat_min_mono {m n : Nat} (h : m ≤ n) :
    UInt8.ofNat (min m 100) ≤ UInt8.ofNat (min n 100) := by
  rw [UInt8.le_iff_toNat_le, UInt8.toNat_ofNat_of_lt', UInt8.toNat_ofNat_of_lt']
  · omega
  · show _ < 256
    omega
  · show _ < 256
    omega

/-- Whole parts keep the order. -/
theorem floor_toNat_mono {x y : Rat} (h : x ≤ y) : x.floor.toNat ≤ y.floor.toNat :=
  Int.toNat_le_toNat (Rat.floor_monotone h)

/-- Reported scores are in the order of the raw ones. -/
theorem displayScore_mono {x y : Exact exp sqrt} (h : x ≤ y) : displayScore x ≤ displayScore y := by
  have htolerance : (0 : Rat) ≤ (scoreFloorTolerance : Exact exp sqrt).toRat := by
    unfold scoreFloorTolerance
    rw [Exact.toRat_ofScientific]
    norm_num
  have hnonneg (raw : Exact exp sqrt) :
      0 ≤ (clampScore raw + scoreFloorTolerance).toRat :=
    add_nonneg (clampScore_nonneg raw) htolerance
  unfold displayScore
  rw [Exact.value_of_nonneg (hnonneg x), Exact.value_of_nonneg (hnonneg y)]
  exact ofNat_min_mono (floor_toNat_mono (add_le_add (clampScore_mono h) le_rfl))

/-! ## The scores of costs -/

/-- Every signed score of one group is at most that of the other. -/
structure RawScores.AtMost {α : Type} [Arithmetic α] (x y : RawScores α) : Prop where
  cpu : x.cpu ≤ y.cpu
  memory : x.memory ≤ y.memory
  ledger : x.ledger ≤ y.ledger

/-- Every reported score of one group is at most that of the other. -/
structure Scores.AtMost (x y : Scores) : Prop where
  cpu : x.cpu ≤ y.cpu
  memory : x.memory ≤ y.memory
  ledger : x.ledger ≤ y.ledger
  total : x.total ≤ y.total

/-- Greater costs have no greater signed scores. -/
theorem RawScores.of_antitone {c d : ResourceCosts (Exact exp sqrt)} (h : c.AtMost d)
    (thresholds : Thresholds (Exact exp sqrt)) :
    (RawScores.of d thresholds).AtMost (RawScores.of c thresholds) where
  cpu := rawScore_antitone h.cpu.normalized thresholds
  memory := rawScore_antitone h.memory.normalized thresholds
  ledger := rawScore_antitone h.ledger.normalized thresholds

/-- A valid group of score weights has no negative ones. -/
theorem ScoreWeights.nonneg (weights : ScoreWeights (Exact exp sqrt)) :
    0 ≤ weights.cpu.toRat ∧ 0 ≤ weights.memory.toRat ∧ 0 ≤ weights.ledger.toRat := by
  obtain ⟨hcpu, hmemory, hledger⟩ := weights.nonNegative
  exact ⟨(Exact.nonNegative_iff _).1 hcpu, (Exact.nonNegative_iff _).1 hmemory,
    (Exact.nonNegative_iff _).1 hledger⟩

/-- The weighted mean is not negative. -/
theorem RawScores.weighted_nonneg (raw : RawScores (Exact exp sqrt))
    (weights : ScoreWeights (Exact exp sqrt)) : 0 ≤ (raw.weighted weights).toRat := by
  obtain ⟨hcpu, hmemory, hledger⟩ := weights.nonneg
  exact add_nonneg (add_nonneg (mul_nonneg hcpu (clampScore_nonneg _))
    (mul_nonneg hmemory (clampScore_nonneg _))) (mul_nonneg hledger (clampScore_nonneg _))

/-- The weighted means of scores are in the order of the scores. -/
theorem RawScores.weighted_mono {x y : RawScores (Exact exp sqrt)} (h : x.AtMost y)
    (weights : ScoreWeights (Exact exp sqrt)) : x.weighted weights ≤ y.weighted weights := by
  obtain ⟨hcpu, hmemory, hledger⟩ := weights.nonneg
  rw [Exact.le_iff]
  refine add_le_add (add_le_add ?_ ?_) ?_
  · exact mul_le_mul_of_nonneg_left (clampScore_mono h.cpu) hcpu
  · exact mul_le_mul_of_nonneg_left (clampScore_mono h.memory) hmemory
  · exact mul_le_mul_of_nonneg_left (clampScore_mono h.ledger) hledger

/-- The reported scores, total included, are in the order of the signed ones. -/
theorem Scores.of_mono {x y : RawScores (Exact exp sqrt)} (h : x.AtMost y)
    (weights : ScoreWeights (Exact exp sqrt)) :
    (Scores.of x weights).AtMost (Scores.of y weights) := by
  refine ⟨displayScore_mono h.cpu, displayScore_mono h.memory, displayScore_mono h.ledger, ?_⟩
  unfold Scores.of
  dsimp only
  rw [Exact.value_of_nonneg (x.weighted_nonneg weights),
    Exact.value_of_nonneg (y.weighted_nonneg weights)]
  have hweighted : (x.weighted weights).toRat ≤ (y.weighted weights).toRat :=
    RawScores.weighted_mono h weights
  exact ofNat_min_mono (floor_toNat_mono (add_le_add hweighted le_rfl))

end ResourceMeter
