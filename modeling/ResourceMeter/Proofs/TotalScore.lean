import ResourceMeter.Proofs.ReportedScores
import ResourceMeter.Proofs.WeightedMeans

/-!
# The total score as an average

The scores of the dimensions are cut down, the total is a rounded mean of the clamped raw scores,
and the weights of that mean sum to one only up to a tolerance. In exact arithmetic none of this
takes the total below the least score of a dimension (`Exact.le_total`), nor beyond the one after
the greatest (`Exact.total_le`).
-/

namespace ResourceMeter

open Arithmetic

variable {exp sqrt : Rat → Rat}

namespace RawScores

variable (raw : RawScores (Exact exp sqrt)) (weights : ScoreWeights (Exact exp sqrt))

/-- The clamped raw scores with their weights. -/
def weightedTerms : List (Rat × Rat) :=
  [(weights.cpu.toRat, (clampScore raw.cpu).toRat),
   (weights.memory.toRat, (clampScore raw.memory).toRat),
   (weights.ledger.toRat, (clampScore raw.ledger).toRat)]

/-- The group of score weights is valid, so they are weights of a mean. -/
theorem isWeighted_weightedTerms : IsWeighted (raw.weightedTerms weights) := by
  obtain ⟨hcpu, hmemory, hledger⟩ := weights.nonneg
  obtain ⟨-, hle, hge⟩ := Exact.weights_near_one weights.valid
  refine ⟨?_, hle, hge⟩
  simp only [weightedTerms, List.forall_mem_cons, List.not_mem_nil, false_imp_iff, implies_true,
    and_true]
  exact ⟨hcpu, hmemory, hledger⟩

/-- What the total rounds is their mean. -/
theorem toRat_weighted :
    (raw.weighted weights).toRat = weightedMean (raw.weightedTerms weights) := by
  unfold weighted weightedMean weightedTerms
  simp only [Exact.toRat_add, Exact.toRat_mul, List.map_cons, List.map_nil, List.sum_cons,
    List.sum_nil]
  ring

/-- A property of the clamped raw scores is one of the values of the mean. -/
theorem forall_weightedTerms {p : Rat → Prop} (hcpu : p (clampScore raw.cpu).toRat)
    (hmemory : p (clampScore raw.memory).toRat) (hledger : p (clampScore raw.ledger).toRat) :
    ∀ term ∈ raw.weightedTerms weights, p term.2 := by
  simpa only [weightedTerms, List.forall_mem_cons, List.not_mem_nil, false_imp_iff, implies_true,
    and_true] using ⟨hcpu, hmemory, hledger⟩

end RawScores

namespace Exact

/-- A clamped raw score reaches the reported one, up to the tolerance. -/
theorem sub_le_clampScore {raw : Exact exp sqrt} {k : Nat} (h : k ≤ (displayScore raw).toNat) :
    (k : Rat) - 1 / 1000000000 ≤ (clampScore raw).toRat := by
  have hfloor := cappedFloor_displayScore raw
  have hk := (hfloor.le_iff k (h.trans hfloor.le_hundred)).1 h
  rw [toRat_clampScore]
  linarith

/-- A clamped raw score is below the number after the reported one. -/
theorem clampScore_le {raw : Exact exp sqrt} {k : Nat} (h : (displayScore raw).toNat ≤ k)
    (hk : k < 100) : (clampScore raw).toRat ≤ k + 1 := by
  have hfloor := (cappedFloor_displayScore raw).lt_add_one (h.trans_lt hk)
  have hcast : ((displayScore raw).toNat : Rat) ≤ k := Nat.cast_le.2 h
  rw [toRat_clampScore]
  linarith

variable (raw : RawScores (Exact exp sqrt)) (weights : ScoreWeights (Exact exp sqrt))

/-- What all three scores reach is reached by the total. Each raw score may be short of it by the
tolerance of scores, and the mean by that of weights; the total has a half to spare. -/
theorem le_total {k : Nat} (hcpu : k ≤ (displayScore raw.cpu).toNat)
    (hmemory : k ≤ (displayScore raw.memory).toNat)
    (hledger : k ≤ (displayScore raw.ledger).toNat) :
    k ≤ (Scores.of raw weights).total.toNat := by
  rcases Nat.eq_zero_or_pos k with rfl | hpos
  · exact Nat.zero_le _
  have hhundred : k ≤ 100 := hcpu.trans (cappedFloor_displayScore raw.cpu).le_hundred
  have hone : (1 : Rat) ≤ k := by exact_mod_cast hpos
  have hcast : (k : Rat) ≤ 100 := by exact_mod_cast hhundred
  have hmean := (raw.isWeighted_weightedTerms weights).le_weightedMean
    (k - 1 / 1000000000)
    (by linarith) (raw.forall_weightedTerms weights
      (sub_le_clampScore hcpu) (sub_le_clampScore hmemory) (sub_le_clampScore hledger))
  rw [(cappedFloor_total raw weights).le_iff k hhundred, raw.toRat_weighted]
  linarith

/-- The total is at most one more than what bounds all three scores. -/
theorem total_le {k : Nat} (hcpu : (displayScore raw.cpu).toNat ≤ k)
    (hmemory : (displayScore raw.memory).toNat ≤ k)
    (hledger : (displayScore raw.ledger).toNat ≤ k) :
    (Scores.of raw weights).total.toNat ≤ k + 1 := by
  have hfloor := cappedFloor_total raw weights
  rcases Nat.lt_or_ge k 100 with hk | hk
  · have hcast : (k : Rat) ≤ 100 := by exact_mod_cast hk.le
    have hterms := raw.forall_weightedTerms weights (p := (· ≤ k + 1)) (clampScore_le hcpu hk)
      (clampScore_le hmemory hk) (clampScore_le hledger hk)
    have hmean :=
      (raw.isWeighted_weightedTerms weights).weightedMean_le (k + 1) (by positivity) hterms
    refine hfloor.le_of_lt ?_
    rw [raw.toRat_weighted, Nat.cast_add_one]
    linarith
  · exact hfloor.le_hundred.trans (by omega)

/-- Without a positive raw score the total is zero. -/
theorem total_eq_zero (hcpu : raw.cpu.toRat ≤ 0) (hmemory : raw.memory.toRat ≤ 0)
    (hledger : raw.ledger.toRat ≤ 0) : (Scores.of raw weights).total.toNat = 0 := by
  have hclamp {x : Exact exp sqrt} (hx : x.toRat ≤ 0) : (clampScore x).toRat ≤ 0 := by
    rw [toRat_clampScore]
    exact max_le le_rfl ((min_le_left _ _).trans hx)
  have hterms := raw.forall_weightedTerms weights (p := (· ≤ 0)) (hclamp hcpu) (hclamp hmemory)
    (hclamp hledger)
  have hmean := (raw.isWeighted_weightedTerms weights).weightedMean_le 0 le_rfl hterms
  refine Nat.le_zero.1 ((cappedFloor_total raw weights).le_of_lt ?_)
  rw [raw.toRat_weighted, Nat.cast_zero]
  linarith

/-- With accepted thresholds and weights, which their types hold, the total score of any three costs
is an average of the scores of the dimensions: it is between the least of them and the one after the
greatest, and at most 100. Three scores of 100 have the total 100, and without a positive raw score
the total is 0. -/
theorem total_is_average (costs : ResourceCosts (Exact exp sqrt))
    (thresholds : Thresholds (Exact exp sqrt)) (weights : ScoreWeights (Exact exp sqrt)) :
    let raw := RawScores.of costs thresholds
    let scores := Scores.of raw weights
    let least := min scores.cpu.toNat (min scores.memory.toNat scores.ledger.toNat)
    let greatest := max scores.cpu.toNat (max scores.memory.toNat scores.ledger.toNat)
    least ≤ scores.total.toNat ∧ scores.total.toNat ≤ min 100 (greatest + 1) ∧
    (scores.cpu = 100 → scores.memory = 100 → scores.ledger = 100 → scores.total = 100) ∧
    (raw.cpu.toRat ≤ 0 → raw.memory.toRat ≤ 0 → raw.ledger.toRat ≤ 0 → scores.total = 0) := by
  intro raw scores least greatest
  have hhundred : scores.total.toNat ≤ 100 := (cappedFloor_total raw weights).le_hundred
  have hleast : least ≤ scores.total.toNat := le_total raw weights (min_le_left _ _)
    ((min_le_right _ _).trans (min_le_left _ _)) ((min_le_right _ _).trans (min_le_right _ _))
  have hgreatest : scores.total.toNat ≤ greatest + 1 := total_le raw weights (le_max_left _ _)
    ((le_max_left _ _).trans (le_max_right _ _)) ((le_max_right _ _).trans (le_max_right _ _))
  refine ⟨hleast, le_min hhundred hgreatest, fun hcpu hmemory hledger => ?_,
    fun hcpu hmemory hledger => ?_⟩
  · have hfull : least = 100 := by
      simp only [least, hcpu, hmemory, hledger]
      rfl
    exact UInt8.toNat_inj.1 (Nat.le_antisymm hhundred (hfull.ge.trans hleast))
  · exact UInt8.toNat_inj.1 (total_eq_zero raw weights hcpu hmemory hledger)

/-- Costs with given utilizations. -/
def costsOf (cpu memory ledger : Exact exp sqrt) : ResourceCosts (Exact exp sqrt) where
  cpu := { fee := 0.0, normalized := cpu, pressure := 0.0, total := 0.0 }
  memory := { bytesUsed := 0, normalized := memory, cost := 0.0 }
  ledger :=
    { fee := 0.0
      normalized := ledger
      breakdown := .ofFn fun _ => ledger
      feeBreakdown := .ofFn fun _ => 0.0 }

/-- Utilizations of all three bands, none at all, and only such as reach their limits. -/
theorem total_is_average_of_standard :
    let scores (costs : ResourceCosts (Exact id id)) : Scores :=
      Scores.of (RawScores.of costs standardThresholds) standardScoreWeights
    let mixed := scores (costsOf 0.3 0.7 0.9)
    mixed = ⟨88, 60, 25, 57⟩ ∧ 25 ≤ mixed.total.toNat ∧ mixed.total.toNat ≤ 89 ∧
      (scores (costsOf 0.0 0.0 0.0)).total = 100 ∧ (scores (costsOf 1.0 1.5 2.0)).total = 0 := by
  intro scores mixed
  have hmixed : mixed = ⟨88, 60, 25, 57⟩ := by decide +kernel
  have hbounds := total_is_average (costsOf 0.3 0.7 0.9 : ResourceCosts (Exact id id))
    standardThresholds standardScoreWeights
  obtain ⟨hleast, hgreatest, -⟩ := hbounds
  obtain ⟨-, -, hfull, -⟩ := total_is_average (costsOf 0.0 0.0 0.0 : ResourceCosts (Exact id id))
    standardThresholds standardScoreWeights
  obtain ⟨-, -, -, hempty⟩ := total_is_average (costsOf 1.0 1.5 2.0 : ResourceCosts (Exact id id))
    standardThresholds standardScoreWeights
  change min mixed.cpu.toNat (min mixed.memory.toNat mixed.ledger.toNat) ≤ mixed.total.toNat
    at hleast
  change mixed.total.toNat ≤
    min 100 (max mixed.cpu.toNat (max mixed.memory.toNat mixed.ledger.toNat) + 1) at hgreatest
  rw [hmixed] at hleast hgreatest ⊢
  exact ⟨rfl, hleast, hgreatest, hfull (by decide +kernel) (by decide +kernel) (by decide +kernel),
    hempty (by decide +kernel) (by decide +kernel) (by decide +kernel)⟩

end Exact

end ResourceMeter
