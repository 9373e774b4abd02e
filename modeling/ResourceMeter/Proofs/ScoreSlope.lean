import Mathlib.Analysis.Normed.Field.Lemmas
import ResourceMeter.Proofs.ScoreOrder

/-!
# How fast scores fall

A utilization is the sum of its parts in the three score bands (`ScoreBand.sum_part`), and in exact
arithmetic every band takes points from the score at a rate of its own
(`Exact.toRat_rawScore_eq_sum`). So between any two utilizations, whatever bands they lie in, a
score falls at least at the least of the three rates and at most at the greatest
(`Exact.rawScore_falls_between_rates`): it has no jump and is nowhere flat.
-/

namespace ResourceMeter

variable {exp sqrt : Rat → Rat}

/-! ## Bands, their parts and their rates -/

namespace ScoreBand

/-- The part of a utilization that lies in a band. -/
def part (low high u : Rat) : ScoreBand → Rat
  | .excellent => min u low
  | .good => min (max u low) high - low
  | .poor => max u high - high

/-- The points that a band takes for each unit of utilization in it. -/
def rate (low high : Rat) : ScoreBand → Rat
  | .excellent => 20 / low
  | .good => 30 / (high - low)
  | .poor => 50 / (1 - high)

/-- The least rate of the three bands. -/
def leastRate (low high : Rat) : Rat :=
  min (rate low high .excellent) (min (rate low high .good) (rate low high .poor))

/-- The greatest rate of the three bands. -/
def greatestRate (low high : Rat) : Rat :=
  max (rate low high .excellent) (max (rate low high .good) (rate low high .poor))

variable {low high u v : Rat}

/-- The parts of a utilization make it up. -/
theorem sum_part (h : low ≤ high) (u : Rat) :
    part low high u .excellent + part low high u .good + part low high u .poor = u := by
  unfold part
  rcases le_total u low with hlow | hlow
  · rw [min_eq_left hlow, max_eq_right hlow, min_eq_left h, max_eq_right (hlow.trans h)]
    ring
  · rw [min_eq_right hlow, max_eq_left hlow]
    linarith [min_add_max u high]

/-- A greater utilization has no smaller part in any band. -/
theorem part_mono (h : u ≤ v) (band : ScoreBand) : part low high u band ≤ part low high v band := by
  cases band with
  | excellent => exact min_le_min_right _ h
  | good => exact sub_le_sub_right (min_le_min_right _ (max_le_max_right _ h)) _
  | poor => exact sub_le_sub_right (max_le_max_right _ h) _

/-- Every rate is at least the least one. -/
theorem leastRate_le (band : ScoreBand) : leastRate low high ≤ rate low high band := by
  unfold leastRate
  cases band <;> simp

/-- Every rate is at most the greatest one. -/
theorem rate_le (band : ScoreBand) : rate low high band ≤ greatestRate low high := by
  unfold greatestRate
  cases band <;> simp

/-- With ordered thresholds every rate is positive. -/
theorem rate_pos (hlow : 0 < low) (hlt : low < high) (hhigh : high < 1) (band : ScoreBand) :
    0 < rate low high band := by
  cases band with
  | excellent => exact div_pos (by norm_num) hlow
  | good => exact div_pos (by norm_num) (sub_pos.2 hlt)
  | poor => exact div_pos (by norm_num) (sub_pos.2 hhigh)

/-- With ordered thresholds the least rate is positive. -/
theorem leastRate_pos (hlow : 0 < low) (hlt : low < high) (hhigh : high < 1) :
    0 < leastRate low high := by
  have hpos := rate_pos hlow hlt hhigh
  exact lt_min (hpos _) (lt_min (hpos _) (hpos _))

end ScoreBand

/-! ## Scores -/

namespace Exact

open ScoreBand

variable {low high : Exact exp sqrt} {thresholds : Thresholds (Exact exp sqrt)}

/-- Accepted thresholds are those that were given. -/
theorem thresholds_of_eq_ok (h : Thresholds.of low high = .ok thresholds) :
    thresholds.low = low ∧ thresholds.high = high := by
  unfold Thresholds.of at h
  split at h
  · cases h
    exact ⟨rfl, rfl⟩
  · cases h

/-- A score is what the bands leave of 100 points. -/
theorem toRat_rawScore_eq_sum (u : Exact exp sqrt) (thresholds : Thresholds (Exact exp sqrt)) :
    let low := thresholds.low.toRat
    let high := thresholds.high.toRat
    (rawScore u thresholds).toRat =
      100 - (rate low high .excellent * part low high u.toRat .excellent +
        rate low high .good * part low high u.toRat .good +
        rate low high .poor * part low high u.toRat .poor) := by
  intro low high
  rw [toRat_rawScore]
  unfold rate part
  ring

/-- Between two utilizations a score falls at least at the least rate and at most at the
greatest. -/
theorem rawScore_falls {u v : Exact exp sqrt} (h : u ≤ v)
    (thresholds : Thresholds (Exact exp sqrt)) :
    let low := thresholds.low.toRat
    let high := thresholds.high.toRat
    let fall := (rawScore u thresholds).toRat - (rawScore v thresholds).toRat
    leastRate low high * (v.toRat - u.toRat) ≤ fall ∧
      fall ≤ greatestRate low high * (v.toRat - u.toRat) := by
  intro low high fall
  have hlt : low < high := thresholds.toRat_ordered.2.1
  let growth (band : ScoreBand) : Rat := part low high v.toRat band - part low high u.toRat band
  have hgrowth (band : ScoreBand) : 0 ≤ growth band := sub_nonneg.2 (part_mono h band)
  have hsum : v.toRat - u.toRat = growth .excellent + growth .good + growth .poor := by
    have hv := sum_part hlt.le v.toRat
    have hu := sum_part hlt.le u.toRat
    show v.toRat - u.toRat = _ - _ + (_ - _) + (_ - _)
    linarith
  have hfall : fall = rate low high .excellent * growth .excellent +
      rate low high .good * growth .good + rate low high .poor * growth .poor := by
    show (rawScore u thresholds).toRat - (rawScore v thresholds).toRat = _
    rw [toRat_rawScore_eq_sum, toRat_rawScore_eq_sum]
    ring
  rw [hsum, hfall, mul_add, mul_add, mul_add, mul_add]
  constructor
  · refine add_le_add (add_le_add ?_ ?_) ?_ <;>
      exact mul_le_mul_of_nonneg_right (leastRate_le _) (hgrowth _)
  · refine add_le_add (add_le_add ?_ ?_) ?_ <;>
      exact mul_le_mul_of_nonneg_right (rate_le _) (hgrowth _)

/-- Where the bands begin and end, scores are whole numbers. -/
theorem rawScore_at_ends (thresholds : Thresholds (Exact exp sqrt)) :
    let score (u : Rat) : Rat := (rawScore (⟨u⟩ : Exact exp sqrt) thresholds).toRat
    score 0 = 100 ∧ score thresholds.low.toRat = 80 ∧ score thresholds.high.toRat = 50 ∧
      score 1 = 0 := by
  intro score
  obtain ⟨hlow, hlt, hhigh⟩ := thresholds.toRat_ordered
  have hgood := sub_ne_zero.2 hlt.ne'
  have hpoor := sub_ne_zero.2 hhigh.ne'
  refine ⟨?_, ?_, ?_, ?_⟩ <;>
    simp only [score, toRat_rawScore_eq_sum, rate, part]
  · rw [min_eq_left hlow.le, max_eq_right hlow.le, min_eq_left hlt.le,
      max_eq_right (hlow.trans hlt).le]
    ring
  · rw [min_self, max_self, min_eq_left hlt.le, max_eq_right hlt.le]
    field_simp
    ring
  · rw [min_eq_right hlt.le, max_eq_left hlt.le, min_self, max_self]
    field_simp
    ring
  · rw [min_eq_right (hlt.trans hhigh).le, max_eq_left (hlt.trans hhigh).le, min_eq_right hhigh.le,
      max_eq_left hhigh.le]
    field_simp
    ring

/-- Scores have no jump. -/
theorem continuous_rawScore (thresholds : Thresholds (Exact exp sqrt)) :
    Continuous fun u : Rat => (rawScore (⟨u⟩ : Exact exp sqrt) thresholds).toRat := by
  simp only [toRat_rawScore_eq_sum, part]
  fun_prop

/-- With accepted thresholds the three rates have positive denominators, and between any two
utilizations a score falls at least at the least of them and at most at the greatest. So it has no
jump and falls everywhere: from 100 at zero to 80 and 50 at the thresholds, and to 0 at one. -/
theorem rawScore_falls_between_rates (h : Thresholds.of low high = .ok thresholds) :
    let score (u : Rat) : Rat := (rawScore (⟨u⟩ : Exact exp sqrt) thresholds).toRat
    let least := leastRate low.toRat high.toRat
    let greatest := greatestRate low.toRat high.toRat
    (0 < low.toRat ∧ 0 < high.toRat - low.toRat ∧ 0 < 1 - high.toRat) ∧
    (∀ u v : Rat, u ≤ v →
      least * (v - u) ≤ score u - score v ∧ score u - score v ≤ greatest * (v - u)) ∧
    StrictAnti score ∧ Continuous score ∧
    score 0 = 100 ∧ score low.toRat = 80 ∧ score high.toRat = 50 ∧ score 1 = 0 := by
  obtain ⟨rfl, rfl⟩ := thresholds_of_eq_ok h
  intro score least greatest
  obtain ⟨hlow, hlt, hhigh⟩ := thresholds.toRat_ordered
  have hfalls (u v : Rat) (huv : u ≤ v) :
      least * (v - u) ≤ score u - score v ∧ score u - score v ≤ greatest * (v - u) :=
    rawScore_falls (u := ⟨u⟩) (v := ⟨v⟩) huv thresholds
  refine ⟨⟨hlow, sub_pos.2 hlt, sub_pos.2 hhigh⟩, hfalls, fun u v huv => ?_,
    continuous_rawScore thresholds, rawScore_at_ends thresholds⟩
  have hpos : 0 < least * (v - u) := mul_pos (leastRate_pos hlow hlt hhigh) (sub_pos.2 huv)
  exact sub_pos.1 (hpos.trans_le (hfalls u v huv.le).1)

/-- From the excellent band across the good one to beyond the limit. -/
theorem rawScore_falls_between_rates_of_standard :
    let thresholds : Thresholds (Exact id id) := standardThresholds
    let score (u : Rat) : Rat := (rawScore (⟨u⟩ : Exact id id) thresholds).toRat
    Thresholds.of (0.5 : Exact id id) 0.8 = .ok thresholds ∧
      leastRate 0.5 0.8 = 40 ∧ greatestRate 0.5 0.8 = 250 ∧
      40 * (1.2 - 0.4) ≤ score 0.4 - score 1.2 ∧ score 0.4 - score 1.2 ≤ 250 * (1.2 - 0.4) := by
  intro thresholds score
  have haccepted : Thresholds.of (0.5 : Exact id id) 0.8 = .ok thresholds :=
    dif_pos thresholds.ordered
  have hleast : leastRate 0.5 0.8 = 40 := by decide +kernel
  have hgreatest : greatestRate 0.5 0.8 = 250 := by decide +kernel
  obtain ⟨-, hfalls, -⟩ := rawScore_falls_between_rates haccepted
  have hbounds := hfalls 0.4 1.2 (by norm_num)
  exact ⟨haccepted, hleast, hgreatest, hleast ▸ hbounds.1, hgreatest ▸ hbounds.2⟩

end Exact

end ResourceMeter
