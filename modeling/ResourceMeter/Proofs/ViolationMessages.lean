import ResourceMeter.Proofs.Binary64Nearest
import ResourceMeter.Proofs.Consumption
import ResourceMeter.Simulation

/-!
# The two percentages of a violation message

A message says that one percentage exceeds another one and shows the first with one decimal place,
the second without. Each is the nearest number of its kind, and an even one where two are as near
(`Decimal.nearestEven_fixedUnits`). Multiplication by 100 keeps the order of utilization and margin,
but the coarser rounding may lift the margin above the utilization.

`SafetyViolation.message_of_check` says how far and when: by at most half a percent, and exactly if
the utilization is more than a twentieth of a percent below the percentage shown for the margin. So
a margin that is not rounded up by more than that is never shown above the utilization, and
`SafetyViolation.message_below_margin` is a message with another one.
-/

namespace ResourceMeter

/-! ## Rounding to the nearest number -/

namespace Decimal

/-- The whole number is nearest to the rational number; where two are as near, it is the even
one. -/
structure NearestEven (q : ℚ) (n : ℕ) : Prop where
  near : |q - n| ≤ 1 / 2
  even : |q - n| = 1 / 2 → Even n

/-- The quotient halfway between two whole numbers goes to the even one. -/
theorem even_roundDiv {n d : ℕ} (h : 0 < d)
    (htie : 2 * n = (2 * roundDiv n d .toEven + 1) * d ∨ 2 * roundDiv n d .toEven * d = 2 * n + d) :
    Even (roundDiv n d .toEven) := by
  have hsplit : n / d * d + n % d = n := Nat.div_add_mod' n d
  have hrest : n % d < d := Nat.mod_lt n h
  unfold roundDiv at htie ⊢
  simp only at htie ⊢
  split_ifs at htie ⊢ with hbelow habove
  · rcases htie with htie | htie <;> grind
  · rcases htie with htie | htie <;> grind
  · rw [Nat.even_iff]
    omega

/-- A rounded quotient is the nearest whole number. -/
theorem nearestEven_roundDiv (n : ℕ) {d : ℕ} (h : 0 < d) :
    NearestEven (n / d) (roundDiv n d .toEven) := by
  obtain ⟨hbelow, habove⟩ := roundDiv_within_half n d .toEven h
  have htie := even_roundDiv (n := n) h
  generalize roundDiv n d .toEven = r at hbelow habove htie
  have hd : (0 : ℚ) < d := by exact_mod_cast h
  have hdistance : (n / d - r : ℚ) = (2 * n - 2 * r * d) / (2 * d) := by
    field_simp
  have hbelow : (2 * n : ℚ) ≤ (2 * r + 1) * d := by exact_mod_cast hbelow
  have habove : (2 * r * d : ℚ) ≤ 2 * n + d := by exact_mod_cast habove
  constructor
  · rw [hdistance, abs_le, le_div_iff₀ (by linarith), div_le_iff₀ (by linarith)]
    constructor <;> linarith
  · rw [hdistance, abs_eq (by norm_num), div_eq_iff (by linarith), div_eq_iff (by linarith)]
    intro h
    refine htie (h.imp (fun h => ?_) fun h => ?_)
    · have hcast : (2 * n : ℚ) = (2 * r + 1) * d := by linarith
      exact_mod_cast hcast
    · have hcast : (2 * r * d : ℚ) = 2 * n + d := by linarith
      exact_mod_cast hcast

/-- The units of a magnitude are nearest to it. -/
theorem nearestEven_fixedUnits (places : ℕ) {q : ℚ} (hq : 0 ≤ q) :
    NearestEven (q * 10 ^ places) (fixedUnits places q) := by
  have hnearest := nearestEven_roundDiv (q.num.toNat * 10 ^ places) q.den_pos
  have hnum : ((q.num.toNat : ℕ) : ℚ) = q.num := by
    exact_mod_cast Int.toNat_of_nonneg (Rat.num_nonneg.2 hq)
  rw [Nat.cast_mul, hnum, mul_div_right_comm, Rat.num_div_den] at hnearest
  push_cast at hnearest
  exact hnearest

namespace NearestEven

variable {q p : ℚ} {n k : ℕ}

/-- The number is at most half a unit above. -/
theorem le (h : NearestEven q n) : (n : ℚ) ≤ q + 1 / 2 := by
  linarith [(abs_le.1 h.near).1]

/-- The number is at most half a unit below. -/
theorem ge (h : NearestEven q n) : q ≤ n + 1 / 2 := by
  linarith [(abs_le.1 h.near).2]

/-- A whole number is the nearest one to itself. -/
theorem eq_of_cast (h : NearestEven k n) : n = k := by
  have hlow : (n : ℚ) < k + 1 := by linarith [h.le]
  have hhigh : (k : ℚ) < n + 1 := by linarith [h.ge]
  exact le_antisymm (Nat.lt_add_one_iff.1 (by exact_mod_cast hlow))
    (Nat.lt_add_one_iff.1 (by exact_mod_cast hhigh))

/-- Halfway below an even number the even number is taken. -/
theorem even_le_iff (h : NearestEven q n) (hk : Even k) : k ≤ n ↔ (k : ℚ) - 1 / 2 ≤ q := by
  constructor
  · intro hle
    have hcast : (k : ℚ) ≤ n := by exact_mod_cast hle
    linarith [h.le]
  · intro hle
    by_contra! hlt
    have hcast : (n + 1 : ℚ) ≤ k := by exact_mod_cast hlt
    have htie : q - n = 1 / 2 := by linarith [h.ge]
    have heven := h.even (by rw [htie]; norm_num)
    have hnext : (k : ℚ) = (n + 1 : ℕ) := by
      push_cast
      linarith
    rw [Nat.cast_inj.1 hnext, Nat.even_add_one] at hk
    exact hk heven

/-- Ten coarse units against the fine ones: the coarse rounding is ahead by at most five of them,
and exactly if the greater number is that far below. -/
theorem tenfold (hp : NearestEven (p * 10) n) (hq : NearestEven q k) (h : q ≤ p) :
    (10 * k ≤ n ↔ (k : ℚ) - 1 / 20 ≤ p) ∧ 10 * k ≤ n + 5 := by
  constructor
  · rw [hp.even_le_iff (Even.mul_right (by decide) k)]
    push_cast
    constructor <;> intro <;> linarith
  · have hlt : (10 * k : ℚ) < n + 5 + 1 := by linarith [hq.le, hp.ge]
    exact Nat.lt_add_one_iff.1 (by exact_mod_cast hlt)

end NearestEven

end Decimal

/-! ## Percentages -/

namespace Binary64

/-- The percentage of a positive number is positive, and finite unless it overflows. -/
theorem percentage {x : Float} (hx : x.isFinite = true) (hpos : 0 < toRat x) :
    ((x * 100.0).isFinite = true ∧ 0 < toRat (x * 100.0)) ∨
      (x * 100.0).toModel.unpack = .infinity .positive := by
  have hle : x ≤ x * 100.0 := le_mul_of_one_le hx hpos.le rfl (by decide +kernel)
  exact (finite_or_infinite_of_le hx hle).imp_left (And.imp_right hpos.trans_le)

/-- A positive number is written without a sign. -/
theorem fixedText_of_pos (places : ℕ) {x : Float} (hx : x.isFinite = true) (hpos : 0 < toRat x) :
    Decimal.fixedText places x =
      Decimal.unitsText places (Decimal.fixedUnits places (toRat x)) := by
  unfold Decimal.fixedText
  rw [value_eq_of_pos hx hpos]
  exact String.empty_append

/-- Infinity is written in letters. -/
theorem fixedText_of_infinite (places : ℕ) {x : Float}
    (hx : x.toModel.unpack = .infinity .positive) : Decimal.fixedText places x = "inf" := by
  unfold Decimal.fixedText
  rw [value_eq, hx]
  rfl

end Binary64

namespace SafetyViolation

open Binary64 Decimal

/-- The message shows these percentages. -/
def Shows {α : Type} [Arithmetic α] (violation : SafetyViolation α)
    (utilization margin : String) : Prop :=
  violation.message = violation.dimension.label ++ " at " ++ utilization ++ "% exceeds " ++
    margin ++ "% safety margin"

instance {α : Type} [Arithmetic α] (violation : SafetyViolation α) (utilization margin : String) :
    Decidable (violation.Shows utilization margin) :=
  inferInstanceAs (Decidable (_ = _))

/-- The numbers of a violation: both are positive, and the utilization is the greater one. -/
theorem toRat_lt_of_check {costs : ResourceCosts Float} {margin : Float}
    {violation : SafetyViolation Float} (hmargin : 0.0 < margin)
    (hviolation : violation ∈ check costs margin) (hfinite : violation.utilization.isFinite = true) :
    violation.margin = margin ∧ margin.isFinite = true ∧ 0 < toRat margin ∧
      toRat margin < toRat violation.utilization := by
  obtain ⟨d, habove, rfl⟩ := mem_check_iff.1 hviolation
  rcases finite_or_infinite_of_le rfl (le_of_lt hmargin) with ⟨hmargin_finite, -⟩ | hinfinite
  · rw [lt_iff rfl hmargin_finite, toRat_zero] at hmargin
    exact ⟨rfl, hmargin_finite, hmargin, (lt_iff hmargin_finite hfinite).1 habove⟩
  · exact absurd (le_of_infinite hfinite hinfinite) (not_le_of_lt habove)

/-- What the message of a violation shows, for every dimension, every positive margin and every
finite utilization. The percentages themselves are in order. Unless the one of the utilization
overflows, both are rounded to nearest; the message shows them out of order exactly if the
percentage of the utilization is more than a twentieth below the number shown for the margin, and by
at most half a percent. A margin whose percentage is not that far below the number shown for it is
never shown above the utilization. -/
theorem message_of_check {costs : ResourceCosts Float} {margin : Float}
    {violation : SafetyViolation Float} (hmargin : 0.0 < margin)
    (hviolation : violation ∈ check costs margin) (hfinite : violation.utilization.isFinite = true) :
    let shown := violation.utilization * 100.0
    let limit := margin * 100.0
    limit ≤ shown ∧
    ((shown.isFinite = false ∧ violation.Shows "inf" (fixedText 0 limit)) ∨
      (shown.isFinite = true ∧ limit.isFinite = true ∧
        ∃ tenths percent, violation.Shows (unitsText 1 tenths) (unitsText 0 percent) ∧
          NearestEven (toRat shown * 10) tenths ∧ NearestEven (toRat limit) percent ∧
          (10 * percent ≤ tenths ↔ (percent : ℚ) - 1 / 20 ≤ toRat shown) ∧
          ((percent : ℚ) - 1 / 20 ≤ toRat limit → 10 * percent ≤ tenths) ∧
          10 * percent ≤ tenths + 5)) := by
  intro shown limit
  obtain ⟨rfl, hmargin_finite, hmargin_pos, habove⟩ :=
    toRat_lt_of_check hmargin hviolation hfinite
  have hutilization_pos := hmargin_pos.trans habove
  have hle : limit ≤ shown := mul_le_mul_right hmargin_finite hfinite rfl hmargin_pos.le
    (by decide +kernel) habove.le
  refine ⟨hle, ?_⟩
  rcases percentage hfinite hutilization_pos with ⟨hshown, hshown_pos⟩ | hshown
  · refine .inr ⟨hshown, ?_⟩
    rcases percentage hmargin_finite hmargin_pos with ⟨hlimit, hlimit_pos⟩ | hlimit
    · have htenths := nearestEven_fixedUnits 1 hshown_pos.le
      have hpercent := nearestEven_fixedUnits 0 hlimit_pos.le
      rw [pow_one] at htenths
      rw [pow_zero, mul_one] at hpercent
      have horder := (le_iff hlimit hshown).1 hle
      obtain ⟨hiff, hnear⟩ := htenths.tenfold hpercent horder
      refine ⟨hlimit, _, _, ?_, htenths, hpercent, hiff, fun h => hiff.2 (h.trans horder), hnear⟩
      unfold Shows message
      rw [fixedText_of_pos 1 hshown hshown_pos, fixedText_of_pos 0 hlimit hlimit_pos]
    · exact absurd hle (not_le_of_infinite hlimit hshown)
  · refine .inl ⟨isFinite_of_unpack_eq hshown, ?_⟩
    unfold Shows message
    rw [fixedText_of_infinite 1 hshown]

/-- On the main network, where the margin is a whole percentage, no message is out of order. -/
theorem message_of_check_of_mainnet :
    let costs := ResourceCosts.compute { Simulation.zero with instructions := 96000000 } .mainnet
    let violation : SafetyViolation Float := ⟨.cpu, 0.96, 0.95⟩
    violation ∈ check costs 0.95 ∧ violation.message = "CPU at 96.0% exceeds 95% safety margin" ∧
      ∃ tenths, violation.Shows (unitsText 1 tenths) (unitsText 0 95) ∧
        NearestEven (toRat (0.96 * 100.0) * 10) tenths ∧ 10 * 95 ≤ tenths := by
  intro costs violation
  have hviolation : violation ∈ check costs 0.95 := by decide +kernel
  have hmessage : violation.message = "CPU at 96.0% exceeds 95% safety margin" := by decide +kernel
  have hshown : (0.96 * 100.0 : Float).isFinite = true := by decide +kernel
  have hlimit : toRat (0.95 * 100.0) = (95 : ℕ) := by decide +kernel
  obtain ⟨-, ⟨hinfinite, -⟩ | ⟨-, -, tenths, percent, hshows, htenths, hpercent, -, horder, -⟩⟩ :=
    message_of_check (by decide +kernel) hviolation (by decide +kernel)
  · exact absurd (hshown.symm.trans hinfinite) Bool.noConfusion
  · rw [hlimit] at hpercent horder
    rw [hpercent.eq_of_cast] at hshows horder
    exact ⟨hviolation, hmessage, tenths, hshows, htenths, horder (by norm_num)⟩

/-- With a margin of 95.6 percent, which a valid snapshot may have, 95.7 percent are said to exceed
96 percent. -/
theorem message_below_margin :
    let tuning := { Snapshot.mainnet.tuning with safetyMargin := 0.956 }
    let snapshot : Snapshot Float := { Snapshot.mainnet with tuning }
    let costs := ResourceCosts.compute { Simulation.zero with instructions := 95700000 } snapshot
    let violation : SafetyViolation Float := ⟨.cpu, 0.957, 0.956⟩
    snapshot.validate = .ok () ∧ (0.0 : Float) < 0.956 ∧ violation.utilization.isFinite = true ∧
      check costs snapshot.tuning.safetyMargin = [violation] ∧
      violation.message = "CPU at 95.7% exceeds 96% safety margin" ∧
      violation.Shows (unitsText 1 957) (unitsText 0 96) ∧ ¬ 10 * 96 ≤ 957 := by
  intro tuning snapshot costs violation
  and_intros <;> decide +kernel

end SafetyViolation

end ResourceMeter
