import Mathlib.Algebra.Order.BigOperators.Group.List
import Mathlib.Algebra.Order.Field.Rat
import Mathlib.Tactic.Linarith
import Mathlib.Tactic.NormNum
import ResourceMeter.Proofs.SnapshotValidity

/-!
# Exact arithmetic

`Exact` is an `Arithmetic` without roundings and overflows: its numbers are rational and all of
them are finite. The exponential function and the square root leave the rational numbers, so they
are parameters, about which a theorem assumes what it needs.

The lemmas of this module turn an expression of the model into one of rational numbers.
-/

namespace ResourceMeter

open Arithmetic

/-- A rational number, with functions to stand for the exponential function and the square root. -/
structure Exact (exp sqrt : Rat → Rat) where
  toRat : Rat
  deriving DecidableEq

variable {exp sqrt : Rat → Rat}

instance : Arithmetic (Exact exp sqrt) where
  add x y := ⟨x.toRat + y.toRat⟩
  sub x y := ⟨x.toRat - y.toRat⟩
  mul x y := ⟨x.toRat * y.toRat⟩
  div x y := ⟨x.toRat / y.toRat⟩
  ofScientific mantissa negative exponent := ⟨OfScientific.ofScientific mantissa negative exponent⟩
  lt x y := x.toRat < y.toRat
  le x y := x.toRat ≤ y.toRat
  decidableLT x y := inferInstanceAs (Decidable (x.toRat < y.toRat))
  decidableLE x y := inferInstanceAs (Decidable (x.toRat ≤ y.toRat))
  ofCount count := ⟨count⟩
  emptySum := ⟨0⟩
  sqrt x := ⟨sqrt x.toRat⟩
  value x := .finite (decide (x.toRat < 0)) |x.toRat|

instance : Exponential (Exact exp sqrt) where
  exp x := ⟨exp x.toRat⟩

namespace Exact

variable (x y : Exact exp sqrt)

@[simp] theorem toRat_add : (x + y).toRat = x.toRat + y.toRat := rfl

@[simp] theorem toRat_sub : (x - y).toRat = x.toRat - y.toRat := rfl

@[simp] theorem toRat_mul : (x * y).toRat = x.toRat * y.toRat := rfl

@[simp] theorem toRat_div : (x / y).toRat = x.toRat / y.toRat := rfl

@[simp] theorem toRat_ofScientific (mantissa exponent : Nat) (negative : Bool) :
    (OfScientific.ofScientific mantissa negative exponent : Exact exp sqrt).toRat =
      OfScientific.ofScientific mantissa negative exponent := rfl

@[simp] theorem toRat_ofCount (count : Nat) : (ofCount count : Exact exp sqrt).toRat = count := rfl

theorem lt_iff : x < y ↔ x.toRat < y.toRat := Iff.rfl

theorem le_iff : x ≤ y ↔ x.toRat ≤ y.toRat := Iff.rfl

/-- What is below a number is below every greater one. -/
theorem lt_le_trans {x y z : Exact exp sqrt} (hxy : x < y) (hyz : y ≤ z) : x < z := by
  rw [lt_iff] at hxy ⊢
  exact hxy.trans_le hyz

@[simp] theorem value_eq : value x = .finite (decide (x.toRat < 0)) |x.toRat| := rfl

/-- Every exact number is finite. -/
@[simp] theorem isFinite_eq_true : isFinite x = true := rfl

/-- A sum from the left is the sum. -/
@[simp] theorem toRat_sum (terms : List (Exact exp sqrt)) :
    (sum terms).toRat = (terms.map toRat).sum := by
  have hfold : ∀ start : Exact exp sqrt,
      (terms.foldl (· + ·) start).toRat = start.toRat + (terms.map toRat).sum := by
    induction terms with
    | nil => exact fun start => (add_zero _).symm
    | cons term terms ih =>
      intro start
      rw [List.foldl_cons, ih, toRat_add, List.map_cons, List.sum_cons, add_assoc]
  unfold sum
  rw [hfold]
  exact zero_add _

/-- Being finite and not negative is not being negative. -/
theorem nonNegative_iff : NonNegative x ↔ 0 ≤ x.toRat := by
  unfold NonNegative
  rw [lt_iff, toRat_ofScientific]
  norm_num

/-- Moving a number into a range is cutting it off at both ends. -/
theorem toRat_clamp (low high : Exact exp sqrt) (h : low.toRat ≤ high.toRat) :
    (clamp x low high).toRat = max low.toRat (min x.toRat high.toRat) := by
  unfold clamp
  split_ifs with hlow hhigh
  · rw [lt_iff] at hlow
    exact (max_eq_left ((min_le_left _ _).trans hlow.le)).symm
  · rw [lt_iff] at hhigh
    rw [min_eq_right hhigh.le, max_eq_right h]
  · rw [lt_iff, not_lt] at hlow hhigh
    rw [min_eq_left hhigh, max_eq_right hlow]

/-- A count divided by another one grows with it. -/
theorem count_div_le {m n : Nat} (h : m ≤ n) (l : Nat) :
    (ofCount m / ofCount l : Exact exp sqrt) ≤ ofCount n / ofCount l := by
  rw [le_iff, toRat_div, toRat_div, toRat_ofCount, toRat_ofCount, toRat_ofCount]
  exact div_le_div_of_nonneg_right (Nat.cast_le.2 h) (Nat.cast_nonneg l)

/-- Counts have quotients that are not negative. -/
theorem count_div_nonneg (n l : Nat) : 0 ≤ (ofCount n / ofCount l : Exact exp sqrt).toRat := by
  rw [toRat_div, toRat_ofCount, toRat_ofCount]
  exact div_nonneg (Nat.cast_nonneg n) (Nat.cast_nonneg l)

/-- A count times a rate that is not negative grows with it. -/
theorem count_mul_le {m n : Nat} (h : m ≤ n) {rate : Exact exp sqrt} (hrate : NonNegative rate) :
    ofCount m * rate ≤ ofCount n * rate := by
  rw [le_iff, toRat_mul, toRat_mul, toRat_ofCount, toRat_ofCount]
  exact mul_le_mul_of_nonneg_right (Nat.cast_le.2 h) ((nonNegative_iff _).1 hrate)

/-- A sum of greater terms is greater. -/
theorem sum_map_le {ι : Type} (indices : List ι) {f g : ι → Exact exp sqrt}
    (h : ∀ i ∈ indices, f i ≤ g i) : sum (indices.map f) ≤ sum (indices.map g) := by
  rw [le_iff, toRat_sum, toRat_sum, List.map_map, List.map_map]
  exact List.sum_le_sum h

/-! ## The main network -/

/-- The same weight for every ledger dimension. -/
def uniformWeights : LedgerWeights (Exact exp sqrt) where
  weights := .replicate 5 0.2
  valid := by
    rw [namedLedgerWeights_eq]
    refine weightFault?_eq_none_iff.2 ⟨?_, ?_⟩
    · simp only [LedgerDimension.all, List.map_cons, List.map_nil, List.forall_mem_cons,
        Fin.getElem_fin, Vector.getElem_replicate, nonNegative_iff, toRat_ofScientific]
      norm_num
    · simp only [LedgerDimension.all, List.map_cons, List.map_nil, Fin.getElem_fin,
        Vector.getElem_replicate, magnitude, weightTolerance, lt_iff, not_lt, toRat_sub, toRat_sum,
        List.sum_cons, List.sum_nil, toRat_ofScientific]
      norm_num

/-- Cpu and ledger weigh the same, memory half as much. -/
def standardScoreWeights : ScoreWeights (Exact exp sqrt) where
  cpu := 0.4
  memory := 0.2
  ledger := 0.4
  valid := by
    refine weightFault?_eq_none_iff.2 ⟨?_, ?_⟩
    · simp only [namedScoreWeights, List.forall_mem_cons, nonNegative_iff, toRat_ofScientific]
      norm_num
    · simp only [namedScoreWeights, List.map_cons, List.map_nil, magnitude, weightTolerance,
        lt_iff, not_lt, toRat_sub, toRat_sum, List.sum_cons, List.sum_nil, toRat_ofScientific]
      norm_num

/-- Half of a limit and four fifths of it. -/
def standardThresholds : Thresholds (Exact exp sqrt) where
  low := 0.5
  high := 0.8
  ordered := by
    simp only [thresholdsOrdered, isFinite_eq_true, Bool.and_eq_true, decide_eq_true_iff, lt_iff,
      toRat_ofScientific]
    norm_num

/-- The reference values of the main network. -/
def mainnet : Snapshot (Exact exp sqrt) where
  version := Snapshot.mainnet.version
  limits := Snapshot.mainnet.limits
  fees :=
    { instructionsPerFeeIncrement := 10000
      feePerInstructionIncrement := 0.00001
      feeReadLedgerEntry := 0.0001
      feeWriteLedgerEntry := 0.0002
      feeRead1kb := 0.00005
      feeWrite1kb := 0.0001
      feeTxSize1kb := 0.00001 }
  tuning :=
    { ledgerPressureWeight := 0.5
      memoryScalingFactor := 100.0
      ledgerWeights := uniformWeights
      thresholds := standardThresholds
      scoreWeights := standardScoreWeights
      safetyMargin := 0.95 }

/-- The snapshot of the main network is valid. -/
theorem validate_mainnet : (mainnet : Snapshot (Exact exp sqrt)).validate = .ok () := by
  have hfloat := Snapshot.validate_eq_ok_iff.1 Snapshot.validate_mainnet
  rw [Snapshot.validate_eq_ok_iff]
  refine ⟨hfloat.version, hfloat.limits, (by decide : (10000 : UInt64) ≠ 0), ?_, ?_, ?_, rfl, ?_⟩
  · simp only [mainnet, FeeSchedule.named, List.forall_mem_cons, nonNegative_iff,
      toRat_ofScientific]
    norm_num
  · simp only [mainnet, nonNegative_iff, toRat_ofScientific]
    norm_num
  · simp only [mainnet, nonNegative_iff, toRat_ofScientific]
    norm_num
  · simp only [mainnet, le_iff, not_le, toRat_ofScientific]
    norm_num

end Exact

end ResourceMeter
