import Mathlib.Algebra.Order.Archimedean.Basic
import Mathlib.Data.Rat.Floor
import ResourceMeter.Proofs.Binary64Bounds
import ResourceMeter.Proofs.Binary64Order

/-!
# Results within a small factor

A rounded result is known to lie between any two numbers that have its exact value between them. So
it is known up to the factor `129 / 128` wherever numbers stand that close, as `exists_bracket` says
they do down to `2 ^ (-1000)`. A lower bound `v ≤ x` says that `x` is finite and not less or that
it is infinite, and every operation has its own lemma to carry such bounds on. What is no number
stays none.
-/

namespace ResourceMeter.Binary64

open Float.Model Float.Model.UnpackedFloat

/-! ## Numbers near a value -/

/-- A mantissa of at most 53 bits is made canonical, as long as the exponents allow. -/
theorem exists_canonical_eq {m : ℕ} {e : ℤ} (hm : m < 2 ^ 53) (he : -1074 ≤ e) :
    ∃ m' e', Canonical m' e' ∧ e' ≤ e ∧ (m : ℚ) * 2 ^ e = m' * 2 ^ e' := by
  rcases Nat.eq_zero_or_pos m with rfl | hpos
  · exact ⟨0, -1074, canonical_zero, he, by rw [Nat.cast_zero, zero_mul, zero_mul]⟩
  have hlog : m.log2 < 53 := (Nat.log2_lt hpos.ne').2 hm
  obtain ⟨k, hk⟩ : ∃ k : ℕ, k = min (52 - m.log2) (e + 1074).toNat := ⟨_, rfl⟩
  have hshift : (e - (e - k)).toNat = k := by omega
  have hvalue := mul_two_zpow_of_le (show e - k ≤ e by omega) m
  rw [hshift] at hvalue
  refine ⟨m * 2 ^ k, e - k, ⟨?_, by omega, ?_⟩, by omega, hvalue⟩
  · calc m * 2 ^ k < 2 ^ (m.log2 + 1) * 2 ^ k :=
          Nat.mul_lt_mul_of_pos_right Nat.lt_log2_self (Nat.two_pow_pos k)
      _ = 2 ^ (m.log2 + 1 + k) := (Nat.pow_add ..).symm
      _ ≤ 2 ^ 53 := Nat.pow_le_pow_right two_pos (by omega)
  · by_cases hleast : e - k = -1074
    · exact .inl hleast
    · refine .inr ?_
      calc 2 ^ 52 = 2 ^ m.log2 * 2 ^ k := by rw [← pow_add]; congr 1; omega
        _ ≤ m * 2 ^ k := Nat.mul_le_mul_right _ (Nat.log2_self_le hpos.ne')

/-- A mantissa of at most 53 bits and an exponent in the range make a number. -/
theorem exists_float_eq {m : ℕ} {e : ℤ} (h : 0 < m) (hm : m < 2 ^ 53) (hlow : -1074 ≤ e)
    (hhigh : e ≤ 971) : ∃ v : Float, v.isFinite = true ∧ toRat v = m * 2 ^ e := by
  obtain ⟨m', e', hcanonical, hle, heq⟩ := exists_canonical_eq hm hlow
  have hpos : 0 < m' := by
    refine Nat.pos_of_ne_zero ?_
    rintro rfl
    rw [Nat.cast_zero, zero_mul] at heq
    exact (mul_pos (Nat.cast_pos.2 h) (two_zpow_pos e)).ne' heq
  obtain ⟨v, hv, hvalue⟩ := exists_float .positive hpos hcanonical (hle.trans hhigh)
  exact ⟨v, hv, by rw [hvalue, factor, one_mul, heq]⟩

/-- A positive number is cut down to eight bits. -/
theorem exists_eight_bits {q : ℚ} (hq : 0 < q) : ∃ (k : ℕ) (e : ℤ), 128 ≤ k ∧ k < 256 ∧
    (k : ℚ) * 2 ^ e ≤ q ∧ q < (k + 1 : ℕ) * 2 ^ e := by
  obtain ⟨n, hn, hn_next⟩ := exists_mem_Ico_zpow hq (one_lt_two : (1 : ℚ) < 2)
  have hplace := two_zpow_pos (n - 7)
  have hscale : (2 : ℚ) ^ n = 128 * 2 ^ (n - 7) := by
    rw [zpow_sub₀ two_ne_zero]
    norm_num
    ring
  rw [two_zpow_succ, hscale] at hn_next
  rw [hscale] at hn
  have hquotient : 0 ≤ q / 2 ^ (n - 7) := div_nonneg hq.le hplace.le
  refine ⟨⌊q / 2 ^ (n - 7)⌋₊, n - 7, ?_, ?_, ?_, ?_⟩
  · refine Nat.le_floor ?_
    rw [le_div_iff₀ hplace]
    exact_mod_cast hn
  · rw [Nat.floor_lt hquotient, div_lt_iff₀ hplace]
    push_cast
    linarith
  · rw [← le_div_iff₀ hplace]
    exact Nat.floor_le hquotient
  · rw [← div_lt_iff₀ hplace, Nat.cast_add_one]
    exact Nat.lt_floor_add_one _

/-- Between numbers whose quotient is at most `129 / 128` there is every value of a wide range. -/
theorem exists_bracket {q : ℚ} (hlow : 2 ^ (-1000 : ℤ) ≤ q) (hhigh : q ≤ 1) :
    ∃ v w : Float, v.isFinite = true ∧ w.isFinite = true ∧ 0 < toRat v ∧ toRat v ≤ q ∧
      q ≤ toRat w ∧ 128 * toRat w ≤ 129 * toRat v := by
  obtain ⟨k, e, hk_low, hk_high, hk_le, hk_next⟩ :=
    exists_eight_bits ((two_zpow_pos _).trans_le hlow)
  have hplace := two_zpow_pos e
  have hcast : (128 : ℚ) ≤ k := by exact_mod_cast hk_low
  have he_low : -1000 < e + 8 := by
    rw [← zpow_lt_zpow_iff_right₀ (one_lt_two : (1 : ℚ) < 2), zpow_add₀ two_ne_zero]
    have hk_succ : ((k + 1 : ℕ) : ℚ) ≤ 256 := by exact_mod_cast hk_high
    calc (2 : ℚ) ^ (-1000 : ℤ) ≤ q := hlow
      _ < (k + 1 : ℕ) * 2 ^ e := hk_next
      _ ≤ 256 * 2 ^ e := mul_le_mul_of_nonneg_right hk_succ hplace.le
      _ = 2 ^ e * 2 ^ (8 : ℤ) := by norm_num [mul_comm]
  have he_high : e ≤ 0 := by
    rw [← zpow_le_zpow_iff_right₀ (one_lt_two : (1 : ℚ) < 2), zpow_zero]
    calc (2 : ℚ) ^ e ≤ k * 2 ^ e := le_mul_of_one_le_left hplace.le (by linarith)
      _ ≤ 1 := hk_le.trans hhigh
  obtain ⟨v, hv, hvalue⟩ :=
    exists_float_eq (show 0 < k by omega) (by omega) (show -1074 ≤ e by omega) (by omega)
  obtain ⟨w, hw, hvalue'⟩ :=
    exists_float_eq (Nat.succ_pos k) (by omega) (show -1074 ≤ e by omega) (by omega)
  refine ⟨v, w, hv, hw, ?_, hvalue ▸ hk_le, hvalue' ▸ hk_next.le, ?_⟩
  · rw [hvalue]
    exact mul_pos (by linarith) hplace
  · rw [hvalue, hvalue', ← mul_assoc, ← mul_assoc]
    refine mul_le_mul_of_nonneg_right ?_ hplace.le
    push_cast
    linarith

/-! ## Infinite operands -/

section
variable {q : ℚ} {c v w x y : Float}

/-- A positive finite number has a canonical mantissa. -/
theorem exists_unpack_eq_finite (hy : y.isFinite = true) (hpos : 0 < toRat y) :
    ∃ m e h, y.toModel.unpack = .finite .positive m e h ∧ Canonical m e := by
  unfold toRat at hpos
  obtain ⟨sign, hzero⟩ | ⟨sign, m, e, h, hunpack, hm, -⟩ := unpack_of_isFinite hy
  · rw [hzero] at hpos
    exact absurd hpos (lt_irrefl 0)
  · rw [hunpack, exactValue_finite] at hpos
    cases sign with
    | positive => exact ⟨m, e, h, hunpack, hm⟩
    | negative =>
      rw [factor, neg_one_mul, neg_pos] at hpos
      exact absurd hpos (mul_nonneg (Nat.cast_nonneg m) (two_zpow_pos e).le).not_gt

/-- A positive finite number stands for its value, without a sign. -/
theorem value_eq_of_pos (hy : y.isFinite = true) (hpos : 0 < toRat y) :
    Arithmetic.value y = .finite false (toRat y) := by
  obtain ⟨m, e, h, hunpack, -⟩ := exists_unpack_eq_finite hy hpos
  rw [value_eq, toRat_of_positive hunpack, hunpack]
  exact value_finite false m e

/-- Infinities are packed as they are. -/
theorem unpack_pack_infinity (s : Sign) :
    (Float.Model.pack (.infinity s)).unpack = .infinity s := by
  cases s <;> rfl

/-- Infinity less a finite number. -/
theorem infinite_sub (hx : x.toModel.unpack = .infinity .positive) (hy : y.isFinite = true) :
    (x - y).toModel.unpack = .infinity .positive := by
  have hsub : UnpackedFloat.sub .binary64 x.toModel.unpack y.toModel.unpack =
      .infinity .positive := by
    obtain ⟨_, hy⟩ | ⟨_, _, _, _, hy, -⟩ := unpack_of_isFinite hy <;> rw [hx, hy] <;> rfl
  show (Float.Model.pack (UnpackedFloat.sub .binary64 x.toModel.unpack y.toModel.unpack)).unpack = _
  rw [hsub, unpack_pack_infinity]

/-- A finite number less infinity. -/
theorem sub_infinite (hc : c.isFinite = true) (hx : x.toModel.unpack = .infinity .positive) :
    (c - x).toModel.unpack = .infinity .negative := by
  have hsub : UnpackedFloat.sub .binary64 c.toModel.unpack x.toModel.unpack =
      .infinity .negative := by
    obtain ⟨_, hc⟩ | ⟨_, _, _, _, hc, -⟩ := unpack_of_isFinite hc <;> rw [hx, hc] <;> rfl
  show (Float.Model.pack (UnpackedFloat.sub .binary64 c.toModel.unpack x.toModel.unpack)).unpack = _
  rw [hsub, unpack_pack_infinity]

/-- Infinity times a positive number. -/
theorem infinite_mul (hx : x.toModel.unpack = .infinity .positive) (hy : y.isFinite = true)
    (hpos : 0 < toRat y) : (x * y).toModel.unpack = .infinity .positive := by
  obtain ⟨m, e, h, hy, -⟩ := exists_unpack_eq_finite hy hpos
  have hmul : UnpackedFloat.mul .binary64 (.infinity .positive) (.finite .positive m e h) =
      .infinity .positive := rfl
  rw [unpack_mul, hx, hy, hmul, unpack_pack_infinity]

/-- Infinity divided by a positive number. -/
theorem infinite_div (hx : x.toModel.unpack = .infinity .positive) (hy : y.isFinite = true)
    (hpos : 0 < toRat y) : (x / y).toModel.unpack = .infinity .positive := by
  obtain ⟨m, e, h, hy, -⟩ := exists_unpack_eq_finite hy hpos
  have hdiv : UnpackedFloat.div .binary64 (.infinity .positive) (.finite .positive m e h) =
      .infinity .positive := rfl
  rw [unpack_div, hx, hy, hdiv, unpack_pack_infinity]

/-! ## NaN as an operand -/

/-- The test for NaN. -/
theorem isNaN_iff_unpack : x.isNaN = true ↔ x.toModel.unpack = .notANumber := by
  show x.toModel.unpack.isNaN = true ↔ _
  cases x.toModel.unpack with
  | notANumber => exact ⟨fun _ => rfl, fun _ => rfl⟩
  | infinity _ | zero _ | finite _ _ _ _ => exact ⟨nofun, nofun⟩

/-- NaN is below no number. -/
theorem not_lt_of_isNaN (h : x.isNaN = true) : ¬ x < y := by
  rw [float_lt_iff, isNaN_iff_unpack.1 h]
  exact Bool.false_ne_true

/-- No number is below NaN. -/
theorem not_gt_of_isNaN (h : y.isNaN = true) : ¬ x < y := by
  rw [float_lt_iff, isNaN_iff_unpack.1 h]
  cases x.toModel.unpack <;> exact Bool.false_ne_true

/-- A result that is packed as NaN is NaN. -/
theorem isNaN_of_pack {u : UnpackedFloat} (hx : x.toModel.unpack = (Float.Model.pack u).unpack)
    (hu : u = .notANumber) : x.isNaN = true := by
  rw [isNaN_iff_unpack, hx, hu]
  rfl

/-- A difference from NaN is NaN. -/
theorem isNaN_sub (h : x.isNaN = true) (y : Float) : (x - y).isNaN = true :=
  isNaN_of_pack (u := UnpackedFloat.sub .binary64 x.toModel.unpack y.toModel.unpack) rfl
    (by rw [isNaN_iff_unpack.1 h]; rfl)

/-- Taking NaN away leaves NaN. -/
theorem isNaN_sub_of_isNaN (c : Float) (h : x.isNaN = true) : (c - x).isNaN = true :=
  isNaN_of_pack (u := UnpackedFloat.sub .binary64 c.toModel.unpack x.toModel.unpack) rfl
    (by rw [isNaN_iff_unpack.1 h]; cases c.toModel.unpack <;> rfl)

/-- A sum with NaN is NaN. -/
theorem isNaN_add (h : x.isNaN = true) (y : Float) : (x + y).isNaN = true :=
  isNaN_of_pack (u := UnpackedFloat.add .binary64 x.toModel.unpack y.toModel.unpack) rfl
    (by rw [isNaN_iff_unpack.1 h]; rfl)

/-- A multiple of NaN is NaN. -/
theorem isNaN_mul (h : x.isNaN = true) (y : Float) : (x * y).isNaN = true :=
  isNaN_of_pack (unpack_mul x y) (by rw [isNaN_iff_unpack.1 h]; rfl)

/-- A part of NaN is NaN. -/
theorem isNaN_div (h : x.isNaN = true) (y : Float) : (x / y).isNaN = true :=
  isNaN_of_pack (unpack_div x y) (by rw [isNaN_iff_unpack.1 h]; rfl)

/-! ## Bounds -/

/-- Finite numbers are at most infinity. -/
theorem le_of_infinite (hv : v.isFinite = true) (hx : x.toModel.unpack = .infinity .positive) :
    v ≤ x := by
  rw [float_le_iff, hx]
  unfold UnpackedFloat.le
  rw [(compare_infinity hv).1]
  rfl

/-- Infinity is not at most a finite number. -/
theorem not_le_of_infinite (hx : x.toModel.unpack = .infinity .positive) (hw : w.isFinite = true) :
    ¬ x ≤ w := by
  rw [float_le_iff, hx]
  unfold UnpackedFloat.le
  rw [(compare_infinity hw).2.1]
  exact Bool.false_ne_true

/-- Negative infinity is below finite numbers. -/
theorem infinite_lt (hx : x.toModel.unpack = .infinity .negative) (hw : w.isFinite = true) :
    x < w := by
  rw [float_lt_iff, hx]
  unfold UnpackedFloat.lt
  rw [(compare_infinity hw).2.2.1]
  rfl

/-- A number below another one is at most it. -/
theorem le_of_lt (h : x < w) : x ≤ w := by
  obtain ⟨a, b, hx, hw, hab⟩ := lt_iff_extended.1 h
  exact le_iff_extended.2 ⟨a, b, hx, hw, hab.le⟩

/-- The strict order is transitive. -/
theorem lt_trans (hxy : x < y) (hyz : y < w) : x < w :=
  lt_of_le_of_lt (le_of_lt hxy) hyz

/-- What a finite number bounds from below is finite or infinite. -/
theorem finite_or_infinite_of_le (hv : v.isFinite = true) (h : v ≤ x) :
    (x.isFinite = true ∧ toRat v ≤ toRat x) ∨ x.toModel.unpack = .infinity .positive := by
  have hx := placed x
  generalize extended x = place at hx
  cases hx with
  | top hx => exact .inr hx
  | finite hx => exact .inl ⟨hx, (le_iff hv hx).1 h⟩
  | notANumber hx =>
    rw [float_le_iff, hx] at h
    obtain ⟨_, hv⟩ | ⟨_, _, _, _, hv, -⟩ := unpack_of_isFinite hv <;> rw [hv] at h <;> cases h
  | bottom hx =>
    rw [float_le_iff, hx] at h
    unfold UnpackedFloat.le at h
    rw [(compare_infinity hv).2.2.2] at h
    cases h

/-- What a finite number bounds from above is finite or infinite. -/
theorem finite_or_infinite_of_ge (hw : w.isFinite = true) (h : x ≤ w) :
    (x.isFinite = true ∧ toRat x ≤ toRat w) ∨ x.toModel.unpack = .infinity .negative := by
  have hx := placed x
  generalize extended x = place at hx
  cases hx with
  | bottom hx => exact .inr hx
  | finite hx => exact .inl ⟨hx, (le_iff hx hw).1 h⟩
  | notANumber hx =>
    rw [float_le_iff, hx] at h
    cases h
  | top hx => exact absurd h (not_le_of_infinite hx hw)

/-- A result is at least every number that its exact value is at least. -/
theorem Rounded.ge_of_le (h : Rounded q x) (hv : v.isFinite = true) (hle : toRat v ≤ q) :
    v ≤ x := by
  cases h with
  | finite hx hbetween => exact (le_iff hv hx).2 ((hbetween v hv).1 hle)
  | above hx _ => exact le_of_infinite hv hx
  | below _ hbelow => exact absurd (hbelow v hv) (not_lt.2 hle)

/-- A result is at most every number that its exact value is at most. -/
theorem Rounded.le_of_le (h : Rounded q x) (hw : w.isFinite = true) (hle : q ≤ toRat w) :
    x ≤ w := by
  cases h with
  | finite hx hbetween => exact (le_iff hx hw).2 ((hbetween w hw).2 hle)
  | above _ habove => exact absurd (habove w hw) (not_lt.2 hle)
  | below hx _ => exact le_of_lt (infinite_lt hx hw)

/-- A factor of at least one makes a number no smaller. -/
theorem le_mul_of_one_le (hx : x.isFinite = true) (hx_nonneg : 0 ≤ toRat x)
    (hc : c.isFinite = true) (hone : 1 ≤ toRat c) : x ≤ x * c :=
  (rounded_mul hx hc).ge_of_le hx (le_mul_of_one_le_right hx_nonneg hone)

/-- A lower bound of a difference. -/
theorem le_sub (hv : v.isFinite = true) (hx : v ≤ x) (hy : y.isFinite = true)
    (hw : w.isFinite = true) (hle : toRat w ≤ toRat v - toRat y) : w ≤ x - y := by
  obtain ⟨hx_finite, hx_le⟩ | hx := finite_or_infinite_of_le hv hx
  · exact (rounded_sub hx_finite hy).ge_of_le hw (by linarith)
  · exact le_of_infinite hw (infinite_sub hx hy)

/-- A lower bound of a quotient. -/
theorem le_div (hv : v.isFinite = true) (hx : v ≤ x) (hy : y.isFinite = true)
    (hpos : 0 < toRat y) (hw : w.isFinite = true) (hle : toRat w ≤ toRat v / toRat y) :
    w ≤ x / y := by
  obtain ⟨hx_finite, hx_le⟩ | hx := finite_or_infinite_of_le hv hx
  · refine (rounded_div hx_finite hy hpos.ne').ge_of_le hw (hle.trans ?_)
    exact div_le_div_of_nonneg_right hx_le hpos.le
  · exact le_of_infinite hw (infinite_div hx hy hpos)

/-- A lower bound of a product. -/
theorem le_mul (hv : v.isFinite = true) (hx : v ≤ x) (hy : y.isFinite = true)
    (hpos : 0 < toRat y) (hw : w.isFinite = true) (hle : toRat w ≤ toRat v * toRat y) :
    w ≤ x * y := by
  obtain ⟨hx_finite, hx_le⟩ | hx := finite_or_infinite_of_le hv hx
  · refine (rounded_mul hx_finite hy).ge_of_le hw (hle.trans ?_)
    exact mul_le_mul_of_nonneg_right hx_le hpos.le
  · exact le_of_infinite hw (infinite_mul hx hy hpos)

/-- An upper bound of what is taken from a finite number. -/
theorem sub_le (hv : v.isFinite = true) (hx : v ≤ x) (hc : c.isFinite = true)
    (hw : w.isFinite = true) (hle : toRat c - toRat v ≤ toRat w) : c - x ≤ w := by
  obtain ⟨hx_finite, hx_le⟩ | hx := finite_or_infinite_of_le hv hx
  · exact (rounded_sub hc hx_finite).le_of_le hw (by linarith)
  · exact le_of_lt (infinite_lt (sub_infinite hc hx) hw)

end

end ResourceMeter.Binary64
