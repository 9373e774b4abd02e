import Mathlib.Algebra.Order.Field.Power
import Mathlib.Algebra.Order.Ring.Rat
import Mathlib.Tactic.Linarith
import Mathlib.Tactic.NormNum
import ResourceMeter.Proofs.Binary64Counts
import ResourceMeter.Proofs.Binary64Parts

/-!
# Rounding to binary64

A finite number stands for a rational number (`Binary64.toRat`), and an operation rounds the exact
result. `Binary64.Rounded q x` says that `x` is a result for the exact value `q`: no finite number
lies between the two, and `x` is infinite only if every finite number lies on the same side of `q`.
It leaves open which of the two neighbours of `q` the result is, and is therefore all that a bound
on results needs. `Rounded.of_roundWithAccuracy` derives it for whatever the rounding is applied to;
it covers the subnormal numbers, results that are rounded to zero, and overflow.
-/

namespace ResourceMeter.Binary64

open Float.Model Float.Model.UnpackedFloat
open Float.Model.UnpackedFloat.ExtendedMantissa (ofMantissaAndAccuracy shiftRightOne)

/-! ## Finite numbers as rational numbers -/

/-- The factor that a sign stands for. -/
def factor : Sign → ℚ
  | .negative => -1
  | .positive => 1

/-- The rational number that an unpacked number is, if it is one. -/
def exactValue : UnpackedFloat → ℚ
  | .finite sign m e _ => factor sign * (m * 2 ^ e)
  | .zero _ => 0
  | .infinity _ => 0
  | .notANumber => 0

@[simp] theorem exactValue_zero (sign : Sign) : exactValue (.zero sign) = 0 := rfl

@[simp] theorem exactValue_finite (sign : Sign) (m : ℕ) (e : ℤ) (h : 0 < m) :
    exactValue (.finite sign m e h) = factor sign * (m * 2 ^ e) := rfl

/-- The rational number that a finite number is. -/
def toRat (x : Float) : ℚ :=
  exactValue x.toModel.unpack

/-- The value of a positive number. -/
theorem toRat_of_positive {x : Float} {m : ℕ} {e : ℤ} {h : 0 < m}
    (hx : x.toModel.unpack = .finite .positive m e h) : toRat x = m * 2 ^ e := by
  rw [toRat, hx, exactValue_finite, factor, one_mul]

/-- A mantissa and an exponent as binary64 has them: at most 53 bits, and less than 53 only at the
least exponent. -/
structure Canonical (m : ℕ) (e : ℤ) : Prop where
  lt : m < 2 ^ 53
  exponent : -1074 ≤ e
  normal : e = -1074 ∨ 2 ^ 52 ≤ m

/-- A power of two is positive. -/
theorem two_zpow_pos (e : ℤ) : (0 : ℚ) < 2 ^ e :=
  zpow_pos two_pos e

/-- The next power of two. -/
theorem two_zpow_succ (e : ℤ) : (2 : ℚ) ^ (e + 1) = 2 * 2 ^ e := by
  rw [zpow_add_one₀ two_ne_zero, mul_comm]

/-- A greater exponent is a longer mantissa. -/
theorem mul_two_zpow_of_le {e t : ℤ} (h : t ≤ e) (m : ℕ) :
    (m : ℚ) * 2 ^ e = (m * 2 ^ (e - t).toNat : ℕ) * 2 ^ t := by
  have hexp : e = ((e - t).toNat : ℤ) + t := by omega
  conv_lhs => rw [hexp, zpow_add₀ two_ne_zero, zpow_natCast]
  push_cast
  ring

/-- A canonical number with a smaller exponent is below the normal numbers of a greater one. -/
theorem Canonical.lt_two_zpow {m : ℕ} {e t : ℤ} (h : Canonical m e) (he : e < t) :
    (m : ℚ) * 2 ^ e < 2 ^ 52 * 2 ^ t := by
  have hm : (m : ℚ) < 2 ^ 53 := by exact_mod_cast h.lt
  calc (m : ℚ) * 2 ^ e < 2 ^ 53 * 2 ^ e := mul_lt_mul_of_pos_right hm (two_zpow_pos e)
    _ = 2 ^ 52 * 2 ^ (e + 1) := by rw [two_zpow_succ]; ring
    _ ≤ 2 ^ 52 * 2 ^ t :=
      mul_le_mul_of_nonneg_left (zpow_le_zpow_right₀ one_le_two (by omega)) (by positivity)

/-! ## Rounding a mantissa -/

/-- The mantissa at the exponent `t` is that of `q`, cut off; if the round bit is set, something was
cut off. -/
structure Covers (em : ExtendedMantissa) (t : ℤ) (q : ℚ) : Prop where
  le : (em.mantissa : ℚ) * 2 ^ t ≤ q
  lt : q < (em.mantissa + 1) * 2 ^ t
  roundBit : em.roundBit = true → (em.mantissa : ℚ) * 2 ^ t < q

/-- An exact mantissa covers its number. -/
theorem covers_exact (m : ℕ) (e : ℤ) : Covers (ofMantissaAndAccuracy m .exact) e (m * 2 ^ e) := by
  refine ⟨le_rfl, ?_, nofun⟩
  exact mul_lt_mul_of_pos_right (lt_add_one _) (two_zpow_pos e)

/-- One more bit is cut off. -/
theorem Covers.shiftRightOne {em : ExtendedMantissa} {t : ℤ} {q : ℚ} (h : Covers em t q) :
    Covers em.shiftRightOne (t + 1) q := by
  have hpos := two_zpow_pos t
  have hmantissa : em.shiftRightOne.mantissa = em.mantissa / 2 := rfl
  have hbit : em.shiftRightOne.roundBit = (em.mantissa % 2 != 0) := rfl
  have hsplit : (em.mantissa : ℚ) = 2 * (em.mantissa / 2 : ℕ) + (em.mantissa % 2 : ℕ) := by
    exact_mod_cast (Nat.div_add_mod em.mantissa 2).symm
  have hle := h.le
  have hlt := h.lt
  rw [hsplit] at hle hlt
  refine ⟨?_, ?_, fun hround => ?_⟩ <;> rw [hmantissa, two_zpow_succ]
  · have hrest : (0 : ℚ) ≤ (em.mantissa % 2 : ℕ) * 2 ^ t := by positivity
    linarith
  · have hrest : ((em.mantissa % 2 : ℕ) : ℚ) ≤ 1 := by
      exact_mod_cast Nat.le_of_lt_succ (Nat.mod_lt _ two_pos)
    have hmul := mul_le_mul_of_nonneg_right hrest hpos.le
    linarith
  · have hodd : em.mantissa % 2 = 1 := by
      rw [hbit, bne_iff_ne] at hround
      omega
    rw [hodd, Nat.cast_one] at hle
    linarith

/-- Some more bits are cut off. -/
theorem Covers.shiftRight {em : ExtendedMantissa} {t : ℤ} {q : ℚ} (h : Covers em t q) (k : ℕ) :
    Covers (em >>> k) (t + k) q := by
  show Covers (k.repeat ExtendedMantissa.shiftRightOne em) (t + k) q
  induction k with
  | zero => rwa [Nat.cast_zero, add_zero]
  | succ k ih =>
    rw [Nat.cast_succ, ← add_assoc]
    exact ih.shiftRightOne

/-- Rounding adds one to a mantissa only if the round bit is set. -/
theorem roundBit_of_roundedMantissa_ne {em : ExtendedMantissa}
    (h : em.roundedMantissa ≠ em.mantissa) : em.roundBit = true := by
  rcases em with ⟨m, _ | _, _ | _⟩
  · exact absurd rfl h
  · exact absurd rfl h
  · rfl
  · rfl

/-- The rounded mantissa is not beyond a mantissa, seen from the exact one. -/
theorem Covers.roundedMantissa {em : ExtendedMantissa} {t : ℤ} {q : ℚ} (h : Covers em t q)
    (n : ℕ) : ((n : ℚ) * 2 ^ t ≤ q → n ≤ em.roundedMantissa) ∧
      (q ≤ n * 2 ^ t → em.roundedMantissa ≤ n) := by
  have hpos := two_zpow_pos t
  obtain ⟨hlow, hhigh⟩ := roundedMantissa_mem em
  refine ⟨fun hn => ?_, fun hn => ?_⟩
  · have hlt : (n : ℚ) < (em.mantissa + 1 : ℕ) := by
      refine lt_of_mul_lt_mul_right ?_ hpos.le
      push_cast
      exact lt_of_le_of_lt hn h.lt
    have hlt : n < em.mantissa + 1 := by exact_mod_cast hlt
    omega
  · by_cases heq : em.roundedMantissa = em.mantissa
    · have hle : (em.mantissa : ℚ) ≤ n := le_of_mul_le_mul_right (h.le.trans hn) hpos
      rw [heq]
      exact_mod_cast hle
    · have hround := h.roundBit (roundBit_of_roundedMantissa_ne heq)
      have hlt : (em.mantissa : ℚ) < n := lt_of_mul_lt_mul_right (hround.trans_le hn) hpos.le
      have hlt : em.mantissa < n := by exact_mod_cast hlt
      omega

/-! ## Rounding a magnitude -/

/-- No canonical number lies between `q` and `a`. -/
def Neighbour (q a : ℚ) : Prop :=
  ∀ m e, Canonical m e → ((m : ℚ) * 2 ^ e ≤ q → (m : ℚ) * 2 ^ e ≤ a) ∧
    (q ≤ m * 2 ^ e → a ≤ m * 2 ^ e)

/-- A rounded mantissa makes a neighbour, if the exact number has 53 bits or the exponent is the
least one. -/
theorem Covers.neighbour {em : ExtendedMantissa} {t : ℤ} {q : ℚ} (h : Covers em t q)
    (ht : t = -1074 ∨ 2 ^ 52 ≤ em.mantissa) : Neighbour q (em.roundedMantissa * 2 ^ t) := by
  have hpos := two_zpow_pos t
  intro m e hcanonical
  rcases le_or_gt t e with hle | hlt
  · -- The number is a multiple of the last place.
    rw [mul_two_zpow_of_le hle]
    obtain ⟨hdown, hup⟩ := h.roundedMantissa (m * 2 ^ (e - t).toNat)
    refine ⟨fun hm => ?_, fun hm => ?_⟩
    · exact mul_le_mul_of_nonneg_right (by exact_mod_cast hdown hm) hpos.le
    · exact mul_le_mul_of_nonneg_right (by exact_mod_cast hup hm) hpos.le
  · -- The number is below all numbers with as many bits as the exact one.
    have hmantissa : 2 ^ 52 ≤ em.mantissa := by
      rcases ht with rfl | ht
      · exact absurd hcanonical.exponent (not_le.2 hlt)
      · exact ht
    have hbelow := hcanonical.lt_two_zpow hlt
    have hq : (2 : ℚ) ^ 52 * 2 ^ t ≤ q :=
      le_trans (mul_le_mul_of_nonneg_right (by exact_mod_cast hmantissa) hpos.le) h.le
    have hr : (2 : ℚ) ^ 52 * 2 ^ t ≤ em.roundedMantissa * 2 ^ t :=
      mul_le_mul_of_nonneg_right (by exact_mod_cast hmantissa.trans (roundedMantissa_mem em).1)
        hpos.le
    exact ⟨fun _ => hbelow.le.trans hr, fun hm => absurd hm (not_le.2 (hbelow.trans_le hq))⟩

/-- A mantissa is shifted to at most 53 bits, and to less only at the least exponent. -/
theorem exists_shiftToTargetExponent {m : ℕ} {e : ℤ} (accuracy : Accuracy)
    (he : e ≤ -1074 ∨ 2 ^ 52 ≤ m) :
    ∃ k : ℕ, shiftToTargetExponent .binary64 m e accuracy =
      (ofMantissaAndAccuracy m accuracy >>> k, e + k) ∧ Canonical (m / 2 ^ k) (e + k) := by
  obtain ⟨target, htarget⟩ : ∃ target : ℤ, target = max ((m.log2 : ℤ) + 1 + e - 53) (-1074) :=
    ⟨_, rfl⟩
  have hle : e ≤ target := by
    rcases he with he | hm
    · omega
    · have hlog : 52 ≤ m.log2 := (Nat.le_log2 (by omega)).2 hm
      omega
  refine ⟨(target - e).toNat, ?_, ?_, by omega, ?_⟩
  · rw [htarget]
    rfl
  · have hbits : m < 2 ^ (53 + (target - e).toNat) :=
      Nat.lt_log2_self.trans_le (Nat.pow_le_pow_right two_pos (by omega))
    rw [Nat.div_lt_iff_lt_mul (Nat.two_pow_pos _), ← Nat.pow_add]
    exact hbits
  · by_cases hmin : target = -1074
    · exact .inl (by omega)
    · have hlog : m.log2 = 52 + (target - e).toNat := by omega
      have hm : m ≠ 0 := by
        rintro rfl
        rw [Nat.log2_zero] at hlog
        omega
      rw [Nat.le_div_iff_mul_le (Nat.two_pow_pos _), ← Nat.pow_add, ← hlog]
      exact .inr (Nat.log2_self_le hm)

/-- The second shift loses nothing: it only takes the next power of two back to 53 bits. -/
theorem mul_two_zpow_of_canonical {r k : ℕ} {t : ℤ} (hr : r ≤ 2 ^ 53) (ht : -1074 ≤ t)
    (h : Canonical (r / 2 ^ k) (t + k)) :
    ((r / 2 ^ k : ℕ) : ℚ) * 2 ^ (t + k) = r * 2 ^ t := by
  rcases k with _ | k
  · rw [Nat.pow_zero, Nat.div_one, Nat.cast_zero, add_zero]
  · have hlow : 2 ^ 52 ≤ r / 2 ^ (k + 1) := by
      have hnormal := h.normal
      omega
    rw [Nat.le_div_iff_mul_le (Nat.two_pow_pos _), ← Nat.pow_add] at hlow
    have hk : 52 + (k + 1) ≤ 53 := (Nat.pow_le_pow_iff_right one_lt_two).1 (hlow.trans hr)
    obtain rfl : k = 0 := by omega
    obtain rfl : r = 2 ^ 53 := le_antisymm hr hlow
    show ((2 ^ 53 / 2 ^ 1 : ℕ) : ℚ) * 2 ^ (t + 1) = _
    rw [two_zpow_succ]
    norm_num
    ring

/-- Before it is packed, a result is the value of a rounded mantissa. -/
theorem exists_roundedMantissa (sign : Sign) {m : ℕ} {e : ℤ} (accuracy : Accuracy)
    (he : e ≤ -1074 ∨ 2 ^ 52 ≤ m) :
    ∃ (k : ℕ) (em : ExtendedMantissa), em = ofMantissaAndAccuracy m accuracy >>> k ∧
      (e + k = -1074 ∨ 2 ^ 52 ≤ em.mantissa) ∧
      ((em.roundedMantissa * 2 ^ (e + k) = (0 : ℚ) ∧
          roundWithAccuracy .binary64 sign m e accuracy = .zero sign) ∨
        ∃ m' e' h, roundWithAccuracy .binary64 sign m e accuracy = .finite sign m' e' h ∧
          Canonical m' e' ∧ em.roundedMantissa * 2 ^ (e + k) = (m' * 2 ^ e' : ℚ)) := by
  obtain ⟨k, hshift, hcanonical⟩ := exists_shiftToTargetExponent accuracy he
  refine ⟨k, _, rfl, ?_⟩
  generalize hem : ofMantissaAndAccuracy m accuracy >>> k = em at hshift
  have hmantissa : em.mantissa = m / 2 ^ k := by
    rw [← hem, mantissa_shiftRight, mantissa_ofMantissaAndAccuracy]
  rw [← hmantissa] at hcanonical
  refine ⟨hcanonical.normal, ?_⟩
  obtain ⟨hlow, hhigh⟩ := roundedMantissa_mem em
  have hfits : em.roundedMantissa ≤ 2 ^ 53 := hhigh.trans hcanonical.lt
  have hnormal : e + k ≤ -1074 ∨ 2 ^ 52 ≤ em.roundedMantissa :=
    hcanonical.normal.imp le_of_eq fun h => h.trans hlow
  obtain ⟨k', hshift', hcanonical'⟩ := exists_shiftToTargetExponent .exact hnormal
  have hvalue := mul_two_zpow_of_canonical hfits hcanonical.exponent hcanonical'
  have hmantissa' : (ofMantissaAndAccuracy em.roundedMantissa .exact >>> k').mantissa =
      em.roundedMantissa / 2 ^ k' := by
    rw [mantissa_shiftRight, mantissa_ofMantissaAndAccuracy]
  rw [← hvalue]
  unfold roundWithAccuracy
  rw [hshift]
  dsimp only
  rw [hshift']
  dsimp only
  by_cases hzero : em.roundedMantissa / 2 ^ k' = 0
  · rw [dif_pos (hmantissa'.trans hzero), hzero, Nat.cast_zero, zero_mul]
    exact .inl ⟨rfl, rfl⟩
  · rw [dif_neg (hmantissa' ▸ hzero)]
    exact .inr ⟨_, _, Nat.pos_of_ne_zero hzero, finite_congr hmantissa' rfl, hcanonical', rfl⟩

/-- So it is canonical and a neighbour of the exact value. -/
theorem exists_neighbour {sign : Sign} {m : ℕ} {e : ℤ} {accuracy : Accuracy} {q : ℚ}
    (hq : Covers (ofMantissaAndAccuracy m accuracy) e q) (he : e ≤ -1074 ∨ 2 ^ 52 ≤ m) :
    ∃ a, Neighbour q a ∧ ((a = 0 ∧ roundWithAccuracy .binary64 sign m e accuracy = .zero sign) ∨
      ∃ m' e' h, roundWithAccuracy .binary64 sign m e accuracy = .finite sign m' e' h ∧
        Canonical m' e' ∧ a = m' * 2 ^ e') := by
  obtain ⟨k, em, rfl, hnormal, hround⟩ := exists_roundedMantissa sign accuracy he
  exact ⟨_, (hq.shiftRight k).neighbour hnormal, hround⟩

/-! ## Packing a result -/

/-- The subnormal number with the fraction of a packed one. -/
theorem unpack_of_fraction {sign : Sign} {b : BitVec 64}
    (hsign : Sign.ofBitVec (@unpackSign .binary64 b) = sign)
    (hexponent : @unpackExponent .binary64 b = 0#11) {m : ℕ} (h : 0 < m)
    (hm : (@unpackMantissa .binary64 b).toNat = m) :
    UnpackedFloat.unpack .binary64 b = .finite sign m (-1074) h := by
  have hnot_ones : @unpackExponent .binary64 b ≠ -1#11 := by
    rw [hexponent]
    decide
  have hnot_zero : @unpackMantissa .binary64 b ≠ 0#52 := by
    intro hzero
    rw [hzero] at hm
    exact h.ne hm
  unfold UnpackedFloat.unpack
  dsimp only
  rw [hsign, if_neg hnot_ones, if_pos hexponent, dif_neg hnot_zero]
  refine finite_congr hm ?_
  rw [hexponent]
  rfl

/-- A subnormal number is not changed by packing it. -/
theorem unpack_pack_subnormal {sign : Sign} {m : ℕ} (h : 0 < m) (hm : m < 2 ^ 52) :
    (Float.Model.pack (.finite sign m (-1074) h)).unpack = .finite sign m (-1074) h := by
  have hlog : m.log2 < 52 := (Nat.log2_lt h.ne').2 hm
  have hpack : UnpackedFloat.pack .binary64 (.finite sign m (-1074) h) =
      packComponents .binary64 sign 0#11 (BitVec.ofNat 52 m) := by
    unfold UnpackedFloat.pack
    show (if 2 ^ 11 ≤ ((-1074 : ℤ) + 1023 + 52).toNat + 1 then _ else
      if m.log2 + 1 = 53 then _ else _) = _
    rw [if_neg (by omega), if_neg (by omega)]
  show UnpackedFloat.unpack .binary64 (UnpackedFloat.pack .binary64 (.finite sign m (-1074) h)) = _
  rw [hpack]
  refine unpack_of_fraction (ofBitVec_unpackSign _ _ _) unpackExponent_packComponents h ?_
  rw [unpackMantissa_packComponents]
  show (BitVec.ofNat 52 m).toNat = m
  rw [BitVec.toNat_ofNat, Nat.mod_eq_of_lt hm]

/-- A canonical number that is not too great is not changed by packing it. -/
theorem unpack_pack_canonical {sign : Sign} {m : ℕ} {e : ℤ} (h : 0 < m) (hm : Canonical m e)
    (he : e ≤ 971) : (Float.Model.pack (.finite sign m e h)).unpack = .finite sign m e h := by
  by_cases hlow : 2 ^ 52 ≤ m
  · exact unpack_pack_normal h hlow hm.lt hm.exponent he
  · obtain rfl : e = -1074 := hm.normal.resolve_right hlow
    exact unpack_pack_subnormal h (not_le.1 hlow)

/-- Zero is canonical. -/
theorem canonical_zero : Canonical 0 (-1074) :=
  ⟨by decide, le_rfl, .inl rfl⟩

/-- The parts of a finite number are canonical. -/
theorem canonical_of_parts {x : Float} {negative : Bool} {m : ℕ} {e : ℤ}
    (h : parts x = .finite negative m e) : Canonical m e ∧ e ≤ 971 := by
  have hfraction_bits : Nat.pow 2 52 = 2 ^ 52 := rfl
  have hexponent_bits : Nat.pow 2 11 = 2 ^ 11 := rfl
  unfold parts at h
  rw [hfraction_bits, hexponent_bits] at h
  dsimp only at h
  split_ifs at h with hones hzero hsub
  · cases h
    have hfraction := Nat.mod_lt x.toBits.toNat (Nat.two_pow_pos 52)
    exact ⟨⟨by omega, le_rfl, .inl rfl⟩, by decide⟩
  · cases h
    have hfraction := Nat.mod_lt x.toBits.toNat (Nat.two_pow_pos 52)
    have hbiased := Nat.mod_lt (x.toBits.toNat / 2 ^ 52) (Nat.two_pow_pos 11)
    refine ⟨⟨?_, ?_, .inr (Nat.le_add_right _ _)⟩, ?_⟩ <;> omega

/-- A finite number is a zero, or its mantissa and exponent are canonical. -/
theorem unpack_of_isFinite {x : Float} (hx : x.isFinite = true) :
    (∃ sign, x.toModel.unpack = .zero sign) ∨
      ∃ sign m e h, x.toModel.unpack = .finite sign m e h ∧ Canonical m e ∧ e ≤ 971 := by
  have hfinite : x.toModel.unpack.isFinite = true := hx
  have hparts := parts_eq x
  cases hunpack : x.toModel.unpack with
  | notANumber | infinity _ =>
    rw [hunpack] at hfinite
    cases hfinite
  | zero sign => exact .inl ⟨sign, rfl⟩
  | finite sign m e h =>
    rw [hunpack] at hparts
    exact .inr ⟨sign, m, e, h, rfl, canonical_of_parts hparts⟩

/-- A finite number is canonical, up to its sign. -/
theorem exists_toRat_eq {x : Float} (hx : x.isFinite = true) :
    ∃ sign m e, Canonical m e ∧ e ≤ 971 ∧ toRat x = factor sign * (m * 2 ^ e) := by
  unfold toRat
  obtain ⟨sign, hzero⟩ | ⟨sign, m, e, h, hunpack, hm, he⟩ := unpack_of_isFinite hx
  · refine ⟨.positive, 0, -1074, canonical_zero, by decide, ?_⟩
    rw [hzero, Nat.cast_zero, zero_mul, mul_zero]
    rfl
  · refine ⟨sign, m, e, hm, he, ?_⟩
    rw [hunpack]
    rfl

/-! ## What numbers stand for -/

/-- A power of two as a fraction. -/
theorem two_zpow_eq_div (e : ℤ) : (2 : ℚ) ^ e = 2 ^ e.toNat / 2 ^ (-e).toNat := by
  rw [eq_div_iff (pow_ne_zero _ two_ne_zero), ← zpow_natCast, ← zpow_natCast,
    ← zpow_add₀ two_ne_zero]
  congr 1
  omega

/-- The value of parts. -/
theorem value_finite (negative : Bool) (m : ℕ) (e : ℤ) :
    (Binary64.finite negative m e).value = .finite negative (m * 2 ^ e) := by
  have hpower (k : ℕ) : Nat.pow 2 k = 2 ^ k := rfl
  rw [Binary64.value, hpower, hpower, Rat.mkRat_eq_div, two_zpow_eq_div]
  push_cast
  rw [mul_div_assoc]

/-- What a finite number stands for. -/
theorem exists_value_eq {x : Float} (hx : x.isFinite = true) :
    ∃ negative, Arithmetic.value x = .finite negative |toRat x| := by
  have hvalue := value_eq x
  obtain ⟨sign, hzero⟩ | ⟨sign, m, e, h, hunpack, -⟩ := unpack_of_isFinite hx
  · rw [hzero] at hvalue
    have hparts := hvalue.trans (value_finite (isNegative sign) 0 (-1074))
    rw [Nat.cast_zero, zero_mul] at hparts
    rw [toRat, hzero, exactValue_zero, abs_zero]
    exact ⟨_, hparts⟩
  · rw [hunpack] at hvalue
    have hfactor : |factor sign| = 1 := by cases sign <;> decide +kernel
    have hnonneg : (0 : ℚ) ≤ m * 2 ^ e := mul_nonneg (Nat.cast_nonneg m) (two_zpow_pos e).le
    rw [toRat, hunpack, exactValue_finite, abs_mul, hfactor, one_mul, abs_of_nonneg hnonneg]
    exact ⟨_, hvalue.trans (value_finite (isNegative sign) m e)⟩

/-! ## Results -/

/-- The number is a result for the exact value `q`: no finite number lies between the two, and the
number is infinite only if all finite numbers lie on the same side of `q`. -/
inductive Rounded (q : ℚ) (x : Float) : Prop
  | finite : x.isFinite = true → (∀ v : Float, v.isFinite = true →
      (toRat v ≤ q → toRat v ≤ toRat x) ∧ (q ≤ toRat v → toRat x ≤ toRat v)) → Rounded q x
  | above : x.toModel.unpack = .infinity .positive →
      (∀ v : Float, v.isFinite = true → toRat v < q) → Rounded q x
  | below : x.toModel.unpack = .infinity .negative →
      (∀ v : Float, v.isFinite = true → q < toRat v) → Rounded q x

/-- A finite number is the result for its own value. -/
theorem Rounded.of_eq {x : Float} {q : ℚ} (hx : x.isFinite = true) (hq : toRat x = q) :
    Rounded q x :=
  .finite hx fun _ _ => hq ▸ ⟨id, id⟩

/-- With a sign, a neighbour is one as well. -/
theorem Neighbour.with_sign {q a : ℚ} (h : Neighbour q a) (hq : 0 ≤ q) (sign : Sign) {v : Float}
    (hv : v.isFinite = true) : (toRat v ≤ factor sign * q → toRat v ≤ factor sign * a) ∧
      (factor sign * q ≤ toRat v → factor sign * a ≤ toRat v) := by
  have ha : 0 ≤ a := by
    have hzero := (h 0 (-1074) canonical_zero).1
    rw [Nat.cast_zero, zero_mul] at hzero
    exact hzero hq
  obtain ⟨sign', m, e, hm, -, hvalue⟩ := exists_toRat_eq hv
  obtain ⟨hdown, hup⟩ := h m e hm
  have hnonneg : (0 : ℚ) ≤ m * 2 ^ e := mul_nonneg (Nat.cast_nonneg m) (two_zpow_pos e).le
  rw [hvalue]
  generalize (m : ℚ) * 2 ^ e = w at hdown hup hnonneg
  cases sign <;> cases sign' <;> simp only [factor, one_mul, neg_one_mul, neg_le_neg_iff]
  · exact ⟨hup, hdown⟩
  · exact ⟨fun hle => by linarith [hup (by linarith)], fun _ => by linarith⟩
  · exact ⟨fun _ => by linarith, fun hle => by linarith [hup (by linarith)]⟩
  · exact ⟨hdown, hup⟩

/-- No finite number is as great as one that overflows. -/
theorem Canonical.overflow {m : ℕ} {e : ℤ} (hm : Canonical m e) (he : 972 ≤ e) {v : Float}
    (hv : v.isFinite = true) : -((m : ℚ) * 2 ^ e) < toRat v ∧ toRat v < m * 2 ^ e := by
  obtain ⟨sign, m', e', hm', he', hvalue⟩ := exists_toRat_eq hv
  have hnormal : (2 : ℚ) ^ 52 ≤ m := by
    have hlow : 2 ^ 52 ≤ m := hm.normal.resolve_left (by omega)
    exact_mod_cast hlow
  have hbelow : (m' : ℚ) * 2 ^ e' < m * 2 ^ e :=
    (hm'.lt_two_zpow (show e' < e by omega)).trans_le
      (mul_le_mul_of_nonneg_right hnormal (two_zpow_pos e).le)
  have hnonneg : (0 : ℚ) ≤ m' * 2 ^ e' := mul_nonneg (Nat.cast_nonneg m') (two_zpow_pos e').le
  rw [hvalue]
  cases sign <;> simp only [factor, one_mul, neg_one_mul] <;> exact ⟨by linarith, by linarith⟩

/-- Packing rounds further only by overflow, so a canonical neighbour becomes a result. -/
theorem Rounded.of_pack {x : Float} {u : UnpackedFloat} {sign : Sign} {q a : ℚ}
    (hx : x.toModel.unpack = (Float.Model.pack u).unpack) (hq : 0 ≤ q) (ha : Neighbour q a)
    (hu : (a = 0 ∧ u = .zero sign) ∨
      ∃ m e h, u = .finite sign m e h ∧ Canonical m e ∧ a = m * 2 ^ e) :
    Rounded (factor sign * q) x := by
  have hfinite (h : x.toModel.unpack.isFinite = true)
      (hvalue : exactValue x.toModel.unpack = factor sign * a) : Rounded (factor sign * q) x := by
    refine .finite h fun v hv => ?_
    have hvalue : toRat x = factor sign * a := hvalue
    rw [hvalue]
    exact ha.with_sign hq sign hv
  rcases hu with ⟨rfl, rfl⟩ | ⟨m, e, h, rfl, hm, rfl⟩
  · have hzero : x.toModel.unpack = .zero sign := by
      rw [hx]
      cases sign <;> rfl
    refine hfinite (by rw [hzero]; rfl) ?_
    rw [hzero, mul_zero]
    rfl
  · by_cases he : e ≤ 971
    · rw [unpack_pack_canonical h hm he] at hx
      exact hfinite (by rw [hx]; rfl) (by rw [hx]; rfl)
    · rw [unpack_pack_overflow h (by omega)] at hx
      have hover {v : Float} (hv : v.isFinite = true) := hm.overflow (by omega) hv
      cases sign with
      | positive =>
        refine .above hx fun v hv => not_le.1 fun hle => ?_
        have hup := (ha.with_sign hq .positive hv).2 hle
        simp only [factor, one_mul] at hup
        exact absurd (hover hv).2 (not_lt.2 hup)
      | negative =>
        refine .below hx fun v hv => not_le.1 fun hle => ?_
        have hdown := (ha.with_sign hq .negative hv).1 hle
        simp only [factor, neg_one_mul] at hdown
        exact absurd (hover hv).1 (not_lt.2 hdown)

/-- What is rounded and packed is a result for the exact value. -/
theorem Rounded.of_roundWithAccuracy {x : Float} {sign : Sign} {m : ℕ} {e : ℤ}
    {accuracy : Accuracy} {q : ℚ}
    (hx : x.toModel.unpack =
      (Float.Model.pack (roundWithAccuracy .binary64 sign m e accuracy)).unpack)
    (hq : Covers (ofMantissaAndAccuracy m accuracy) e q) (he : e ≤ -1074 ∨ 2 ^ 52 ≤ m) :
    Rounded (factor sign * q) x := by
  have hnonneg : 0 ≤ q :=
    le_trans (mul_nonneg (Nat.cast_nonneg _) (two_zpow_pos e).le) hq.le
  obtain ⟨a, ha, hu⟩ := exists_neighbour hq he
  exact .of_pack hx hnonneg ha hu

end ResourceMeter.Binary64
