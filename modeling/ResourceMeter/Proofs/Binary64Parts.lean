import Mathlib.Algebra.Ring.Nat
import Mathlib.Tactic.SplitIfs
import ResourceMeter.Binary64

/-!
# Two views of a binary64 number

A number text is computed from the bits of a number (`Binary64.parts`), the operations compute with
unpacked numbers. `Binary64.parts_eq` says that both views show the same sign, significand and
exponent.
-/

namespace ResourceMeter.Binary64

open Float.Model Float.Model.UnpackedFloat

/-- The sign bit says minus. -/
def isNegative : Sign → Bool
  | .negative => true
  | .positive => false

/-- The parts of a number in the form in which it is computed with. -/
def ofUnpacked : UnpackedFloat → Binary64
  | .notANumber => .notANumber
  | .infinity sign => .infinite (isNegative sign)
  | .zero sign => .finite (isNegative sign) 0 (-1074)
  | .finite sign mantissa exponent _ => .finite (isNegative sign) mantissa exponent

/-- The biased exponent of a word. -/
theorem toNat_unpackExponent (b : BitVec 64) :
    (@unpackExponent .binary64 b).toNat = b.toNat / 2 ^ 52 % 2 ^ 11 := by
  show ((b.extractLsb 62 52).cast _).toNat = _
  rw [BitVec.toNat_cast, BitVec.extractLsb_toNat, Nat.shiftRight_eq_div_pow]

/-- The fraction of a word. -/
theorem toNat_unpackMantissa (b : BitVec 64) :
    (@unpackMantissa .binary64 b).toNat = b.toNat % 2 ^ 52 := by
  show ((b.extractLsb 51 0).cast _).toNat = _
  rw [BitVec.toNat_cast, BitVec.extractLsb_toNat, Nat.shiftRight_zero]

/-- The sign of a word. -/
theorem isNegative_unpackSign (b : BitVec 64) :
    isNegative (Sign.ofBitVec (@unpackSign .binary64 b)) = (b.toNat / 2 ^ 63 == 1) := by
  have hsign : (@unpackSign .binary64 b).toNat = b.toNat / 2 ^ 63 := by
    show ((b.extractLsb 63 63).cast _).toNat = _
    rw [BitVec.toNat_cast, BitVec.extractLsb_toNat, Nat.shiftRight_eq_div_pow]
    have hb := b.isLt
    omega
  have hb : b.toNat / 2 ^ 63 < 2 := by
    have hb := b.isLt
    omega
  have hzero : @unpackSign .binary64 b = 0#1 ↔ b.toNat / 2 ^ 63 = 0 := by
    rw [← hsign, ← BitVec.toNat_inj, BitVec.toNat_ofNat]
  unfold Sign.ofBitVec
  by_cases h : b.toNat / 2 ^ 63 = 0
  · rw [if_pos (hzero.2 h), h]
    rfl
  · rw [if_neg fun h0 => h (hzero.1 h0), show b.toNat / 2 ^ 63 = 1 by omega]
    rfl

/-- Taking the bits of a number apart gives the parts that it is computed with. -/
theorem parts_eq (x : Float) : parts x = ofUnpacked x.toModel.unpack := by
  have hbits : x.toBits.toNat = x.toModel.toBits.toBitVec.toNat := rfl
  show _ = ofUnpacked (UnpackedFloat.unpack .binary64 x.toModel.toBits.toBitVec)
  generalize x.toModel.toBits.toBitVec = b at hbits
  have hexponent := toNat_unpackExponent b
  have hmantissa := toNat_unpackMantissa b
  have hones : @unpackExponent .binary64 b = -1#11 ↔ b.toNat / 2 ^ 52 % 2 ^ 11 = 2047 := by
    rw [← hexponent, ← BitVec.toNat_inj]
    exact Iff.rfl
  have hzero : @unpackExponent .binary64 b = 0#11 ↔ b.toNat / 2 ^ 52 % 2 ^ 11 = 0 := by
    rw [← hexponent, ← BitVec.toNat_inj]
    exact Iff.rfl
  have hempty : @unpackMantissa .binary64 b = 0#52 ↔ b.toNat % 2 ^ 52 = 0 := by
    rw [← hmantissa, ← BitVec.toNat_inj]
    exact Iff.rfl
  have hfraction_bits : Nat.pow 2 52 = 2 ^ 52 := rfl
  have hexponent_bits : Nat.pow 2 11 = 2 ^ 11 := rfl
  have hsign_bits : Nat.pow 2 63 = 2 ^ 63 := rfl
  unfold parts UnpackedFloat.unpack
  rw [hbits, hfraction_bits, hexponent_bits, hsign_bits]
  dsimp only
  rw [← isNegative_unpackSign]
  by_cases h1 : b.toNat / 2 ^ 52 % 2 ^ 11 = 2047
  · rw [if_pos h1, if_pos (hones.2 h1)]
    by_cases h2 : b.toNat % 2 ^ 52 = 0
    · rw [if_pos h2, if_pos (hempty.2 h2)]
      rfl
    · rw [if_neg h2, if_neg fun h => h2 (hempty.1 h)]
      rfl
  · rw [if_neg h1, if_neg fun h => h1 (hones.1 h)]
    by_cases h3 : b.toNat / 2 ^ 52 % 2 ^ 11 = 0
    · rw [if_pos h3, if_pos (hzero.2 h3)]
      by_cases h2 : b.toNat % 2 ^ 52 = 0
      · rw [dif_pos (hempty.2 h2)]
        show Binary64.finite _ (b.toNat % 2 ^ 52) _ = .finite _ 0 _
        rw [h2]
      · rw [dif_neg fun h => h2 (hempty.1 h)]
        show Binary64.finite _ (b.toNat % 2 ^ 52) _ = .finite _ _ _
        rw [hmantissa, hexponent, h3]
        rfl
    · rw [if_neg h3, if_neg fun h => h3 (hzero.1 h)]
      have himplicit : (1#1 ++ @unpackMantissa .binary64 b).toNat = 2 ^ 52 + b.toNat % 2 ^ 52 := by
        rw [BitVec.toNat_append, ← Nat.shiftLeft_add_eq_or_of_lt (BitVec.isLt _), hmantissa]
        rfl
      show Binary64.finite _ (2 ^ 52 + b.toNat % 2 ^ 52)
        ((b.toNat / 2 ^ 52 % 2 ^ 11 : Nat) - 1075) = .finite _ _ _
      rw [himplicit, hexponent]
      rfl

/-- A number stands for what the parts that it is computed with stand for. -/
theorem value_eq (x : Float) : Arithmetic.value x = (ofUnpacked x.toModel.unpack).value :=
  congrArg value (parts_eq x)

/-- Whether a number is finite is read from the parts that it is computed with. -/
theorem isFinite_of_unpack_eq {x : Float} {u : UnpackedFloat} (h : x.toModel.unpack = u) :
    x.isFinite = u.isFinite :=
  congrArg UnpackedFloat.isFinite h

/-- Infinities are not finite. -/
theorem not_isFinite_of_infinite {x : Float} {sign : Sign} (h : x.toModel.unpack = .infinity sign) :
    ¬ x.isFinite = true := by
  rw [isFinite_of_unpack_eq h]
  exact Bool.false_ne_true

/-- The two tests for finite numbers agree. -/
theorem isFinite_eq (x : Float) : Arithmetic.isFinite x = x.isFinite := by
  unfold Arithmetic.isFinite
  rw [value_eq, isFinite_of_unpack_eq rfl]
  cases x.toModel.unpack <;> rfl

/-- The parts of a finite number. -/
theorem exists_parts_eq_finite {x : Float} (h : x.isFinite = true) :
    ∃ negative significand exponent, parts x = .finite negative significand exponent := by
  have hfinite : x.toModel.unpack.isFinite = true := h
  rw [parts_eq]
  cases hx : x.toModel.unpack with
  | notANumber | infinity _ =>
    rw [hx] at hfinite
    cases hfinite
  | zero _ | finite _ _ _ _ => exact ⟨_, _, _, rfl⟩

end ResourceMeter.Binary64
