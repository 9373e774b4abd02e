import Mathlib.Tactic.FieldSimp
import ResourceMeter.Proofs.Binary64Rounding

/-!
# Operations on binary64 numbers

The order of finite numbers is that of their values (`Binary64.lt_iff`, `Binary64.le_iff`), and
every operation on finite numbers gives a result for the exact value of the operation
(`Binary64.rounded_add` and its siblings); so does the conversion of a count
(`Binary64.rounded_ofNat`).
-/

namespace ResourceMeter.Binary64

open Float.Model Float.Model.UnpackedFloat
open Float.Model.UnpackedFloat.ExtendedMantissa (ofMantissaAndAccuracy)

/-! ## The order -/

/-- Canonical magnitudes are compared by exponent first. -/
theorem Canonical.compare_eq {m m' : ℕ} {e e' : ℤ} (hm : Canonical m e) (hm' : Canonical m' e')
    : (compare e e').then (compare m m') = compare ((m : ℚ) * 2 ^ e) (m' * 2 ^ e') := by
  have hbelow {n n' : ℕ} {t t' : ℤ} (hn : Canonical n t) (hn' : Canonical n' t') (h : t < t') :
      (n : ℚ) * 2 ^ t < n' * 2 ^ t' := by
    have hnormal : 2 ^ 52 ≤ n' := hn'.normal.resolve_left (by have := hn.exponent; omega)
    exact (hn.lt_two_zpow h).trans_le
      (mul_le_mul_of_nonneg_right (by exact_mod_cast hnormal) (two_zpow_pos t').le)
  rcases lt_trichotomy e e' with hlt | rfl | hgt
  · rw [compare_lt_iff_lt.2 hlt, compare_lt_iff_lt.2 (hbelow hm hm' hlt)]
    rfl
  · rw [compare_eq_iff_eq.2 rfl, Ordering.eq_then]
    have hpos := two_zpow_pos e
    rcases lt_trichotomy m m' with hlt | rfl | hgt
    · rw [compare_lt_iff_lt.2 hlt,
        compare_lt_iff_lt.2 (mul_lt_mul_of_pos_right (by exact_mod_cast hlt) hpos)]
    · rw [compare_eq_iff_eq.2 rfl, compare_eq_iff_eq.2 rfl]
    · rw [compare_gt_iff_gt.2 hgt,
        compare_gt_iff_gt.2 (mul_lt_mul_of_pos_right (by exact_mod_cast hgt) hpos)]
  · rw [compare_gt_iff_gt.2 hgt, compare_gt_iff_gt.2 (hbelow hm' hm hgt)]
    rfl

/-- Negation turns the order around. -/
theorem swap_compare (a b : ℚ) : (compare a b).swap = compare (-a) (-b) := by
  rcases lt_trichotomy a b with hlt | rfl | hgt
  · rw [compare_lt_iff_lt.2 hlt, compare_gt_iff_gt.2 (neg_lt_neg hlt)]
    rfl
  · rw [compare_eq_iff_eq.2 rfl, compare_eq_iff_eq.2 rfl]
    rfl
  · rw [compare_gt_iff_gt.2 hgt, compare_lt_iff_lt.2 (neg_lt_neg hgt)]
    rfl

/-- Finite numbers are compared by their values. -/
theorem compare_unpack {x y : Float} (hx : x.isFinite = true) (hy : y.isFinite = true) :
    x.toModel.unpack.compare y.toModel.unpack = some (compare (toRat x) (toRat y)) := by
  have hpos {m : ℕ} (h : 0 < m) (e : ℤ) : (0 : ℚ) < m * 2 ^ e :=
    mul_pos (by exact_mod_cast h) (two_zpow_pos e)
  unfold toRat
  obtain ⟨s, hux⟩ | ⟨s, m, e, h, hux, hm, -⟩ := unpack_of_isFinite hx <;>
    obtain ⟨s', huy⟩ | ⟨s', m', e', h', huy, hm', -⟩ := unpack_of_isFinite hy <;>
    rw [hux, huy]
  · exact congrArg some (compare_eq_iff_eq.2 rfl).symm
  · have hy := hpos h' e'
    rw [exactValue_zero, exactValue_finite]
    cases s' <;> refine congrArg some (Eq.symm ?_) <;> rw [factor]
    · exact compare_gt_iff_gt.2 (by linarith)
    · exact compare_lt_iff_lt.2 (by linarith)
  · have hx := hpos h e
    rw [exactValue_zero, exactValue_finite]
    cases s <;> refine congrArg some (Eq.symm ?_) <;> rw [factor]
    · exact compare_lt_iff_lt.2 (by linarith)
    · exact compare_gt_iff_gt.2 (by linarith)
  · have hx := hpos h e
    have hy := hpos h' e'
    have hmagnitudes := hm.compare_eq hm'
    rw [exactValue_finite, exactValue_finite]
    cases s <;> cases s' <;> refine congrArg some ?_ <;>
      simp only [factor, one_mul, neg_one_mul]
    · rw [hmagnitudes]
      exact swap_compare _ _
    · exact (compare_lt_iff_lt.2 (by linarith)).symm
    · exact (compare_gt_iff_gt.2 (by linarith)).symm
    · exact hmagnitudes

/-- The order of finite numbers is that of their values. -/
theorem lt_iff {x y : Float} (hx : x.isFinite = true) (hy : y.isFinite = true) :
    x < y ↔ toRat x < toRat y := by
  rw [float_lt_iff]
  unfold UnpackedFloat.lt
  rw [compare_unpack hx hy, beq_iff_eq, Option.some_inj, compare_lt_iff_lt]

/-- The order of finite numbers is that of their values. -/
theorem le_iff {x y : Float} (hx : x.isFinite = true) (hy : y.isFinite = true) :
    x ≤ y ↔ toRat x ≤ toRat y := by
  rw [float_le_iff]
  unfold UnpackedFloat.le
  rw [compare_unpack hx hy]
  exact Std.LawfulBCmp.isLE_iff_le

/-! ## Products and quotients -/

/-- A zero is the result for zero. -/
theorem rounded_zero {x : Float} {u : UnpackedFloat} {s : Sign}
    (hx : x.toModel.unpack = (Float.Model.pack u).unpack) (hu : u = .zero s) : Rounded 0 x := by
  have hzero : x.toModel.unpack = .zero s := by
    rw [hx, hu]
    cases s <;> rfl
  refine .of_eq (isFinite_of_unpack_eq hzero) ?_
  unfold toRat
  rw [hzero]
  rfl

/-- The sign of a product. -/
theorem factor_mul (s s' : Sign) : factor (s * s') = factor s * factor s' := by
  cases s <;> cases s'
  · show (1 : ℚ) = -1 * -1
    norm_num
  · exact (mul_one (-1 : ℚ)).symm
  · exact (one_mul (-1 : ℚ)).symm
  · exact (one_mul (1 : ℚ)).symm

/-- The product of canonical mantissas has 53 bits, or at most the least exponent. -/
theorem Canonical.mul_bits {m m' : ℕ} {e e' : ℤ} (hm : Canonical m e) (hm' : Canonical m' e')
    (h : 0 < m) (h' : 0 < m') : e + e' ≤ -1074 ∨ 2 ^ 52 ≤ m * m' := by
  rcases hm.normal with rfl | hlow
  · rcases hm'.normal with rfl | hlow'
    · exact .inl (by decide)
    · exact .inr (hlow'.trans (Nat.le_mul_of_pos_left _ h))
  · exact .inr (hlow.trans (Nat.le_mul_of_pos_right _ h'))

/-- The product of finite numbers is rounded. -/
theorem rounded_mul {x y : Float} (hx : x.isFinite = true) (hy : y.isFinite = true) :
    Rounded (toRat x * toRat y) (x * y) := by
  have hunpack := unpack_mul x y
  unfold toRat
  obtain ⟨s, hux⟩ | ⟨s, m, e, h, hux, hm, -⟩ := unpack_of_isFinite hx <;>
    obtain ⟨s', huy⟩ | ⟨s', m', e', h', huy, hm', -⟩ := unpack_of_isFinite hy <;>
    rw [hux, huy] at hunpack ⊢
  · rw [exactValue_zero, zero_mul]
    exact rounded_zero hunpack rfl
  · rw [exactValue_zero, zero_mul]
    exact rounded_zero hunpack rfl
  · rw [exactValue_zero, mul_zero]
    exact rounded_zero hunpack rfl
  · have hvalue : factor s * (m * 2 ^ e) * (factor s' * (m' * 2 ^ e')) =
        factor (s * s') * ((m * m' : ℕ) * 2 ^ (e + e')) := by
      rw [factor_mul, zpow_add₀ two_ne_zero]
      push_cast
      ring
    rw [exactValue_finite, exactValue_finite, hvalue]
    exact .of_roundWithAccuracy hunpack (covers_exact _ _) (hm.mul_bits hm' h h')

/-- A quotient of mantissas is cut off, and the rest says how. -/
theorem covers_div {n d : ℕ} (hd : 0 < d) (e : ℤ) :
    Covers (ofMantissaAndAccuracy (n / d) (accuracyOfFraction (n % d) d)) e (n / d * 2 ^ e) := by
  have hpos := two_zpow_pos e
  have hd' : (0 : ℚ) < d := by exact_mod_cast hd
  have hdiv : (n : ℚ) = d * (n / d : ℕ) + (n % d : ℕ) := by
    exact_mod_cast (Nat.div_add_mod n d).symm
  have hrest : ((n % d : ℕ) : ℚ) < d := by exact_mod_cast Nat.mod_lt n hd
  have hmantissa := mantissa_ofMantissaAndAccuracy (n / d) (accuracyOfFraction (n % d) d)
  refine ⟨?_, ?_, fun hround => ?_⟩
  · rw [hmantissa]
    refine mul_le_mul_of_nonneg_right ?_ hpos.le
    rw [le_div_iff₀ hd', hdiv]
    linarith [(Nat.cast_nonneg (n % d) : (0 : ℚ) ≤ _)]
  · rw [hmantissa]
    refine mul_lt_mul_of_pos_right ?_ hpos
    rw [div_lt_iff₀ hd', hdiv]
    linarith
  · have hne : n % d ≠ 0 := by
      intro hzero
      rw [hzero] at hround
      cases hround
    have hne' : (0 : ℚ) < (n % d : ℕ) := by exact_mod_cast Nat.pos_of_ne_zero hne
    rw [hmantissa]
    refine mul_lt_mul_of_pos_right ?_ hpos
    rw [lt_div_iff₀ hd', hdiv]
    linarith

/-- The quotient of two mantissas gets 53 bits, or the least exponent. -/
theorem exists_divCore {m m' : ℕ} (e e' : ℤ) (h : 0 < m) (h' : 0 < m') :
    ∃ k : ℕ, divCore .binary64 m e m' e' = (m * 2 ^ k / m', e - e' - k,
      accuracyOfFraction (m * 2 ^ k % m') m') ∧
      (e - e' - k ≤ -1074 ∨ 2 ^ 52 ≤ m * 2 ^ k / m') := by
  obtain ⟨target, htarget⟩ : ∃ target : ℤ, target =
      max ((m.log2 : ℤ) + 1 + e - (m'.log2 + 1 + e') - 53) (-1074) := ⟨_, rfl⟩
  refine ⟨(e - e' - min (e - e') target).toNat, ?_, ?_⟩
  · have hexponent : min (e - e') target =
        e - e' - ((e - e' - min (e - e') target).toNat : ℤ) := by omega
    unfold divCore
    dsimp only
    rw [Nat.shiftLeft_eq]
    show (_, min (e - e') (max ((m.log2 : ℤ) + 1 + e - (m'.log2 + 1 + e') - 53) (-1074)), _) = _
    rw [← htarget, ← hexponent, htarget]
    rfl
  · generalize hk : (e - e' - min (e - e') target).toNat = k
    by_cases hmin : target ≤ -1074
    · exact .inl (by omega)
    · -- The shift makes up for the bits that the divisor has.
      have hbits : 53 + m'.log2 ≤ m.log2 + k := by omega
      rw [Nat.le_div_iff_mul_le h']
      refine .inr ?_
      calc 2 ^ 52 * m' ≤ 2 ^ 52 * 2 ^ (m'.log2 + 1) :=
            Nat.mul_le_mul_left _ Nat.lt_log2_self.le
        _ = 2 ^ (53 + m'.log2) := by rw [← Nat.pow_add]; congr 1; omega
        _ ≤ 2 ^ (m.log2 + k) := Nat.pow_le_pow_right two_pos hbits
        _ = 2 ^ m.log2 * 2 ^ k := Nat.pow_add ..
        _ ≤ m * 2 ^ k := Nat.mul_le_mul_right _ (Nat.log2_self_le h.ne')

/-- The sign of a quotient. -/
theorem factor_div (s s' : Sign) : factor (s / s') = factor s / factor s' := by
  cases s <;> cases s'
  · show (1 : ℚ) = -1 / -1
    norm_num
  · exact (div_one (-1 : ℚ)).symm
  · show (-1 : ℚ) = 1 / -1
    norm_num
  · exact (div_one (1 : ℚ)).symm

/-- The quotient of finite numbers is rounded, unless the divisor is a zero. -/
theorem rounded_div {x y : Float} (hx : x.isFinite = true) (hy : y.isFinite = true)
    (hne : toRat y ≠ 0) : Rounded (toRat x / toRat y) (x / y) := by
  have hunpack := unpack_div x y
  unfold toRat at hne ⊢
  obtain ⟨s', huy⟩ | ⟨s', m', e', h', huy, -⟩ := unpack_of_isFinite hy
  · rw [huy] at hne
    exact absurd rfl hne
  obtain ⟨s, hux⟩ | ⟨s, m, e, h, hux, -⟩ := unpack_of_isFinite hx <;>
    rw [hux, huy] at hunpack ⊢
  · rw [exactValue_zero, zero_div]
    exact rounded_zero hunpack rfl
  · obtain ⟨k, hcore, hbits⟩ := exists_divCore e e' h h'
    have hround : UnpackedFloat.div .binary64 (.finite s m e h) (.finite s' m' e' h') =
        roundWithAccuracy .binary64 (s / s') (m * 2 ^ k / m') (e - e' - k)
          (accuracyOfFraction (m * 2 ^ k % m') m') := by
      unfold UnpackedFloat.div
      dsimp only
      rw [hcore]
    have hvalue : factor s * (m * 2 ^ e) / (factor s' * (m' * 2 ^ e')) =
        factor (s / s') * ((m * 2 ^ k : ℕ) / m' * 2 ^ (e - e' - k)) := by
      rw [factor_div, mul_div_mul_comm, zpow_sub₀ two_ne_zero, zpow_sub₀ two_ne_zero, zpow_natCast]
      push_cast
      field_simp
    rw [hround] at hunpack
    rw [exactValue_finite, exactValue_finite, hvalue]
    exact .of_roundWithAccuracy hunpack (covers_div h' _) hbits

/-! ## Sums and differences -/

/-- A mantissa of any length is rounded. -/
theorem Rounded.of_round {x : Float} {s : Sign} {m : ℕ} {e : ℤ} (h : 0 < m)
    (hx : x.toModel.unpack =
      (Float.Model.pack (UnpackedFloat.round .binary64 s m e)).unpack) :
    Rounded (factor s * (m * 2 ^ e)) x := by
  obtain ⟨target, htarget⟩ : ∃ target : ℤ, target = max ((m.log2 : ℤ) + 1 + e - 53) (-1074) :=
    ⟨_, rfl⟩
  have hround : UnpackedFloat.round .binary64 s m e = roundWithAccuracy .binary64 s
      (m * 2 ^ (e - target).toNat) (e - (e - target).toNat) .exact := by
    unfold UnpackedFloat.round decreaseExponent
    dsimp only
    rw [Nat.shiftLeft_eq, htarget]
    rfl
  have hbits : e - (e - target).toNat ≤ -1074 ∨ 2 ^ 52 ≤ m * 2 ^ (e - target).toNat := by
    by_cases hmin : e - (e - target).toNat ≤ -1074
    · exact .inl hmin
    · refine .inr ?_
      calc 2 ^ 52 ≤ 2 ^ (m.log2 + (e - target).toNat) :=
            Nat.pow_le_pow_right two_pos (by omega)
        _ = 2 ^ m.log2 * 2 ^ (e - target).toNat := Nat.pow_add ..
        _ ≤ m * 2 ^ (e - target).toNat := Nat.mul_le_mul_right _ (Nat.log2_self_le h.ne')
  have hvalue : (m : ℚ) * 2 ^ e =
      (m * 2 ^ (e - target).toNat : ℕ) * 2 ^ (e - ((e - target).toNat : ℤ)) := by
    have hexponent : (e - (e - ((e - target).toNat : ℤ))).toNat = (e - target).toNat := by omega
    have hshift := mul_two_zpow_of_le (show e - ((e - target).toNat : ℤ) ≤ e by omega) m
    rwa [hexponent] at hshift
  rw [hround] at hx
  rw [hvalue]
  exact .of_roundWithAccuracy hx (covers_exact _ _) hbits

/-- A signed mantissa of any length is rounded. -/
theorem Rounded.of_normalize {x : Float} {m e : ℤ} {s : Sign}
    (hx : x.toModel.unpack =
      (Float.Model.pack (UnpackedFloat.normalize .binary64 m e s)).unpack) :
    Rounded (m * 2 ^ e) x := by
  unfold UnpackedFloat.normalize at hx
  rcases lt_trichotomy m 0 with hlt | rfl | hgt
  · rw [compare_lt_iff_lt.2 hlt] at hx
    have hround := Rounded.of_round (by omega) hx
    have hm : (((-m).toNat : ℕ) : ℚ) = -m := by
      have hcast : (((-m).toNat : ℕ) : ℤ) = -m := Int.toNat_of_nonneg (by omega)
      exact_mod_cast hcast
    rw [hm, factor, neg_one_mul, neg_mul, neg_neg] at hround
    exact hround
  · rw [compare_eq_iff_eq.2 rfl] at hx
    rw [Int.cast_zero, zero_mul]
    exact rounded_zero hx rfl
  · rw [compare_gt_iff_gt.2 hgt] at hx
    have hround := Rounded.of_round (by omega) hx
    have hm : ((m.toNat : ℕ) : ℚ) = m := by
      have hcast : ((m.toNat : ℕ) : ℤ) = m := Int.toNat_of_nonneg hgt.le
      exact_mod_cast hcast
    rw [hm, factor, one_mul] at hround
    exact hround

/-- A signed mantissa, brought to a smaller exponent. -/
theorem apply_shiftLeft {t e : ℤ} (h : t ≤ e) (s : Sign) (m : ℕ) :
    ((s.apply (m <<< (e - t).toNat : ℕ) : ℤ) : ℚ) * 2 ^ t = factor s * (m * 2 ^ e) := by
  rw [mul_two_zpow_of_le h, Nat.shiftLeft_eq]
  cases s <;> simp only [Sign.apply, factor]
  · push_cast
    ring
  · push_cast
    ring

/-- A finite number that is taken over is its own result. -/
theorem rounded_of_unpack {x y : Float} {u : UnpackedFloat} (hy : y.isFinite = true)
    (hx : x.toModel.unpack = (Float.Model.pack u).unpack) (hu : u = y.toModel.unpack) :
    Rounded (toRat y) x := by
  have hunpack : x.toModel.unpack = y.toModel.unpack := by
    obtain ⟨s, hzero⟩ | ⟨s, m, e, h, hfinite, hm, he⟩ := unpack_of_isFinite hy
    · rw [hx, hu, hzero]
      cases s <;> rfl
    · rw [hx, hu, hfinite, unpack_pack_canonical h hm he]
  refine .of_eq ((isFinite_of_unpack_eq hunpack).trans hy) ?_
  unfold toRat
  rw [hunpack]

/-- The sum of finite numbers is rounded. -/
theorem rounded_add {x y : Float} (hx : x.isFinite = true) (hy : y.isFinite = true) :
    Rounded (toRat x + toRat y) (x + y) := by
  have hunpack : (x + y).toModel.unpack = (Float.Model.pack
    (UnpackedFloat.add .binary64 x.toModel.unpack y.toModel.unpack)).unpack := rfl
  obtain ⟨s, hux⟩ | ⟨s, m, e, h, hux, -⟩ := unpack_of_isFinite hx <;>
    obtain ⟨s', huy⟩ | ⟨s', m', e', h', huy, -⟩ := unpack_of_isFinite hy <;>
    rw [hux, huy] at hunpack
  · have hvalue : toRat x + toRat y = 0 := by
      unfold toRat
      rw [hux, huy, exactValue_zero, exactValue_zero, add_zero]
    rw [hvalue]
    cases s <;> cases s' <;> exact rounded_zero hunpack rfl
  · have hvalue : toRat x = 0 := by
      unfold toRat
      rw [hux, exactValue_zero]
    rw [hvalue, zero_add]
    exact rounded_of_unpack hy hunpack huy.symm
  · have hvalue : toRat y = 0 := by
      unfold toRat
      rw [huy, exactValue_zero]
    rw [hvalue, add_zero]
    exact rounded_of_unpack hx hunpack hux.symm
  · have hvalue : toRat x + toRat y = ((s.apply (m <<< (e - min e e').toNat : ℕ) +
        s'.apply (m' <<< (e' - min e e').toNat : ℕ) : ℤ) : ℚ) * 2 ^ min e e' := by
      unfold toRat
      rw [hux, huy, exactValue_finite, exactValue_finite, Int.cast_add, add_mul,
        apply_shiftLeft (min_le_left e e'), apply_shiftLeft (min_le_right e e')]
    rw [hvalue]
    exact .of_normalize hunpack

/-- The difference of finite numbers is rounded. -/
theorem rounded_sub {x y : Float} (hx : x.isFinite = true) (hy : y.isFinite = true) :
    Rounded (toRat x - toRat y) (x - y) := by
  have hunpack : (x - y).toModel.unpack = (Float.Model.pack
    (UnpackedFloat.sub .binary64 x.toModel.unpack y.toModel.unpack)).unpack := rfl
  obtain ⟨s, hux⟩ | ⟨s, m, e, h, hux, -⟩ := unpack_of_isFinite hx <;>
    obtain ⟨s', huy⟩ | ⟨s', m', e', h', huy, hm', he'⟩ := unpack_of_isFinite hy <;>
    rw [hux, huy] at hunpack
  · have hvalue : toRat x - toRat y = 0 := by
      unfold toRat
      rw [hux, huy, exactValue_zero, exactValue_zero, sub_zero]
    rw [hvalue]
    cases s <;> cases s' <;> exact rounded_zero hunpack rfl
  · -- A number is taken from zero by turning its sign around.
    have hresult : (x - y).toModel.unpack = .finite (-s') m' e' h' :=
      hunpack.trans (unpack_pack_canonical h' hm' he')
    refine .of_eq (isFinite_of_unpack_eq hresult) ?_
    unfold toRat
    rw [hux, huy, hresult, exactValue_zero, exactValue_finite, exactValue_finite, zero_sub]
    cases s'
    · exact (one_mul _).trans (by rw [factor, neg_one_mul, neg_neg])
    · exact (neg_one_mul _).trans (by rw [factor, one_mul])
  · have hvalue : toRat y = 0 := by
      unfold toRat
      rw [huy, exactValue_zero]
    rw [hvalue, sub_zero]
    exact rounded_of_unpack hx hunpack hux.symm
  · have hvalue : toRat x - toRat y = ((s.apply (m <<< (e - min e e').toNat : ℕ) -
        s'.apply (m' <<< (e' - min e e').toNat : ℕ) : ℤ) : ℚ) * 2 ^ min e e' := by
      unfold toRat
      rw [hux, huy, exactValue_finite, exactValue_finite, Int.cast_sub, sub_mul,
        apply_shiftLeft (min_le_left e e'), apply_shiftLeft (min_le_right e e')]
    rw [hvalue]
    exact .of_normalize hunpack

/-! ## Counts -/

/-- A count is rounded when it is converted. -/
theorem rounded_ofNat (n : ℕ) : Rounded n (Float.ofNat n) := by
  rcases Nat.eq_zero_or_pos n with rfl | hpos
  · exact .of_eq rfl Nat.cast_zero.symm
  rcases lt_or_ge n (2 ^ 53) with hlt | hle
  · have hlog : n.log2 < 53 := (Nat.log2_lt hpos.ne').2 hlt
    have hword := unpack_toFloat hpos.ne' hlt
    have hfinite : n.toUInt64.toFloat.isFinite = true := isFinite_of_unpack_eq hword
    have hvalue : toRat n.toUInt64.toFloat * toRat (Float.ofBits 0x3FF0000000000000) = n := by
      unfold toRat
      rw [hword, unpack_ofBits_one, exactValue_finite, exactValue_finite, factor, one_mul, one_mul]
      have hexponent : ((52 - n.log2 : ℕ) : ℤ) + (n.log2 - 52) = 0 := by omega
      have hshift : (2 : ℚ) ^ (52 - n.log2) * 2 ^ ((n.log2 : ℤ) - 52) = 1 := by
        rw [← zpow_natCast, ← zpow_add₀ two_ne_zero, hexponent, zpow_zero]
      have hone : ((2 ^ 52 : ℕ) : ℚ) * 2 ^ (-52 : ℤ) = 1 := by norm_num
      rw [hone, mul_one, Nat.cast_mul, Nat.cast_pow, Nat.cast_ofNat, mul_assoc, hshift, mul_one]
    have hone : (Float.ofBits 0x3FF0000000000000).isFinite = true := rfl
    have hround := rounded_mul hfinite hone
    rw [hvalue] at hround
    rw [ofNat_of_lt hlt]
    exact hround
  · have hround := Rounded.of_roundWithAccuracy (unpack_ofNat_of_le hle) (covers_exact _ _)
      (.inr (Nat.le_trans (Nat.pow_le_pow_right two_pos (by omega))
        (Nat.le_mul_of_pos_left _ hpos)))
    have hvalue : factor .positive * (((n * 2 ^ 53 : ℕ) : ℚ) * 2 ^ (-53 : ℤ)) = n := by
      rw [factor, one_mul, Nat.cast_mul, mul_assoc]
      norm_num
    rwa [hvalue] at hround

end ResourceMeter.Binary64
