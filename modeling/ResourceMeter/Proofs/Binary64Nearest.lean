import ResourceMeter.Proofs.Binary64Brackets

/-!
# Nearest results

`Rounded` leaves open which neighbour of the exact value a result is. The product of two numbers
that are not negative is the nearest one (`nearestTo_mul`), and this is what makes products keep an
order that is finer than the numbers: values in order have results in order (`NearestTo.mono`), so
multiplication by a number that is not negative is monotone (`mul_le_mul_right`), and so is the
conversion of counts (`ofNat_mono`).

In the other direction, a nearest number is at most half a last place away (`Nearest.half_place`),
so values more than a last place apart have different results. For the multiples `n * x` and
`(n + 1) * x` that is so up to `n + 1 = 2 ^ 52` (`ofNat_mul_lt`).

Overflow does not disturb the order: before it is packed, a result is the nearest number of a format
without a greatest exponent (`Representable`), and packing takes what is too great to infinity.
-/

namespace ResourceMeter.Binary64

open Float.Model Float.Model.UnpackedFloat
open Float.Model.UnpackedFloat.ExtendedMantissa (ofMantissaAndAccuracy shiftRightOne)

/-! ## Half places -/

/-- Half of the rank of a mantissa is the number of half places that `q` has, cut off; if the rank
is even, nothing was cut off. -/
structure Measures (em : ExtendedMantissa) (t : ℤ) (q : ℚ) : Prop where
  le : (rank em / 2 : ℕ) * 2 ^ t ≤ 2 * q
  lt : 2 * q < (rank em / 2 + 1 : ℕ) * 2 ^ t
  eq : rank em % 2 = 0 → 2 * q = (rank em / 2 : ℕ) * 2 ^ t

/-- An exact mantissa has an even rank. -/
theorem measures_exact (m : ℕ) (e : ℤ) :
    Measures (ofMantissaAndAccuracy m .exact) e (m * 2 ^ e) := by
  have hrank : rank (ofMantissaAndAccuracy m .exact) / 2 = 2 * m := by
    show (4 * m + 2 * 0 + 0) / 2 = 2 * m
    omega
  have hpos := two_zpow_pos e
  refine ⟨?_, ?_, fun _ => ?_⟩ <;> rw [hrank] <;> push_cast <;> linarith

variable {em : ExtendedMantissa} {t : ℤ} {p q a b : ℚ}

/-- One more bit is cut off. -/
theorem Measures.shiftRightOne (h : Measures em t q) : Measures em.shiftRightOne (t + 1) q := by
  have hpos := two_zpow_pos t
  have hrank := rank_shiftRightOne em
  obtain ⟨hle, hlt, heq⟩ := h
  have hhalf : rank em.shiftRightOne / 2 = rank em / 4 := by
    rw [hrank]
    split <;> omega
  have hsplit : rank em / 2 = 2 * (rank em / 4) + rank em / 2 % 2 := by omega
  have hcast : ((rank em / 2 : ℕ) : ℚ) = 2 * (rank em / 4 : ℕ) + (rank em / 2 % 2 : ℕ) := by
    exact_mod_cast hsplit
  have hbit : ((rank em / 2 % 2 : ℕ) : ℚ) ≤ 1 := by
    exact_mod_cast Nat.le_of_lt_succ (Nat.mod_lt _ two_pos)
  have hbit_le := mul_le_mul_of_nonneg_right hbit hpos.le
  have hbit_nonneg : (0 : ℚ) ≤ (rank em / 2 % 2 : ℕ) * 2 ^ t :=
    mul_nonneg (Nat.cast_nonneg _) hpos.le
  refine ⟨?_, ?_, fun heven => ?_⟩ <;> rw [hhalf, two_zpow_succ]
  · rw [hcast] at hle
    linarith
  · rw [Nat.cast_add_one, hcast] at hlt
    rw [Nat.cast_add_one]
    linarith
  · have hzero : rank em % 4 = 0 := by
      by_contra hne
      rw [hrank, if_neg hne] at heven
      omega
    have hbit_zero : rank em / 2 % 2 = 0 := by omega
    rw [hcast, hbit_zero, Nat.cast_zero, add_zero] at heq
    rw [heq (by omega)]
    ring

/-- Some more bits are cut off. -/
theorem Measures.shiftRight (h : Measures em t q) (k : ℕ) : Measures (em >>> k) (t + k) q := by
  show Measures (k.repeat ExtendedMantissa.shiftRightOne em) (t + k) q
  induction k with
  | zero => rwa [Nat.cast_zero, add_zero]
  | succ k ih =>
    rw [Nat.cast_succ, ← add_assoc]
    exact ih.shiftRightOne

/-- The mantissa is cut off. -/
theorem Measures.mantissa_le (h : Measures em t q) : em.mantissa * 2 ^ t ≤ q := by
  have hrank : 2 * em.mantissa ≤ rank em / 2 := by
    unfold rank
    omega
  have hcast : (2 * em.mantissa : ℚ) ≤ (rank em / 2 : ℕ) := by exact_mod_cast hrank
  have hmul := mul_le_mul_of_nonneg_right hcast (two_zpow_pos t).le
  linarith [h.le]

/-- Of the two half places around `q` a rounded mantissa is the whole one; from a half place itself
it may also go back. -/
theorem roundedMantissa_near_rank (em : ExtendedMantissa) :
    (rank em / 2 ≤ 2 * em.roundedMantissa ∧ 2 * em.roundedMantissa ≤ rank em / 2 + 1) ∨
      (rank em % 2 = 0 ∧ 2 * em.roundedMantissa + 1 = rank em / 2) := by
  rcases em with ⟨m, round, sticky⟩
  cases round <;> cases sticky <;>
    simp only [rank, ExtendedMantissa.roundedMantissa, ExtendedMantissa.accuracy,
      Accuracy.roundToNearestEven, Bool.toNat_true, Bool.toNat_false] <;> omega

/-- The rounded mantissa is at most half a place away. -/
theorem Measures.roundedMantissa (h : Measures em t q) :
    2 * |q - em.roundedMantissa * 2 ^ t| ≤ 2 ^ t := by
  have hpos := two_zpow_pos t
  obtain ⟨hle, hlt, heq⟩ := h
  have hbound (hlow : 2 * q - 2 ^ t ≤ 2 * (em.roundedMantissa * 2 ^ t))
      (hhigh : 2 * (em.roundedMantissa * 2 ^ t) ≤ 2 * q + 2 ^ t) :
      2 * |q - em.roundedMantissa * 2 ^ t| ≤ 2 ^ t := by
    rw [← abs_two (α := ℚ), ← abs_mul, abs_two, abs_le]
    constructor <;> linarith
  have hmul {i j : ℕ} (hij : i ≤ j) : (i : ℚ) * 2 ^ t ≤ j * 2 ^ t :=
    mul_le_mul_of_nonneg_right (by exact_mod_cast hij) hpos.le
  rcases roundedMantissa_near_rank em with ⟨hlow, hhigh⟩ | ⟨heven, hback⟩
  · have hlow := hmul hlow
    have hhigh := hmul hhigh
    push_cast at hlow hhigh hlt
    refine hbound ?_ ?_ <;> linarith
  · have heq := heq heven
    rw [← hback] at heq
    push_cast at heq
    refine hbound ?_ ?_ <;> linarith

/-! ## The nearest number -/

/-- A number of binary64, if the exponents had no upper bound. -/
def Representable (w : ℚ) : Prop :=
  ∃ m e, Canonical m e ∧ w = m * 2 ^ e

/-- Zero is representable. -/
theorem representable_zero : Representable 0 :=
  ⟨0, -1074, canonical_zero, by rw [Nat.cast_zero, zero_mul]⟩

/-- Mantissas of up to 53 bits make representable numbers. -/
theorem representable_of_lt {m : ℕ} {e : ℤ} (hm : m < 2 ^ 53) (he : -1074 ≤ e) :
    Representable (m * 2 ^ e) := by
  obtain ⟨m', e', hcanonical, -, heq⟩ := exists_canonical_eq hm he
  exact ⟨m', e', hcanonical, heq⟩

/-- A mantissa that a carry made one too great makes the least number of the next exponent. -/
theorem representable_of_le {m : ℕ} {e : ℤ} (hm : m ≤ 2 ^ 53) (he : -1074 ≤ e) :
    Representable (m * 2 ^ e) := by
  rcases hm.lt_or_eq with hlt | rfl
  · exact representable_of_lt hlt he
  · have hcarry : ((2 ^ 53 : ℕ) : ℚ) * 2 ^ e = (2 ^ 52 : ℕ) * 2 ^ (e + 1) := by
      rw [two_zpow_succ]
      push_cast
      ring
    rw [hcarry]
    exact representable_of_lt (by norm_num) (by omega)

/-- No representable number is nearer to `q`. -/
structure Nearest (q a : ℚ) : Prop where
  representable : Representable a
  le : ∀ w, Representable w → |q - a| ≤ |q - w|

/-- A rounded mantissa is nearest, if the exact one has 53 bits or the exponent is the least one. -/
theorem Measures.le_of_canonical (h : Measures em t q) (ht : t = -1074 ∨ 2 ^ 52 ≤ em.mantissa)
    {m : ℕ} {e : ℤ} (hm : Canonical m e) :
    |q - em.roundedMantissa * 2 ^ t| ≤ |q - m * 2 ^ e| := by
  have hpos := two_zpow_pos t
  have hhalf := h.roundedMantissa
  -- Other multiples of the last place are at least half a place away.
  have hmultiple (n : ℕ) : |q - em.roundedMantissa * 2 ^ t| ≤ |q - n * 2 ^ t| := by
    rcases eq_or_ne n em.roundedMantissa with rfl | hne
    · exact le_rfl
    have hgap : (1 : ℚ) ≤ |(em.roundedMantissa : ℚ) - n| := by
      have hint : (1 : ℤ) ≤ |(em.roundedMantissa : ℤ) - n| := Int.one_le_abs (by omega)
      exact_mod_cast hint
    have hdistance : (1 : ℚ) * 2 ^ t ≤ |(em.roundedMantissa : ℚ) * 2 ^ t - n * 2 ^ t| := by
      rw [← sub_mul, abs_mul, abs_of_pos hpos]
      exact mul_le_mul_of_nonneg_right hgap hpos.le
    have htriangle := abs_sub_le ((em.roundedMantissa : ℚ) * 2 ^ t) q (n * 2 ^ t)
    rw [abs_sub_comm _ q] at htriangle
    linarith
  rcases le_or_gt t e with hle | hlt
  · rw [mul_two_zpow_of_le hle]
    exact hmultiple _
  · -- The number is below the multiple with the least mantissa of 53 bits, and that below `q`.
    have hmantissa : 2 ^ 52 ≤ em.mantissa := by
      rcases ht with rfl | ht
      · exact absurd hm.exponent (not_le.2 hlt)
      · exact ht
    have hbelow := hm.lt_two_zpow hlt
    have hleast : (2 : ℚ) ^ 52 * 2 ^ t ≤ q :=
      le_trans (mul_le_mul_of_nonneg_right (by exact_mod_cast hmantissa) hpos.le) h.mantissa_le
    have hnear := hmultiple (2 ^ 52)
    rw [Nat.cast_pow, Nat.cast_ofNat] at hnear
    rw [abs_of_nonneg (sub_nonneg.2 hleast)] at hnear
    rw [abs_of_nonneg (show 0 ≤ q - m * 2 ^ e by linarith)]
    linarith

/-- Nearest numbers of values in order are in order. -/
theorem Nearest.mono (ha : Nearest p a) (hb : Nearest q b) (h : p < q) : a ≤ b := by
  by_contra hlt
  have hp := sq_le_sq.2 (ha.le b hb.representable)
  have hq := sq_le_sq.2 (hb.le a ha.representable)
  have hproduct := mul_pos (sub_pos.2 h) (sub_pos.2 (not_le.1 hlt))
  linarith

/-- A nearest number does not pass a representable one that is above the value. -/
theorem Nearest.le_of_le (ha : Nearest p a) {w : ℚ} (hw : Representable w) (h : p ≤ w) :
    a ≤ w := by
  have hnear := ha.le w hw
  rw [abs_sub_comm p w, abs_of_nonneg (sub_nonneg.2 h)] at hnear
  linarith [neg_abs_le (p - a)]

/-- A nearest number does not pass a representable one that is below the value. -/
theorem Nearest.ge_of_ge (ha : Nearest p a) {w : ℚ} (hw : Representable w) (h : w ≤ p) :
    w ≤ a := by
  have hnear := ha.le w hw
  rw [abs_of_nonneg (sub_nonneg.2 h)] at hnear
  linarith [le_abs_self (p - a)]

/-- A nearest number is at most half a last place away. -/
theorem Nearest.half_place (ha : Nearest q a) (hq : 0 ≤ q) {t : ℤ} (ht : -1074 ≤ t)
    (hlt : q < 2 ^ 53 * 2 ^ t) : 2 * |q - a| ≤ 2 ^ t := by
  have hpos := two_zpow_pos t
  -- Already the multiple of the last place next to `q` is that near.
  obtain ⟨j, hj⟩ : ∃ j : ℕ, (round (q / 2 ^ t : ℚ) : ℤ) = j := by
    refine Int.eq_ofNat_of_zero_le ?_
    rw [round_eq]
    exact Int.floor_nonneg.2 (by positivity)
  have hround : |q / 2 ^ t - j| ≤ 1 / 2 := by
    have h := abs_sub_round (q / 2 ^ t)
    rwa [hj] at h
  have hj_le : j ≤ 2 ^ 53 := by
    have hquotient : q / 2 ^ t < 2 ^ 53 := (div_lt_iff₀ hpos).2 hlt
    have hbound : (j : ℚ) < (2 ^ 53 + 1 : ℕ) := by
      push_cast
      linarith [neg_abs_le (q / 2 ^ t - j)]
    exact Nat.lt_succ_iff.1 (by exact_mod_cast hbound)
  calc 2 * |q - a| ≤ 2 * |q - j * 2 ^ t| :=
        mul_le_mul_of_nonneg_left (ha.le _ (representable_of_le hj_le ht)) zero_le_two
    _ = 2 * |q / 2 ^ t - j| * 2 ^ t := by
        rw [mul_assoc, ← abs_of_pos hpos, ← abs_mul, abs_of_pos hpos, sub_mul,
          div_mul_cancel₀ _ hpos.ne']
    _ ≤ 1 * 2 ^ t := mul_le_mul_of_nonneg_right (by linarith) hpos.le
    _ = 2 ^ t := one_mul _

/-- Values that are more than a last place apart have different nearest numbers. -/
theorem Nearest.lt_of_place_lt (ha : Nearest p a) (hb : Nearest q b) (hp : 0 ≤ p) {t : ℤ}
    (ht : -1074 ≤ t) (hgap : p + 2 ^ t < q) (hlt : q < 2 ^ 53 * 2 ^ t) : a < b := by
  have hpos := two_zpow_pos t
  have hp_near := ha.half_place hp ht (by linarith)
  have hq_near := hb.half_place (by linarith) ht hlt
  linarith [neg_abs_le (p - a), le_abs_self (q - b)]

/-- Representable values that differ are their own nearest numbers. -/
theorem Nearest.lt_of_representable (ha : Nearest p a) (hb : Nearest q b) (hp : Representable p)
    (hq : Representable q) (h : p < q) : a < b :=
  (ha.le_of_le hp le_rfl).trans_lt (h.trans_le (hb.ge_of_ge hq le_rfl))

/-! ## Packed results -/

/-- The number that a magnitude is packed to: itself, or infinity if it is too great. -/
inductive Packed (a : ℚ) (x : Float) : Prop
  | finite : x.isFinite = true → toRat x = a → Packed a x
  | infinite : x.toModel.unpack = .infinity .positive →
      (∀ v : Float, v.isFinite = true → toRat v < a) → Packed a x

/-- The number is the nearest one to `q`, or infinity if that is too great. -/
def NearestTo (q : ℚ) (x : Float) : Prop :=
  ∃ a, Nearest q a ∧ Packed a x

variable {x y c : Float}

/-- Packed numbers keep the order of the magnitudes. -/
theorem Packed.mono (hx : Packed a x) (hy : Packed b y) (h : a ≤ b) : x ≤ y := by
  cases hx with
  | finite hx hvalue =>
    cases hy with
    | finite hy hvalue' => exact (le_iff hx hy).2 (by rwa [hvalue, hvalue'])
    | infinite hy _ => exact le_of_infinite hx hy
  | infinite hx habove =>
    cases hy with
    | finite hy hvalue' => exact absurd (habove y hy) (by rw [hvalue']; exact h.not_gt)
    | infinite hy _ =>
      rw [float_le_iff, hx, hy]
      rfl

/-- What is packed is a zero or a canonical number. -/
theorem Packed.of_pack {u : UnpackedFloat}
    (hx : x.toModel.unpack = (Float.Model.pack u).unpack)
    (hu : (a = 0 ∧ u = .zero .positive) ∨
      ∃ m e h, u = .finite .positive m e h ∧ Canonical m e ∧ a = m * 2 ^ e) :
    Representable a ∧ Packed a x := by
  rcases hu with ⟨rfl, rfl⟩ | ⟨m, e, h, rfl, hm, rfl⟩
  · have hzero : x.toModel.unpack = .zero .positive := hx
    refine ⟨representable_zero, .finite (isFinite_of_unpack_eq hzero) ?_⟩
    unfold toRat
    rw [hzero, exactValue_zero]
  · refine ⟨⟨m, e, hm, rfl⟩, ?_⟩
    by_cases he : e ≤ 971
    · rw [unpack_pack_canonical h hm he] at hx
      exact .finite (isFinite_of_unpack_eq hx) (toRat_of_positive hx)
    · rw [unpack_pack_overflow h (by omega)] at hx
      exact .infinite hx fun v hv => (hm.overflow (by omega) hv).2

/-- Results for values in order are in order. -/
theorem NearestTo.mono (hx : NearestTo p x) (hy : NearestTo q y) (h : p < q) : x ≤ y := by
  obtain ⟨a, ha, hx⟩ := hx
  obtain ⟨b, hb, hy⟩ := hy
  exact hx.mono hy (ha.mono hb h)

/-- A representable value is packed as it is. -/
theorem NearestTo.packed (h : NearestTo q x) (hq : Representable q) : Packed q x := by
  obtain ⟨a, ha, hpacked⟩ := h
  rwa [le_antisymm (ha.le_of_le hq le_rfl) (ha.ge_of_ge hq le_rfl)] at hpacked

/-- Values with different nearest numbers have different results. -/
theorem NearestTo.lt_of_nearest (hx : NearestTo p x) (hy : NearestTo q y)
    (h : ∀ a b, Nearest p a → Nearest q b → a < b) (hfinite : y.isFinite = true) : x < y := by
  obtain ⟨a, ha, hx⟩ := hx
  obtain ⟨b, hb, hy⟩ := hy
  have hab := h a b ha hb
  cases hy with
  | infinite hy _ => exact absurd hfinite (not_isFinite_of_infinite hy)
  | finite hy hy_value =>
    cases hx with
    | finite hx hx_value => exact (lt_iff hx hy).2 (by rwa [hx_value, hy_value])
    | infinite _ habove => exact absurd (habove y hy) (by rw [hy_value]; exact hab.not_gt)

/-- What is rounded and packed from an exact mantissa is the nearest number. -/
theorem NearestTo.of_roundWithAccuracy {m : ℕ} {e : ℤ}
    (hx : x.toModel.unpack =
      (Float.Model.pack (roundWithAccuracy .binary64 .positive m e .exact)).unpack)
    (he : e ≤ -1074 ∨ 2 ^ 52 ≤ m) : NearestTo (m * 2 ^ e) x := by
  obtain ⟨k, em, rfl, hnormal, hround⟩ := exists_roundedMantissa .positive .exact he
  have hmeasures := (measures_exact m e).shiftRight k
  obtain ⟨hrepresentable, hpacked⟩ := Packed.of_pack hx hround
  refine ⟨_, ⟨hrepresentable, ?_⟩, hpacked⟩
  rintro w ⟨m', e', hm', rfl⟩
  exact hmeasures.le_of_canonical hnormal hm'

/-- A result for zero is the nearest number. -/
theorem Rounded.nearestTo_zero (h : Rounded 0 x) : NearestTo 0 x := by
  obtain ⟨hx, hle, hge⟩ := h.between (a := 0.0) (b := 0.0) rfl rfl le_rfl le_rfl
  refine ⟨0, ⟨representable_zero, fun w _ => ?_⟩, .finite hx (le_antisymm hge hle)⟩
  rw [sub_zero, abs_zero]
  exact abs_nonneg _

/-! ## Products -/

/-- The product of numbers that are not negative is the nearest number. -/
theorem nearestTo_mul (hx : x.isFinite = true) (hy : y.isFinite = true)
    (hx_nonneg : 0 ≤ toRat x) (hy_nonneg : 0 ≤ toRat y) :
    NearestTo (toRat x * toRat y) (x * y) := by
  have hround := rounded_mul hx hy
  rcases hx_nonneg.eq_or_lt with hzero | hx_pos
  · rw [← hzero, zero_mul] at hround ⊢
    exact hround.nearestTo_zero
  rcases hy_nonneg.eq_or_lt with hzero | hy_pos
  · rw [← hzero, mul_zero] at hround ⊢
    exact hround.nearestTo_zero
  obtain ⟨m, e, h, hux, hm⟩ := exists_unpack_eq_finite hx hx_pos
  obtain ⟨m', e', h', huy, hm'⟩ := exists_unpack_eq_finite hy hy_pos
  have hunpack := unpack_mul x y
  rw [hux, huy] at hunpack
  have hnearest := NearestTo.of_roundWithAccuracy hunpack (hm.mul_bits hm' h h')
  have hvalue : ((m * m' : ℕ) : ℚ) * 2 ^ (e + e') = toRat x * toRat y := by
    rw [toRat_of_positive hux, toRat_of_positive huy, zpow_add₀ two_ne_zero]
    push_cast
    ring
  rwa [hvalue] at hnearest

/-- Positive numbers of the same value have the same parts. -/
theorem unpack_eq_of_toRat_eq (hx : x.isFinite = true) (hy : y.isFinite = true)
    (hpos : 0 < toRat x) (h : toRat x = toRat y) : x.toModel.unpack = y.toModel.unpack := by
  have hcompare := compare_unpack hx hy
  obtain ⟨m, e, hm, hux, -⟩ := exists_unpack_eq_finite hx hpos
  obtain ⟨m', e', hm', huy, -⟩ := exists_unpack_eq_finite hy (h ▸ hpos)
  rw [h, compare_eq_iff_eq.2 rfl, hux, huy] at hcompare
  have hparts : (compare e e').then (compare m m') = .eq := Option.some.inj hcompare
  rw [Ordering.then_eq_eq, compare_eq_iff_eq, compare_eq_iff_eq] at hparts
  rw [hux, huy]
  exact finite_congr hparts.2 hparts.1

/-- Multiplication keeps the order of numbers that are not negative. -/
theorem mul_le_mul_right (hx : x.isFinite = true) (hy : y.isFinite = true)
    (hc : c.isFinite = true) (hx_nonneg : 0 ≤ toRat x) (hc_nonneg : 0 ≤ toRat c)
    (h : toRat x ≤ toRat y) : x * c ≤ y * c := by
  have hx_nearest := nearestTo_mul hx hc hx_nonneg hc_nonneg
  have hy_nearest := nearestTo_mul hy hc (hx_nonneg.trans h) hc_nonneg
  rcases (mul_le_mul_of_nonneg_right h hc_nonneg).lt_or_eq with hlt | heq
  · exact hx_nearest.mono hy_nearest hlt
  rcases eq_or_ne (toRat x * toRat c) 0 with hzero | hne
  · rw [hzero] at hx_nearest
    rw [← heq, hzero] at hy_nearest
    exact (hx_nearest.packed representable_zero).mono (hy_nearest.packed representable_zero) le_rfl
  · -- Equal products come from equal parts, and these are all that the operation reads.
    have hvalue := mul_right_cancel₀ (right_ne_zero_of_mul hne) heq
    have hparts := unpack_eq_of_toRat_eq hx hy
      (hx_nonneg.lt_of_ne (left_ne_zero_of_mul hne).symm) hvalue
    obtain ⟨a, -, hpacked⟩ := hx_nearest
    have hself : x * c ≤ x * c := hpacked.mono hpacked le_rfl
    rw [float_le_iff] at hself ⊢
    rwa [unpack_mul y, ← hparts, ← unpack_mul]

/-! ## Counts -/

/-- A greater count is no smaller number. -/
theorem ofNat_mono {l n : ℕ} (h : l ≤ n) (hn : n < 2 ^ 64) :
    toRat (Float.ofNat l) ≤ toRat (Float.ofNat n) := by
  have hl_finite := (upTo_ofNat (h.trans_lt hn)).finite
  have hn_upTo := upTo_ofNat hn
  by_contra hlt
  rw [not_le, ← lt_iff hn_upTo.finite hl_finite] at hlt
  rcases Nat.eq_zero_or_pos l with rfl | hl
  · rw [lt_iff hn_upTo.finite hl_finite] at hlt
    exact absurd hlt (not_lt.2 hn_upTo.nonneg)
  · -- What is below the lesser count is below the greater one, and so the greater one itself.
    have hself : Float.ofNat n < Float.ofNat n := by
      rw [float_lt_iff] at hlt ⊢
      exact (standsAt_ofNat hl.ne').lt_of_lt (standsAt_ofNat (by omega))
        (countPlace_le hl.ne' h) hlt
    rw [lt_iff hn_upTo.finite hn_upTo.finite] at hself
    exact absurd hself (lt_irrefl _)

/-- A count of at most 53 bits is converted as it is. -/
theorem toRat_ofNat {n : ℕ} (hn : n < 2 ^ 53) : toRat (Float.ofNat n) = n := by
  rcases Nat.eq_zero_or_pos n with rfl | hpos
  · exact Nat.cast_zero.symm
  obtain ⟨v, hv, hvalue⟩ :=
    exists_float_eq hpos hn (show (-1074 : ℤ) ≤ 0 by decide) (by decide)
  rw [zpow_zero, mul_one] at hvalue
  obtain ⟨-, hle, hge⟩ := (rounded_ofNat n).between hv hv hvalue.le hvalue.ge
  exact (le_antisymm hge hle).trans hvalue

/-- Two multiples of a number in a row have different nearest numbers, as long as the factors have
one bit less than a mantissa. -/
theorem nearest_multiple_lt {n m : ℕ} {e : ℤ} (hn : n + 1 ≤ 2 ^ 52) (he : -1074 ≤ e) (h : 0 < m)
    (ha : Nearest (n * (m * 2 ^ e)) a) (hb : Nearest ((n + 1 : ℕ) * (m * 2 ^ e)) b) : a < b := by
  have hpos := two_zpow_pos e
  have hterm : (0 : ℚ) < m * 2 ^ e := mul_pos (by exact_mod_cast h) hpos
  have hlt : (n * (m * 2 ^ e) : ℚ) < (n + 1 : ℕ) * (m * 2 ^ e) :=
    mul_lt_mul_of_pos_right (by exact_mod_cast Nat.lt_succ_self n) hterm
  -- If the multiples have `s` bits more than a mantissa, then the last place is `2 ^ s`.
  obtain ⟨s, hlow, hhigh⟩ : ∃ s, 2 ^ s ≤ m ∧ (n + 1) * m < 2 ^ 53 * 2 ^ s := by
    by_cases hfits : (n + 1) * m < 2 ^ 53
    · exact ⟨0, h, by rwa [pow_zero, mul_one]⟩
    · have hlog : 53 ≤ ((n + 1) * m).log2 := (Nat.le_log2 (by omega)).2 (not_lt.1 hfits)
      obtain ⟨s, hs⟩ : ∃ s, ((n + 1) * m).log2 = 52 + s := Nat.exists_eq_add_of_le (by omega)
      obtain ⟨hlow, hhigh⟩ := (Nat.log2_eq_iff (by omega)).1 hs
      refine ⟨s, Nat.le_of_mul_le_mul_left ?_ (Nat.two_pow_pos 52), ?_⟩
      · rw [← Nat.pow_add]
        exact hlow.trans (Nat.mul_le_mul_right m hn)
      · rwa [← Nat.pow_add, show 53 + s = 52 + s + 1 by omega]
  have hplace : (2 : ℚ) ^ (e + s) = (2 ^ s : ℕ) * 2 ^ e := by
    rw [zpow_add₀ two_ne_zero, zpow_natCast, mul_comm]
    push_cast
    rfl
  rcases hlow.eq_or_lt with rfl | hgap
  · rw [← hplace] at ha hb hlt
    exact ha.lt_of_representable hb (representable_of_lt (by omega) (by omega))
      (representable_of_lt (by omega) (by omega)) hlt
  · refine ha.lt_of_place_lt hb (mul_nonneg (Nat.cast_nonneg _) hterm.le)
      (show -1074 ≤ e + s by omega) ?_ ?_
    · rw [Nat.cast_succ, add_one_mul, hplace]
      exact add_lt_add_right (mul_lt_mul_of_pos_right (by exact_mod_cast hgap) hpos) _
    · rw [hplace, ← mul_assoc, ← mul_assoc]
      exact mul_lt_mul_of_pos_right (by exact_mod_cast hhigh) hpos

/-- The next multiple of a positive number is greater, as long as it is finite and the factors have
one bit less than a mantissa. -/
theorem ofNat_mul_lt {n : ℕ} (hn : n + 1 ≤ 2 ^ 52) (hx : x.isFinite = true) (hpos : 0 < toRat x)
    (hfinite : (Float.ofNat (n + 1) * x).isFinite = true) :
    Float.ofNat n * x < Float.ofNat (n + 1) * x := by
  obtain ⟨m, e, h, hunpack, hm⟩ := exists_unpack_eq_finite hx hpos
  have hnearest {k : ℕ} (hk : k ≤ 2 ^ 52) : NearestTo (k * (m * 2 ^ e)) (Float.ofNat k * x) := by
    have hcount := upTo_ofNat (show k < 2 ^ 64 by omega)
    have hnearest := nearestTo_mul hcount.finite hx hcount.nonneg hpos.le
    rwa [toRat_ofNat (by omega), toRat_of_positive hunpack] at hnearest
  exact (hnearest (by omega)).lt_of_nearest (hnearest hn)
    (fun _ _ ha hb => nearest_multiple_lt hn hm.exponent h ha hb) hfinite

/-- With a few more factors two multiples in a row may have the same result. -/
example : ¬ Float.ofNat (2 ^ 52 + 100663295) * 67108863.0 <
    Float.ofNat (2 ^ 52 + 100663296) * 67108863.0 := by
  decide +kernel
end ResourceMeter.Binary64
