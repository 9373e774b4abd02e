import ResourceMeter.Proofs.Binary64Operations

/-!
# Bounds on binary64 results

`UpTo k x` says that `x` is finite, not negative and at most `2 ^ k`. The exponents add up in
products and grow by one in sums, so a result does not overflow as long as they stay below 1024.
`NonNeg x` says only that `x` is not negative and leaves infinity open. Conversely a sum or a
product that is finite has finite operands only (`isFinite_of_add`, `isFinite_of_mul`).
-/

namespace ResourceMeter

open Arithmetic (magnitude sum)

namespace Binary64

open Float.Model Float.Model.UnpackedFloat

/-! ## Powers of two -/

/-- Every canonical number that is not too great is a finite number. -/
theorem exists_float {m : ℕ} {e : ℤ} (sign : Sign) (h : 0 < m) (hm : Canonical m e) (he : e ≤ 971) :
    ∃ v : Float, v.isFinite = true ∧ toRat v = factor sign * (m * 2 ^ e) := by
  let v : Float := .ofModel (Float.Model.pack (.finite sign m e h))
  have hv : v.toModel.unpack = .finite sign m e h := unpack_pack_canonical h hm he
  refine ⟨v, isFinite_of_unpack_eq hv, ?_⟩
  unfold toRat
  rw [hv, exactValue_finite]

/-- Powers of two are finite numbers. -/
theorem exists_two_zpow (sign : Sign) {k : ℤ} (hlow : -1022 ≤ k) (hhigh : k ≤ 1023) :
    ∃ v : Float, v.isFinite = true ∧ toRat v = factor sign * 2 ^ k := by
  have hm : Canonical (2 ^ 52) (k - 52) := ⟨by decide, by omega, .inr le_rfl⟩
  obtain ⟨v, hv, hvalue⟩ := exists_float sign (Nat.two_pow_pos 52) hm (by omega)
  refine ⟨v, hv, ?_⟩
  have hpower : ((2 ^ 52 : ℕ) : ℚ) * 2 ^ (k - 52) = 2 ^ k := by
    rw [Nat.cast_pow, Nat.cast_ofNat, ← zpow_natCast, ← zpow_add₀ two_ne_zero]
    congr 1
    omega
  rw [hvalue, hpower]

/-- Powers of two that are not too great are finite numbers. -/
theorem exists_two_pow (sign : Sign) {k : ℕ} (hk : k ≤ 1023) :
    ∃ v : Float, v.isFinite = true ∧ toRat v = factor sign * 2 ^ k := by
  obtain ⟨v, hv, hvalue⟩ := exists_two_zpow sign (show -1022 ≤ (k : ℤ) by omega) (by omega)
  rw [zpow_natCast] at hvalue
  exact ⟨v, hv, hvalue⟩

/-! ## Results between bounds -/

/-- A finite result is at least every finite number that the exact value reaches. -/
theorem Rounded.le_toRat {q : ℚ} {x a : Float} (h : Rounded q x) (hx : x.isFinite = true)
    (ha : a.isFinite = true) (hle : toRat a ≤ q) : toRat a ≤ toRat x := by
  cases h with
  | finite _ hbetween => exact (hbetween a ha).1 hle
  | above hinf _ | below hinf _ => exact absurd hx (not_isFinite_of_infinite hinf)

/-- A finite result is at most every finite number that is at least the exact value. -/
theorem Rounded.toRat_le {q : ℚ} {x b : Float} (h : Rounded q x) (hx : x.isFinite = true)
    (hb : b.isFinite = true) (hle : q ≤ toRat b) : toRat x ≤ toRat b := by
  cases h with
  | finite _ hbetween => exact (hbetween b hb).2 hle
  | above hinf _ | below hinf _ => exact absurd hx (not_isFinite_of_infinite hinf)

/-- A result lies between finite numbers that the exact value lies between. -/
theorem Rounded.between {q : ℚ} {x a b : Float} (h : Rounded q x) (ha : a.isFinite = true)
    (hb : b.isFinite = true) (hle : toRat a ≤ q) (hge : q ≤ toRat b) :
    x.isFinite = true ∧ toRat a ≤ toRat x ∧ toRat x ≤ toRat b := by
  cases h with
  | finite hx hbetween => exact ⟨hx, (hbetween a ha).1 hle, (hbetween b hb).2 hge⟩
  | above _ habove => exact absurd (habove b hb) (not_lt.2 hge)
  | below _ hbelow => exact absurd (hbelow a ha) (not_lt.2 hle)

/-- A result is finite if the exact value is not too far from zero. -/
theorem Rounded.isFinite_of_le {q : ℚ} {x : Float} (h : Rounded q x) {k : ℕ} (hk : k ≤ 1023)
    (hle : -2 ^ k ≤ q) (hge : q ≤ 2 ^ k) : x.isFinite = true := by
  obtain ⟨a, ha, hvalue_a⟩ := exists_two_pow .negative hk
  obtain ⟨b, hb, hvalue_b⟩ := exists_two_pow .positive hk
  rw [factor, neg_one_mul] at hvalue_a
  rw [factor, one_mul] at hvalue_b
  exact (h.between ha hb (hvalue_a ▸ hle) (hvalue_b ▸ hge)).1

/-- The value of zero. -/
theorem toRat_zero : toRat 0.0 = 0 := rfl

/-- The value of one. -/
theorem toRat_one : toRat 1.0 = 1 := by
  decide +kernel

/-! ## Numbers up to a power of two -/

/-- The number is finite, not negative and at most `2 ^ k`. -/
structure UpTo (k : ℕ) (x : Float) : Prop where
  finite : x.isFinite = true
  nonneg : 0 ≤ toRat x
  le : toRat x ≤ 2 ^ k

instance {k : ℕ} {x : Float} : Decidable (UpTo k x) :=
  decidable_of_iff (x.isFinite = true ∧ 0 ≤ toRat x ∧ toRat x ≤ 2 ^ k)
    ⟨fun h => ⟨h.1, h.2.1, h.2.2⟩, fun h => ⟨h.finite, h.nonneg, h.le⟩⟩

/-- A result that is rounded from a value in the range is in the range. -/
theorem UpTo.of_rounded {k : ℕ} {q : ℚ} {x : Float} (h : Rounded q x) (hk : k ≤ 1023)
    (hnonneg : 0 ≤ q) (hle : q ≤ 2 ^ k) : UpTo k x := by
  obtain ⟨b, hb, hvalue⟩ := exists_two_pow .positive hk
  rw [factor, one_mul] at hvalue
  obtain ⟨hx, hx_nonneg, hx_le⟩ := h.between (a := 0.0) rfl hb hnonneg (hvalue ▸ hle)
  exact ⟨hx, hx_nonneg, hvalue ▸ hx_le⟩

/-- A greater power of two is a bound as well. -/
theorem UpTo.mono {j k : ℕ} {x : Float} (h : UpTo j x) (hjk : j ≤ k) : UpTo k x :=
  ⟨h.finite, h.nonneg, h.le.trans (pow_le_pow_right₀ one_le_two hjk)⟩

variable {j k : ℕ} {x y : Float}

/-- Exponents are added when numbers are multiplied. -/
theorem UpTo.mul (hx : UpTo j x) (hy : UpTo k y) (hk : j + k ≤ 1023) : UpTo (j + k) (x * y) := by
  refine .of_rounded (rounded_mul hx.finite hy.finite) hk (mul_nonneg hx.nonneg hy.nonneg) ?_
  rw [pow_add]
  exact mul_le_mul hx.le hy.le hy.nonneg (pow_nonneg zero_le_two j)

/-- A sum needs one more bit than its terms. -/
theorem UpTo.add (hx : UpTo k x) (hy : UpTo k y) (hk : k + 1 ≤ 1023) : UpTo (k + 1) (x + y) := by
  refine .of_rounded (rounded_add hx.finite hy.finite) hk (add_nonneg hx.nonneg hy.nonneg) ?_
  rw [pow_succ]
  linarith [hx.le, hy.le]

/-- The difference of numbers in a range is finite. -/
theorem UpTo.isFinite_sub (hx : UpTo k x) (hy : UpTo k y) (hk : k ≤ 1023) :
    (x - y).isFinite = true :=
  (rounded_sub hx.finite hy.finite).isFinite_of_le hk
    (by linarith [hx.nonneg, hy.le]) (by linarith [hx.le, hy.nonneg])

/-- A difference that is not negative stays in the range of the greater number. -/
theorem UpTo.sub (hx : UpTo k x) (hy : y.isFinite = true) (hnonneg : 0 ≤ toRat y)
    (hle : toRat y ≤ toRat x) (hk : k ≤ 1023) : UpTo k (x - y) :=
  .of_rounded (rounded_sub hx.finite hy) hk (sub_nonneg.2 hle) (by linarith [hx.le])

/-- A quotient needs as many more bits as the divisor has places after the point. -/
theorem UpTo.div (hx : UpTo j x) (hy : y.isFinite = true) (hle : 1 ≤ 2 ^ k * toRat y)
    (hk : j + k ≤ 1023) : UpTo (j + k) (x / y) := by
  have hpos : 0 < toRat y := pos_of_mul_pos_right (zero_lt_one.trans_le hle) (by positivity)
  refine .of_rounded (rounded_div hx.finite hy hpos.ne') hk (div_nonneg hx.nonneg hpos.le) ?_
  rw [div_le_iff₀ hpos, pow_add, mul_assoc]
  calc toRat x ≤ 2 ^ j * 1 := hx.le.trans_eq (mul_one _).symm
    _ ≤ 2 ^ j * (2 ^ k * toRat y) := mul_le_mul_of_nonneg_left hle (by positivity)

/-- A sum needs at most one more bit for each of its terms. -/
theorem UpTo.sum {terms : List Float} (h : ∀ x ∈ terms, UpTo k x)
    (hk : k + terms.length ≤ 1023) : UpTo (k + terms.length) (sum terms) := by
  have hfoldl : ∀ (terms : List Float) (j : ℕ) (total : Float), (∀ x ∈ terms, UpTo k x) →
      k ≤ j → j + terms.length ≤ 1023 → UpTo j total →
      UpTo (j + terms.length) (terms.foldl (· + ·) total) := by
    intro terms
    induction terms with
    | nil => exact fun j total _ _ _ htotal => htotal
    | cons x terms ih =>
      intro j total hterms hkj hj htotal
      rw [List.length_cons] at hj ⊢
      have hx := (hterms x (List.mem_cons_self ..)).mono hkj
      have hnext := ih (j + 1) (total + x) (fun y hy => hterms y (List.mem_cons_of_mem _ hy))
        (by omega) (by omega) (htotal.add hx (by omega))
      rwa [add_assoc, add_comm 1] at hnext
  exact hfoldl terms k (-0.0) h le_rfl hk ⟨rfl, le_rfl, by positivity⟩

/-- One is one. -/
theorem upTo_one : UpTo 0 1.0 := by
  decide +kernel

/-- A count that fits into a word. -/
theorem upTo_ofNat {n : ℕ} (hn : n < 2 ^ 64) : UpTo 64 (Float.ofNat n) := by
  refine .of_rounded (rounded_ofNat n) (by decide) (Nat.cast_nonneg n) ?_
  exact_mod_cast hn.le

/-- A count that is not zero is at least one. -/
theorem one_le_toRat_ofNat {n : ℕ} (hn : n ≠ 0) (hword : n < 2 ^ 64) :
    1 ≤ toRat (Float.ofNat n) := by
  have hle : toRat 1.0 ≤ (n : ℚ) := by
    rw [toRat_one]
    exact_mod_cast Nat.one_le_iff_ne_zero.2 hn
  rw [← toRat_one]
  exact (rounded_ofNat n).le_toRat (upTo_ofNat hword).finite rfl hle

/-! ## Numbers that are not negative -/

/-- The number is not negative, and may be infinite. -/
inductive NonNeg (x : Float) : Prop
  | finite : x.isFinite = true → 0 ≤ toRat x → NonNeg x
  | infinite : x.toModel.unpack = .infinity .positive → NonNeg x

/-- A result for a value that is not negative is not negative. -/
theorem NonNeg.of_rounded {q : ℚ} (h : Rounded q x) (hq : 0 ≤ q) : NonNeg x := by
  cases h with
  | finite hx hbetween => exact .finite hx ((hbetween 0.0 rfl).1 hq)
  | above hx _ => exact .infinite hx
  | below _ hbelow => exact absurd (hbelow 0.0 rfl) (not_lt.2 hq)

/-- The value of such a number is not negative. -/
theorem NonNeg.nonneg (h : NonNeg x) (hx : x.isFinite = true) : 0 ≤ toRat x := by
  cases h with
  | finite _ hnonneg => exact hnonneg
  | infinite hinf => exact absurd hx (not_isFinite_of_infinite hinf)

/-- Such a number compares with zero. -/
theorem NonNeg.zero_le (h : NonNeg x) : 0.0 ≤ x := by
  cases h with
  | finite hx hnonneg => exact (le_iff rfl hx).2 hnonneg
  | infinite hx =>
    show decide ((0.0 : Float).toModel ≤ x.toModel) = true
    rw [decide_eq_true_iff]
    show (0.0 : Float).toModel.unpack.le x.toModel.unpack = true
    rw [hx]
    rfl

/-- A sum of two such numbers is not negative. -/
theorem NonNeg.add (hx : NonNeg x) (hy : NonNeg y) : NonNeg (x + y) := by
  have hinfinite (h : UnpackedFloat.add .binary64 x.toModel.unpack y.toModel.unpack =
      .infinity .positive) : NonNeg (x + y) := by
    refine .infinite ?_
    show (Float.Model.pack (UnpackedFloat.add .binary64 x.toModel.unpack
      y.toModel.unpack)).unpack = _
    rw [h]
    rfl
  cases hx with
  | finite hx hx_nonneg =>
    cases hy with
    | finite hy hy_nonneg => exact .of_rounded (rounded_add hx hy) (add_nonneg hx_nonneg hy_nonneg)
    | infinite hy =>
      refine hinfinite ?_
      obtain ⟨s, hux⟩ | ⟨s, m, e, h, hux, -⟩ := unpack_of_isFinite hx <;> rw [hux, hy] <;> rfl
  | infinite hx =>
    refine hinfinite ?_
    cases hy with
    | finite hy _ =>
      obtain ⟨s, huy⟩ | ⟨s, m, e, h, huy, -⟩ := unpack_of_isFinite hy <;> rw [hx, huy] <;> rfl
    | infinite hy =>
      rw [hx, hy]
      rfl

/-- A sum of any such numbers is not negative. -/
theorem NonNeg.sum {terms : List Float} (h : ∀ x ∈ terms, NonNeg x) : NonNeg (sum terms) := by
  have hfoldl : ∀ (terms : List Float) (total : Float), (∀ x ∈ terms, NonNeg x) → NonNeg total →
      NonNeg (terms.foldl (· + ·) total) := by
    intro terms
    induction terms with
    | nil => exact fun _ _ htotal => htotal
    | cons x terms ih =>
      intro total hterms htotal
      exact ih _ (fun y hy => hterms y (List.mem_cons_of_mem _ hy))
        (htotal.add (hterms x (List.mem_cons_self ..)))
  exact hfoldl terms (-0.0) h (.finite rfl le_rfl)

/-! ## What a finite result says about its operands -/

/-- Packing makes no finite number out of one that is not. -/
theorem isFinite_of_pack {u : UnpackedFloat} (h : (Float.Model.pack u).unpack.isFinite = true) :
    u.isFinite = true := by
  cases u with
  | notANumber => cases h
  | infinity sign => cases sign <;> cases h
  | zero _ | finite _ _ _ _ => rfl

/-- A finite sum has finite terms. -/
theorem isFinite_of_add (h : (x + y).isFinite = true) : x.isFinite = true ∧ y.isFinite = true := by
  have hadd : (UnpackedFloat.add .binary64 x.toModel.unpack y.toModel.unpack).isFinite = true :=
    isFinite_of_pack h
  show x.toModel.unpack.isFinite = true ∧ y.toModel.unpack.isFinite = true
  generalize x.toModel.unpack = u at hadd
  generalize y.toModel.unpack = v at hadd
  cases u with
  | notANumber => cases hadd
  | infinity sign =>
    cases v with
    | infinity sign' => cases sign <;> cases sign' <;> cases hadd
    | notANumber | zero _ | finite _ _ _ _ => cases hadd
  | zero _ | finite _ _ _ _ =>
    cases v with
    | notANumber | infinity _ => cases hadd
    | zero _ | finite _ _ _ _ => exact ⟨rfl, rfl⟩

/-- A finite product has finite factors. -/
theorem isFinite_of_mul (h : (x * y).isFinite = true) : x.isFinite = true ∧ y.isFinite = true := by
  have hmul : (UnpackedFloat.mul .binary64 x.toModel.unpack y.toModel.unpack).isFinite = true :=
    isFinite_of_pack h
  show x.toModel.unpack.isFinite = true ∧ y.toModel.unpack.isFinite = true
  generalize x.toModel.unpack = u at hmul
  generalize y.toModel.unpack = v at hmul
  cases u with
  | notANumber => cases hmul
  | infinity _ => cases v <;> cases hmul
  | zero _ | finite _ _ _ _ =>
    cases v with
    | notANumber | infinity _ => cases hmul
    | zero _ | finite _ _ _ _ => exact ⟨rfl, rfl⟩

/-- A finite sum of numbers that are not negative has finite terms, none of them above it. -/
theorem le_sum {terms : List Float} (hnonneg : ∀ x ∈ terms, NonNeg x)
    (h : (sum terms).isFinite = true) :
    ∀ x ∈ terms, x.isFinite = true ∧ toRat x ≤ toRat (sum terms) := by
  have hfoldl : ∀ (terms : List Float) (total : Float), (∀ x ∈ terms, NonNeg x) → NonNeg total →
      (terms.foldl (· + ·) total).isFinite = true →
      total.isFinite = true ∧ toRat total ≤ toRat (terms.foldl (· + ·) total) ∧
        ∀ x ∈ terms, x.isFinite = true ∧ toRat x ≤ toRat (terms.foldl (· + ·) total) := by
    intro terms
    induction terms with
    | nil => exact fun total _ _ hfinite => ⟨hfinite, le_rfl, nofun⟩
    | cons x terms ih =>
      intro total hterms htotal hfinite
      have hx := hterms x (List.mem_cons_self ..)
      obtain ⟨hsum, hsum_le, hrest⟩ := ih (total + x)
        (fun y hy => hterms y (List.mem_cons_of_mem _ hy)) (htotal.add hx) hfinite
      obtain ⟨htotal_finite, hx_finite⟩ := isFinite_of_add hsum
      have hround := rounded_add htotal_finite hx_finite
      have htotal_le := hround.le_toRat hsum htotal_finite
        (le_add_of_nonneg_right (hx.nonneg hx_finite))
      have hx_le := hround.le_toRat hsum hx_finite
        (le_add_of_nonneg_left (htotal.nonneg htotal_finite))
      refine ⟨htotal_finite, htotal_le.trans hsum_le, fun y hy => ?_⟩
      rcases List.mem_cons.1 hy with rfl | hy
      · exact ⟨hx_finite, hx_le.trans hsum_le⟩
      · exact hrest y hy
  exact (hfoldl terms (-0.0) hnonneg (.finite rfl le_rfl) h).2.2

end Binary64

end ResourceMeter
