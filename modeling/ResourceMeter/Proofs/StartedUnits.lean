import ResourceMeter.Cost.StartedUnits

/-!
# The number of started units

`startedUnits_le_iff` says that the units that a count starts are the fewest that cover it, over the
whole range of words: neither the quotient nor the added unit leaves it. So the number of units is
the same for all counts in a unit, and the next one is started right after a multiple of the unit
(`startedUnits_succ`).
-/

namespace ResourceMeter

variable {count unit : UInt64}

/-- The words do not overflow: units of more than one leave room for another one. -/
theorem startedUnits_toNat (hunit : unit ≠ 0) : (startedUnits count unit).toNat =
    count.toNat / unit.toNat + (if count.toNat % unit.toNat = 0 then 0 else 1) := by
  have hpos : 0 < unit.toNat := UInt64.pos_iff_ne_zero.2 hunit
  have hrest : count % unit = 0 ↔ count.toNat % unit.toNat = 0 := by
    rw [← UInt64.toNat_inj, UInt64.toNat_mod]
    rfl
  have hcount : count.toNat < 2 ^ 64 := count.toNat_lt
  unfold startedUnits
  rw [UInt64.toNat_add, UInt64.toNat_div]
  by_cases h : count.toNat % unit.toNat = 0
  · rw [if_pos (hrest.2 h), if_pos h]
    have hle : count.toNat / unit.toNat ≤ count.toNat := Nat.div_le_self _ _
    exact Nat.mod_eq_of_lt (Nat.lt_of_le_of_lt hle hcount)
  · rw [if_neg fun h' => h (hrest.1 h'), if_neg h]
    have hunit_gt : 1 < unit.toNat := by
      rcases Nat.lt_or_ge 1 unit.toNat with hlt | hge
      · exact hlt
      · rw [show unit.toNat = 1 by omega] at h
        exact absurd (Nat.mod_one _) h
    have hlt : count.toNat / unit.toNat < count.toNat := by
      refine Nat.div_lt_self ?_ hunit_gt
      rcases Nat.eq_zero_or_pos count.toNat with h0 | hpos
      · rw [h0, Nat.zero_mod] at h
        exact absurd rfl h
      · exact hpos
    refine Nat.mod_eq_of_lt ?_
    show count.toNat / unit.toNat + 1 < 2 ^ 64
    omega

/-- The started units are the fewest that cover the count. -/
theorem startedUnits_le_iff (hunit : unit ≠ 0) {n : Nat} :
    (startedUnits count unit).toNat ≤ n ↔ count.toNat ≤ n * unit.toNat := by
  have hpos : 0 < unit.toNat := UInt64.pos_iff_ne_zero.2 hunit
  rw [startedUnits_toNat hunit]
  by_cases h : count.toNat % unit.toNat = 0
  · rw [if_pos h, Nat.add_zero, ← Nat.mul_le_mul_right_iff hpos,
      Nat.div_mul_cancel (Nat.dvd_of_mod_eq_zero h)]
  · have hne : count.toNat ≠ n * unit.toNat := by
      intro heq
      rw [heq, Nat.mul_mod_left] at h
      exact h rfl
    rw [if_neg h, Nat.succ_le_iff, Nat.div_lt_iff_lt_mul hpos]
    exact ⟨Nat.le_of_lt, fun hle => Nat.lt_of_le_of_ne hle hne⟩

/-- The count reaches into the unit that follows `k` others, and not beyond. -/
def InUnit (count unit : UInt64) (k : Nat) : Prop :=
  k * unit.toNat < count.toNat ∧ count.toNat ≤ (k + 1) * unit.toNat

instance (k : Nat) : Decidable (InUnit count unit k) :=
  inferInstanceAs (Decidable (_ ∧ _))

/-- A count is in the unit that follows `k` others exactly if it starts `k + 1` units. -/
theorem startedUnits_eq_succ_iff (hunit : unit ≠ 0) {k : Nat} :
    (startedUnits count unit).toNat = k + 1 ↔ InUnit count unit k := by
  unfold InUnit
  rw [← Nat.not_le, ← startedUnits_le_iff hunit, ← startedUnits_le_iff hunit]
  omega

/-- Nothing starts no unit, and nothing else does. -/
theorem startedUnits_eq_zero_iff (hunit : unit ≠ 0) :
    (startedUnits count unit).toNat = 0 ↔ count.toNat = 0 := by
  rw [← Nat.le_zero, startedUnits_le_iff hunit, Nat.zero_mul, Nat.le_zero]

/-- A multiple of the unit starts that many units. -/
theorem startedUnits_of_multiple (hunit : unit ≠ 0) {k : Nat} (h : count.toNat = k * unit.toNat) :
    (startedUnits count unit).toNat = k := by
  have hpos : 0 < unit.toNat := UInt64.pos_iff_ne_zero.2 hunit
  refine Nat.le_antisymm ((startedUnits_le_iff hunit).2 (Nat.le_of_eq h)) ?_
  have hcover := (startedUnits_le_iff hunit).1 (Nat.le_refl (startedUnits count unit).toNat)
  rw [h] at hcover
  exact Nat.le_of_mul_le_mul_right hcover hpos

/-- One more starts another unit exactly after a multiple of the unit. -/
theorem startedUnits_succ (hunit : unit ≠ 0) {count' : UInt64}
    (h : count'.toNat = count.toNat + 1) : (startedUnits count' unit).toNat =
      (startedUnits count unit).toNat + (if unit.toNat ∣ count.toNat then 1 else 0) := by
  have hpos : 0 < unit.toNat := UInt64.pos_iff_ne_zero.2 hunit
  split
  · next hdvd =>
    obtain ⟨k, hk⟩ := hdvd
    rw [Nat.mul_comm] at hk
    rw [startedUnits_of_multiple hunit hk, startedUnits_eq_succ_iff hunit, InUnit, h, hk,
      Nat.succ_mul]
    omega
  · next hdvd =>
    obtain ⟨k, hk⟩ : ∃ k, (startedUnits count unit).toNat = k + 1 := by
      refine Nat.exists_eq_add_one.2 (Nat.pos_of_ne_zero fun hzero => hdvd ?_)
      rw [(startedUnits_eq_zero_iff hunit).1 hzero]
      exact Nat.dvd_zero _
    obtain ⟨hlow, hhigh⟩ := (startedUnits_eq_succ_iff hunit).1 hk
    have hne : count.toNat ≠ (k + 1) * unit.toNat := fun heq =>
      hdvd ⟨k + 1, heq.trans (Nat.mul_comm ..)⟩
    rw [hk, Nat.add_zero, startedUnits_eq_succ_iff hunit, InUnit, h]
    omega

/-- A greater count starts no fewer units. -/
theorem startedUnits_mono (hunit : unit ≠ 0) {count' : UInt64} (h : count.toNat ≤ count'.toNat) :
    (startedUnits count unit).toNat ≤ (startedUnits count' unit).toNat :=
  (startedUnits_le_iff hunit).2 (Nat.le_trans h ((startedUnits_le_iff hunit).1 (Nat.le_refl _)))

end ResourceMeter
