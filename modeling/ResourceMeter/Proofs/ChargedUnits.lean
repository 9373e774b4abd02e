import Mathlib.Order.Bounds.Defs
import ResourceMeter.Proofs.Binary64Nearest
import ResourceMeter.Proofs.CostRange

/-!
# Fees by the started unit

Instructions are charged by the started increment, and the bytes read, the bytes written and the
bytes of the transaction by the started KiB. `UnitCharge.fee` is one of these four fees as its
calculator gives it: a rate for each of the fewest units that cover the quantity.

So a fee depends on the started units only: within a unit it is constant, and it can only change
right after a multiple of the unit. In exact arithmetic it steps there by the rate. In binary64 it
never falls, and it steps up as long as there are at most `2 ^ 52` units; with more of them, the fee
may stay the same.
-/

namespace ResourceMeter

open Arithmetic Binary64

/-- A quantity that is charged by the started unit. -/
inductive UnitCharge where
  | instructions
  | readBytes
  | writeBytes
  | transactionSize
  deriving DecidableEq

namespace UnitCharge

/-- The quantity that a simulation consumed. -/
def count (sim : Simulation) : UnitCharge → UInt64
  | .instructions => sim.instructions
  | .readBytes => sim.resources.readBytes
  | .writeBytes => sim.resources.writeBytes
  | .transactionSize => sim.transactionSizeBytes

variable {α : Type}

/-- The size of a unit. -/
def unit (fees : FeeSchedule α) : UnitCharge → UInt64
  | .instructions => fees.instructionsPerFeeIncrement
  | .readBytes => bytesPerFeeUnit
  | .writeBytes => bytesPerFeeUnit
  | .transactionSize => bytesPerFeeUnit

/-- The fee for one unit. -/
def rate (fees : FeeSchedule α) : UnitCharge → α
  | .instructions => fees.feePerInstructionIncrement
  | .readBytes => fees.feeRead1kb
  | .writeBytes => fees.feeWrite1kb
  | .transactionSize => fees.feeTxSize1kb

/-- The number of units that a simulation starts. -/
def units (sim : Simulation) (fees : FeeSchedule α) (charge : UnitCharge) : Nat :=
  (startedUnits (charge.count sim) (charge.unit fees)).toNat

variable [Arithmetic α]

/-- The fee in the cost that the calculator of the quantity gives. -/
def fee (sim : Simulation) (snapshot : Snapshot α) : UnitCharge → Except (Fault α) α
  | .instructions => (CpuCost.of sim snapshot).map CpuCost.fee
  | .readBytes => (LedgerCost.of sim snapshot).map fun cost => cost.feeBreakdown.get .readBytes
  | .writeBytes => (LedgerCost.of sim snapshot).map fun cost => cost.feeBreakdown.get .writeBytes
  | .transactionSize =>
    (LedgerCost.of sim snapshot).map fun cost => cost.feeBreakdown.get .bandwidth

end UnitCharge

/-! ## The number of units -/

section
variable {count unit : UInt64} (hunit : unit ≠ 0)
include hunit

/-- The started units are the least number of units that covers the count. -/
theorem isLeast_startedUnits :
    IsLeast {k : ℕ | count.toNat ≤ k * unit.toNat} (startedUnits count unit).toNat :=
  ⟨(startedUnits_le_iff hunit).1 le_rfl, fun _ hk => (startedUnits_le_iff hunit).2 hk⟩

/-- One unit less does not cover a count, unless there is nothing to cover. -/
theorem startedUnits_pred_mul_lt (hcount : count ≠ 0) :
    ((startedUnits count unit).toNat - 1) * unit.toNat < count.toNat := by
  have hne : (startedUnits count unit).toNat ≠ 0 := fun hzero =>
    hcount (UInt64.toNat_inj.1 ((startedUnits_eq_zero_iff hunit).1 hzero))
  rw [← not_le, ← startedUnits_le_iff hunit]
  omega

/-- The number is computed without leaving the words. -/
theorem startedUnits_eq_sum : (startedUnits count unit).toNat =
    (count / unit).toNat + (if count % unit = 0 then 0 else 1) := by
  have hrest : count % unit = 0 ↔ count.toNat % unit.toNat = 0 := by
    rw [← UInt64.toNat_inj, UInt64.toNat_mod]
    rfl
  rw [startedUnits_toNat hunit, UInt64.toNat_div]
  simp only [hrest]

end

/-! ## The charge -/

namespace UnitCharge

section
variable {α : Type} [Arithmetic α] {charge : UnitCharge} {snapshot : Snapshot α}
  {s t : Simulation} {x y : α}

/-- Against a valid snapshot a simulation has its fees; those for bytes only if the footprint has no
conflict. -/
theorem exists_fee (h : snapshot.Valid)
    (hfootprint : charge = .instructions ∨ s.resources.footprint.conflict? = none) :
    ∃ x, charge.fee s snapshot = .ok x := by
  cases charge with
  | instructions =>
    unfold fee
    rw [CpuCost.of_valid h]
    exact ⟨_, rfl⟩
  | readBytes | writeBytes | transactionSize =>
    unfold fee
    rw [LedgerCost.of_valid h (hfootprint.resolve_left nofun)]
    exact ⟨_, rfl⟩

/-- A fee for bytes is the rate for each started KiB. -/
theorem eq_of_map_feeBreakdown {d : LedgerDimension}
    (h : (LedgerCost.of s snapshot).map (fun cost => cost.feeBreakdown.get d) = .ok x) :
    x = ofCount (d.billedUnits s) * d.rate snapshot.fees := by
  rw [LedgerCost.of_eq_afterChecks, afterChecks_map_eq_ok_iff, LedgerCost.feeBreakdown_get] at h
  exact h.2.symm

/-- A fee is the rate for each started unit, and the unit is not zero. -/
theorem eq_of_fee (h : charge.fee s snapshot = .ok x) :
    charge.unit snapshot.fees ≠ 0 ∧
      x = ofCount (charge.units s snapshot.fees) * charge.rate snapshot.fees := by
  have hbytes : bytesPerFeeUnit ≠ 0 := by decide
  cases charge with
  | instructions =>
    unfold fee at h
    rw [CpuCost.of_eq_afterChecks, afterChecks_map_eq_ok_iff, List.forall_mem_cons] at h
    exact ⟨zeroCheck_eq_none_iff.1 h.1.1, h.2.symm⟩
  | readBytes => exact ⟨hbytes, eq_of_map_feeBreakdown h⟩
  | writeBytes => exact ⟨hbytes, eq_of_map_feeBreakdown h⟩
  | transactionSize => exact ⟨hbytes, eq_of_map_feeBreakdown h⟩

/-- Within a unit the fee is constant. -/
theorem fee_eq_of_same_unit (hs : charge.fee s snapshot = .ok x)
    (ht : charge.fee t snapshot = .ok y) {k : ℕ}
    (hs_unit : InUnit (charge.count s) (charge.unit snapshot.fees) k)
    (ht_unit : InUnit (charge.count t) (charge.unit snapshot.fees) k) : x = y := by
  obtain ⟨hunit, rfl⟩ := eq_of_fee hs
  obtain ⟨-, rfl⟩ := eq_of_fee ht
  have hunits : charge.units s snapshot.fees = charge.units t snapshot.fees :=
    ((startedUnits_eq_succ_iff hunit).2 hs_unit).trans
      ((startedUnits_eq_succ_iff hunit).2 ht_unit).symm
  rw [hunits]

end

/-- In exact arithmetic one more costs nothing or, after a multiple of the unit, the rate. -/
theorem toRat_fee_succ {exp sqrt : Rat → Rat} {charge : UnitCharge}
    {snapshot : Snapshot (Exact exp sqrt)} {s t : Simulation} {x y : Exact exp sqrt}
    (hs : charge.fee s snapshot = .ok x) (ht : charge.fee t snapshot = .ok y)
    (hnext : (charge.count t).toNat = (charge.count s).toNat + 1) :
    y.toRat = x.toRat +
      if (charge.unit snapshot.fees).toNat ∣ (charge.count s).toNat
        then (charge.rate snapshot.fees).toRat else 0 := by
  obtain ⟨hunit, rfl⟩ := eq_of_fee hs
  obtain ⟨-, rfl⟩ := eq_of_fee ht
  have hunits : charge.units t snapshot.fees = charge.units s snapshot.fees + _ :=
    startedUnits_succ hunit hnext
  rw [hunits, Exact.toRat_mul, Exact.toRat_mul, Exact.toRat_ofCount, Exact.toRat_ofCount,
    Nat.cast_add, add_mul]
  split_ifs
  · rw [Nat.cast_one, one_mul]
  · rw [Nat.cast_zero, zero_mul]

/-! ## Binary64 -/

section
variable {charge : UnitCharge} {snapshot : Snapshot Float} {s t : Simulation} {x y : Float}

/-- A fee does not fall with the quantity, for a rate that is not negative. -/
theorem fee_mono (hrate : NonNegative (charge.rate snapshot.fees))
    (hs : charge.fee s snapshot = .ok x) (ht : charge.fee t snapshot = .ok y)
    (h : (charge.count s).toNat ≤ (charge.count t).toNat) : x ≤ y := by
  obtain ⟨hunit, rfl⟩ := eq_of_fee hs
  obtain ⟨-, rfl⟩ := eq_of_fee ht
  have hword (sim : Simulation) : charge.units sim snapshot.fees < 2 ^ 64 := UInt64.toNat_lt _
  have hcount (sim : Simulation) := upTo_ofNat (hword sim)
  exact mul_le_mul_right (hcount s).finite (hcount t).finite hrate.isFinite (hcount s).nonneg
    (hrate.nonNeg.nonneg hrate.isFinite) (ofNat_mono (startedUnits_mono hunit h) (hword t))

/-- One more than a multiple of the unit costs more, at a positive rate and up to `2 ^ 52` units. -/
theorem fee_lt_of_dvd (hrate : NonNegative (charge.rate snapshot.fees))
    (hpos : 0.0 < charge.rate snapshot.fees) (hs : charge.fee s snapshot = .ok x)
    (ht : charge.fee t snapshot = .ok y)
    (hnext : (charge.count t).toNat = (charge.count s).toNat + 1)
    (hdvd : (charge.unit snapshot.fees).toNat ∣ (charge.count s).toNat)
    (hle : charge.units t snapshot.fees ≤ 2 ^ 52) (hfinite : y.isFinite = true) : x < y := by
  obtain ⟨hunit, rfl⟩ := eq_of_fee hs
  obtain ⟨-, rfl⟩ := eq_of_fee ht
  have hunits : charge.units t snapshot.fees = charge.units s snapshot.fees + 1 := by
    have hsucc := startedUnits_succ hunit hnext
    rwa [if_pos hdvd] at hsucc
  rw [hunits] at hle hfinite ⊢
  rw [lt_iff rfl hrate.isFinite, toRat_zero] at hpos
  exact ofNat_mul_lt hle hrate.isFinite hpos hfinite

end

/-- Started units are charged exactly. Over all words, the number of units is the least that covers
the count, and it is computed without leaving the words. The fee is the rate for each of them, in
every arithmetic: it exists against every valid snapshot, and it is the same for two simulations
whose counts lie in the same unit, whatever else they consume. In exact arithmetic one more costs
the rate right after a multiple of the unit, and nothing elsewhere. In binary64, at a rate that is
not negative, the fee does not fall, and it rises right after a multiple, if the rate is positive,
up to `2 ^ 52` units and as long as it is finite. -/
theorem fee_by_started_unit (charge : UnitCharge) (exp sqrt : Rat → Rat) :
    (∀ count unit : UInt64, unit ≠ 0 →
      let n := (startedUnits count unit).toNat
      IsLeast {k : ℕ | count.toNat ≤ k * unit.toNat} n ∧ (n = 0 ↔ count = 0) ∧
        (count ≠ 0 → (n - 1) * unit.toNat < count.toNat) ∧
        n = (count / unit).toNat + (if count % unit = 0 then 0 else 1) ∧ n < 2 ^ 64) ∧
    (∀ (α : Type) [Arithmetic α] (snapshot : Snapshot α) (s : Simulation),
      (snapshot.Valid → charge = .instructions ∨ s.resources.footprint.conflict? = none →
        ∃ x, charge.fee s snapshot = .ok x) ∧
      ∀ x, charge.fee s snapshot = .ok x → charge.unit snapshot.fees ≠ 0 ∧
        x = ofCount (startedUnits (charge.count s) (charge.unit snapshot.fees)).toNat *
          charge.rate snapshot.fees ∧
        ∀ t y, charge.fee t snapshot = .ok y →
          ∀ k, InUnit (charge.count s) (charge.unit snapshot.fees) k →
            InUnit (charge.count t) (charge.unit snapshot.fees) k → x = y) ∧
    (∀ (snapshot : Snapshot (Exact exp sqrt)) (s t : Simulation) (x y : Exact exp sqrt),
      charge.fee s snapshot = .ok x → charge.fee t snapshot = .ok y →
      (charge.count t).toNat = (charge.count s).toNat + 1 →
      y.toRat = x.toRat +
        if (charge.unit snapshot.fees).toNat ∣ (charge.count s).toNat
          then (charge.rate snapshot.fees).toRat else 0) ∧
    (∀ (snapshot : Snapshot Float) (s t : Simulation) (x y : Float),
      charge.fee s snapshot = .ok x → charge.fee t snapshot = .ok y →
      NonNegative (charge.rate snapshot.fees) →
      ((charge.count s).toNat ≤ (charge.count t).toNat → x ≤ y) ∧
      (0.0 < charge.rate snapshot.fees →
        (charge.count t).toNat = (charge.count s).toNat + 1 →
        (charge.unit snapshot.fees).toNat ∣ (charge.count s).toNat →
        charge.units t snapshot.fees ≤ 2 ^ 52 → y.isFinite = true → x < y)) := by
  refine ⟨fun count unit hunit => ⟨isLeast_startedUnits hunit, ?_, startedUnits_pred_mul_lt hunit,
    startedUnits_eq_sum hunit, UInt64.toNat_lt _⟩, ?_, ?_, ?_⟩
  · rw [startedUnits_eq_zero_iff hunit, ← UInt64.toNat_inj]
    rfl
  · intro α _ snapshot s
    refine ⟨exists_fee, fun x hs => ?_⟩
    obtain ⟨hunit, hx⟩ := eq_of_fee hs
    exact ⟨hunit, hx, fun t y ht k => fee_eq_of_same_unit hs ht⟩
  · intro snapshot s t x y
    exact toRat_fee_succ
  · intro snapshot s t x y hs ht hrate
    exact ⟨fee_mono hrate hs ht, fun hpos => fee_lt_of_dvd hrate hpos hs ht⟩

/-- No proviso of the last part can be left out: right after a multiple of a KiB the fee for the
bytes written stays the same on the main network for somewhat more than `2 ^ 52` KiB, at a rate of
zero, and when it is infinite already. At a negative rate, which no valid snapshot has, it falls. -/
theorem fee_stays_after_multiple :
    let sim (writeBytes : UInt64) : Simulation :=
      { Simulation.zero with resources := { Simulation.zero.resources with writeBytes } }
    let snapshot (feeWrite1kb : Float) : Snapshot Float :=
      { Snapshot.mainnet with fees := { Snapshot.mainnet.fees with feeWrite1kb } }
    let Stays (snapshot : Snapshot Float) (count : UInt64) : Prop :=
      snapshot.validate = .ok () ∧ 1024 ∣ count.toNat ∧ (count + 1).toNat = count.toNat + 1 ∧
        ∃ x, writeBytes.fee (sim count) snapshot = .ok x ∧
          writeBytes.fee (sim (count + 1)) snapshot = .ok x
    Stays .mainnet 5629540795700534272 ∧ Stays (snapshot 0.0) 1024 ∧
      Stays (snapshot 1e308) 2048 ∧
      ∃ x y, writeBytes.fee (sim 1024) (snapshot (-1.0)) = .ok x ∧
        writeBytes.fee (sim 1025) (snapshot (-1.0)) = .ok y ∧ ¬ x ≤ y := by
  intro sim snapshot Stays
  refine ⟨⟨?_, ?_, ?_, _, rfl, congrArg Except.ok ?_⟩,
    ⟨?_, ?_, ?_, _, rfl, congrArg Except.ok ?_⟩,
    ⟨?_, ?_, ?_, _, rfl, congrArg Except.ok ?_⟩, _, _, rfl, rfl, ?_⟩ <;> decide +kernel

/-- Instructions on the main network, where a unit is ten thousand of them: the first unit, the
first instruction of the second one, and as many instructions as a word can hold. -/
theorem fee_by_started_unit_of_mainnet :
    let sim (instructions : UInt64) : Simulation := { Simulation.zero with instructions }
    let unit : UInt64 := 10000
    let greatest : UInt64 := 18446744073709551615
    let n := (startedUnits greatest unit).toNat
    n = 1844674407370956 ∧ IsLeast {k : ℕ | greatest.toNat ≤ k * unit.toNat} n ∧
      (∃ w x y z : Float, instructions.fee (sim 1) .mainnet = .ok w ∧
        instructions.fee (sim 10000) .mainnet = .ok x ∧
        instructions.fee (sim 10001) .mainnet = .ok y ∧
        instructions.fee (sim greatest) .mainnet = .ok z ∧ w = x ∧ x < y ∧ y ≤ z) ∧
      ∃ x y : Exact id id, instructions.fee (sim 10000) Exact.mainnet = .ok x ∧
        instructions.fee (sim 10001) Exact.mainnet = .ok y ∧ y.toRat = x.toRat + 1 / 100000 := by
  intro sim unit greatest n
  have hvalid := Snapshot.validate_eq_ok_iff.1 Snapshot.validate_mainnet
  have hvalid_exact : (Exact.mainnet : Snapshot (Exact id id)).Valid :=
    Snapshot.validate_eq_ok_iff.1 Exact.validate_mainnet
  obtain ⟨hcount, hfee, hexact, hfloat⟩ := fee_by_started_unit .instructions id id
  refine ⟨by decide, (hcount greatest unit (by decide)).1, ?_, ?_⟩
  · have hexists (count : UInt64) := (hfee Float .mainnet (sim count)).1 hvalid (.inl rfl)
    obtain ⟨w, hw⟩ := hexists 1
    obtain ⟨x, hx⟩ := hexists 10000
    obtain ⟨y, hy⟩ := hexists 10001
    obtain ⟨z, hz⟩ := hexists greatest
    obtain ⟨-, -, hconstant⟩ := (hfee Float .mainnet (sim 1)).2 w hw
    obtain ⟨-, hvalue, -⟩ := (hfee Float .mainnet (sim 10001)).2 y hy
    have hfinite : y.isFinite = true := by
      rw [hvalue]
      decide +kernel
    obtain ⟨-, hstep⟩ := hfloat _ _ _ _ _ hx hy hvalid.instructionRate
    obtain ⟨hmono, -⟩ := hfloat _ _ _ _ _ hy hz hvalid.instructionRate
    exact ⟨w, x, y, z, hw, hx, hy, hz, hconstant _ x hx 0 (by decide) (by decide),
      hstep (by decide +kernel) (by decide) (by decide) (by decide) hfinite, hmono (by decide)⟩
  · have hexists (count : UInt64) :=
      (hfee (Exact id id) Exact.mainnet (sim count)).1 hvalid_exact (.inl rfl)
    obtain ⟨x, hx⟩ := hexists 10000
    obtain ⟨y, hy⟩ := hexists 10001
    refine ⟨x, y, hx, hy, (hexact _ _ _ x y hx hy (by decide)).trans ?_⟩
    rw [if_pos (by decide)]
    norm_num [rate, Exact.mainnet]

end UnitCharge

end ResourceMeter
