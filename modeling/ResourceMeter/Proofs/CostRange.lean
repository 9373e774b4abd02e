import ResourceMeter.Proofs.CostOrder
import ResourceMeter.Proofs.ScoreRange

/-!
# The range of the numbers of an analysis

Rates and scales are only known to be finite, and counts to be words, so fees may leave the range of
binary64, and nothing checks them. Everything else stays finite (`Analysis.isFinite_of_mem_shares`):
the utilizations, whose divisors are at least one, the pressure, the penalty, which is checked, and
the raw scores. No fee is negative (`Analysis.nonNeg_of_mem_fees`). The fees are finite if the cpu
total and the total fee are, and both are finite for any rates that are not astronomic.
-/

namespace ResourceMeter

open Arithmetic Binary64

/-! ## Quantities and rates -/

/-- The share that a count has of a limit. -/
theorem upTo_ofNat_div {n : ℕ} (hn : n < 2 ^ 64) {limit : UInt64} (hlimit : limit ≠ 0) :
    UpTo 64 (Float.ofNat n / Float.ofNat limit.toNat) := by
  have hlimit_pos : limit.toNat ≠ 0 := (UInt64.pos_iff_ne_zero.2 hlimit).ne'
  have hone : 1 ≤ 2 ^ 0 * toRat (Float.ofNat limit.toNat) := by
    rw [pow_zero, one_mul]
    exact one_le_toRat_ofNat hlimit_pos limit.toNat_lt
  exact (upTo_ofNat hn).div (upTo_ofNat limit.toNat_lt).finite hone (by decide)

section
variable {sim : Simulation} (hread : sim.readEntryCount < 2 ^ 64)
  (hwrite : sim.writeEntryCount < 2 ^ 64)
include hread hwrite

/-- What is consumed fits into a word. -/
theorem SafetyDimension.consumed_lt (d : SafetyDimension) : d.consumed sim < 2 ^ 64 := by
  cases d with
  | cpu | memory => exact UInt64.toNat_lt _
  | ledger d =>
    cases d with
    | readEntries => exact hread
    | writeEntries => exact hwrite
    | readBytes | writeBytes | bandwidth => exact UInt64.toNat_lt _

/-- What is charged fits into a word. -/
theorem LedgerDimension.billedUnits_lt (d : LedgerDimension) : d.billedUnits sim < 2 ^ 64 := by
  cases d with
  | readEntries => exact hread
  | writeEntries => exact hwrite
  | readBytes | writeBytes | bandwidth => exact UInt64.toNat_lt _

/-- A utilization is at most the quantity that is consumed. -/
theorem SafetyDimension.upTo_utilization [Exponential Float] {snapshot : Snapshot Float}
    (hvalid : snapshot.Valid) (d : SafetyDimension) :
    UpTo 64 (d.utilization (ResourceCosts.compute sim snapshot)) := by
  rw [utilization_compute]
  exact upTo_ofNat_div (d.consumed_lt hread hwrite) (txLimit_ne_zero hvalid d)

end

/-- What is charged for a count of units is not negative. -/
theorem nonNeg_charge {n : ℕ} (hn : n < 2 ^ 64) {rate : Float} (hrate : NonNegative rate) :
    NonNeg (Float.ofNat n * rate) := by
  have hcount := upTo_ofNat hn
  exact .of_rounded (rounded_mul hcount.finite hrate.isFinite)
    (mul_nonneg hcount.nonneg (hrate.nonNeg.nonneg hrate.isFinite))

/-- A bound on rates and scales, far above those of any network. -/
def moderate : Float :=
  1e100

/-- A moderate number has some powers of two left up to the greatest binary64 number. -/
theorem upTo_of_le_moderate {x : Float} (hx : NonNegative x) (hle : x ≤ moderate) : UpTo 333 x := by
  have hmoderate : UpTo 333 moderate := by
    decide +kernel
  rw [le_iff hx.isFinite hmoderate.finite] at hle
  exact ⟨hx.isFinite, hx.nonNeg.nonneg hx.isFinite, hle.trans hmoderate.le⟩

/-- At a moderate rate the charge is far from the greatest binary64 number. -/
theorem upTo_charge {n : ℕ} (hn : n < 2 ^ 64) {rate : Float} (hrate : NonNegative rate)
    (hle : rate ≤ moderate) : UpTo 397 (Float.ofNat n * rate) :=
  (upTo_ofNat hn).mul (upTo_of_le_moderate hrate hle) (by decide)

/-! ## Costs -/

section
variable {sim : Simulation} {snapshot : Snapshot Float}

variable (hvalid : snapshot.Valid)
include hvalid

/-- The squared utilization of the limit for one ledger. -/
theorem CpuCost.upTo_pressure : UpTo 128 (compute sim snapshot).pressure := by
  have hshare := upTo_ofNat_div (UInt64.toNat_lt sim.instructions) hvalid.ledgerInstructions
  exact hshare.mul hshare (by decide)

/-- The cpu fee is not negative. -/
theorem CpuCost.nonNeg_fee : NonNeg (compute sim snapshot).fee :=
  nonNeg_charge (UInt64.toNat_lt _) hvalid.instructionRate

/-- A finite total is not below the fee. -/
theorem CpuCost.fee_le_total (h : (compute sim snapshot).total.isFinite = true) :
    (compute sim snapshot).fee.isFinite = true ∧
      (compute sim snapshot).fee ≤ (compute sim snapshot).total := by
  let surcharge := snapshot.tuning.ledgerPressureWeight * (compute sim snapshot).pressure
  have htotal : (compute sim snapshot).total = (compute sim snapshot).fee * (1.0 + surcharge) := rfl
  obtain ⟨hfee, hfactor⟩ : (compute sim snapshot).fee.isFinite = true ∧
      (1.0 + surcharge).isFinite = true := isFinite_of_mul (htotal ▸ h)
  have hsurcharge : surcharge.isFinite = true := (isFinite_of_add hfactor).2
  have hpressure : UpTo 128 (compute sim snapshot).pressure := upTo_pressure hvalid
  have hweight := hvalid.pressureWeight
  have hsurcharge_nonneg : 0 ≤ toRat surcharge :=
    (NonNeg.of_rounded (rounded_mul hweight.isFinite hpressure.finite)
      (mul_nonneg (hweight.nonNeg.nonneg hweight.isFinite) hpressure.nonneg)).nonneg hsurcharge
  have hfactor_one : toRat 1.0 ≤ toRat (1.0 + surcharge) :=
    (rounded_add rfl hsurcharge).le_toRat hfactor rfl (le_add_of_nonneg_right hsurcharge_nonneg)
  rw [toRat_one] at hfactor_one
  refine ⟨hfee, (le_iff hfee h).2 ?_⟩
  rw [htotal] at h ⊢
  exact (rounded_mul hfee hfactor).le_toRat h hfee
    (le_mul_of_one_le_right ((nonNeg_fee hvalid).nonneg hfee) hfactor_one)

/-- A moderate rate and a moderate pressure weight have a finite total. -/
theorem CpuCost.isFinite_total (hrate : snapshot.fees.feePerInstructionIncrement ≤ moderate)
    (hweight : snapshot.tuning.ledgerPressureWeight ≤ moderate) :
    UpTo 397 (compute sim snapshot).fee ∧ (compute sim snapshot).total.isFinite = true := by
  have hfee : UpTo 397 (compute sim snapshot).fee :=
    upTo_charge (UInt64.toNat_lt _) hvalid.instructionRate hrate
  have hsurcharge : UpTo 461
      (snapshot.tuning.ledgerPressureWeight * (compute sim snapshot).pressure) :=
    (upTo_of_le_moderate hvalid.pressureWeight hweight).mul (upTo_pressure hvalid) (by decide)
  have hfactor := (upTo_one.mono (Nat.zero_le 461)).add hsurcharge (by decide)
  exact ⟨hfee, (hfee.mul hfactor (by decide)).finite⟩

variable (hread : sim.readEntryCount < 2 ^ 64) (hwrite : sim.writeEntryCount < 2 ^ 64)
include hread hwrite

/-- The weighted sum of the utilizations. -/
theorem LedgerCost.upTo_normalized : UpTo 70 (compute sim snapshot).normalized := by
  let term (d : LedgerDimension) :=
    snapshot.tuning.ledgerWeights.weight d * (compute sim snapshot).breakdown.get d
  have hterms : ∀ x ∈ LedgerDimension.all.map term, UpTo 65 x := by
    intro x hx
    obtain ⟨d, -, rfl⟩ := List.mem_map.1 hx
    exact (snapshot.tuning.ledgerWeights.upTo d).mul
      (SafetyDimension.upTo_utilization hread hwrite hvalid (.ledger d)) (by decide)
  exact UpTo.sum hterms (show 65 + 5 ≤ 1023 by decide)

/-- No ledger fee is negative. -/
theorem LedgerCost.nonNeg_fees :
    ∀ fee ∈ (compute sim snapshot).feeBreakdown.toList, NonNeg fee := by
  intro fee hfee
  obtain ⟨d, -, rfl⟩ := List.mem_map.1 hfee
  rw [feeBreakdown_get]
  exact nonNeg_charge (d.billedUnits_lt hread hwrite) (hvalid.rate d)

/-- Moderate rates have moderate ledger fees. -/
theorem LedgerCost.upTo_fee (hrates : ∀ d : LedgerDimension, d.rate snapshot.fees ≤ moderate) :
    UpTo 402 (compute sim snapshot).fee := by
  have hterms : ∀ x ∈ (compute sim snapshot).feeBreakdown.toList, UpTo 397 x := by
    intro x hx
    obtain ⟨d, -, rfl⟩ := List.mem_map.1 hx
    rw [feeBreakdown_get]
    exact upTo_charge (d.billedUnits_lt hread hwrite) (hvalid.rate d) (hrates d)
  exact UpTo.sum hterms (show 397 + 5 ≤ 1023 by decide)

end

/-! ## Analyses -/

namespace Analysis

/-- The numbers of an analysis that no rate enters. -/
def shares (analysis : Analysis Float) : List Float :=
  let costs := analysis.costs
  [costs.cpu.normalized, costs.cpu.pressure, costs.memory.normalized, costs.memory.cost,
    costs.ledger.normalized] ++ costs.ledger.breakdown.toList ++
    [analysis.rawScores.cpu, analysis.rawScores.memory, analysis.rawScores.ledger]

/-- The fees of an analysis, without the surcharge for ledger pressure. -/
def fees (analysis : Analysis Float) : List Float :=
  [analysis.costs.cpu.fee, analysis.costs.ledger.fee, analysis.totalFee] ++
    analysis.costs.ledger.feeBreakdown.toList

/-- All binary64 numbers of an analysis, the total fee included. -/
def numbers (analysis : Analysis Float) : List Float :=
  analysis.shares ++ analysis.fees ++ [analysis.costs.cpu.total]

section
variable [Exponential Float] {sim : Simulation} {snapshot : Snapshot Float} {timestamp : Timestamp}

/-- An analysis that succeeds has a finite penalty. -/
theorem isFinite_penalty {analysis : Analysis Float}
    (h : of sim snapshot timestamp = .ok analysis) :
    (MemoryCost.compute sim snapshot).cost.isFinite = true := by
  have hcheck : penaltyCheck sim snapshot = none :=
    (of_eq_ok_iff.1 h).1 _ (by unfold checks; simp)
  unfold penaltyCheck at hcheck
  dsimp only at hcheck
  split at hcheck
  · next hfinite =>
    rw [isFinite_eq] at hfinite
    exact hfinite
  · cases hcheck

variable (hvalid : snapshot.Valid) (hread : sim.readEntryCount < 2 ^ 64)
  (hwrite : sim.writeEntryCount < 2 ^ 64)
include hvalid hread hwrite

/-- Whatever no rate enters is finite. -/
theorem isFinite_of_mem_shares {analysis : Analysis Float}
    (h : of sim snapshot timestamp = .ok analysis) : ∀ x ∈ analysis.shares, x.isFinite = true := by
  have hpenalty := isFinite_penalty h
  have hutilization := SafetyDimension.upTo_utilization hread hwrite hvalid
  have hledger : UpTo 70 (LedgerCost.compute sim snapshot).normalized :=
    LedgerCost.upTo_normalized hvalid hread hwrite
  have hscore {u : Float} (hu : UpTo 70 u) := isFinite_rawScore snapshot.tuning.thresholds hu
  have hbreakdown :
      ∀ x ∈ (LedgerCost.compute sim snapshot).breakdown.toList, x.isFinite = true := by
    intro x hx
    obtain ⟨d, -, rfl⟩ := List.mem_map.1 hx
    exact (hutilization (.ledger d)).finite
  obtain ⟨-, rfl⟩ := of_eq_ok_iff.1 h
  unfold shares
  simp only [List.forall_mem_append, List.forall_mem_cons, List.not_mem_nil, false_implies,
    implies_true, and_true]
  exact ⟨⟨⟨(hutilization .cpu).finite, (CpuCost.upTo_pressure hvalid).finite,
    (hutilization .memory).finite, hpenalty, hledger.finite⟩, hbreakdown⟩,
    hscore ((hutilization .cpu).mono (by decide)), hscore ((hutilization .memory).mono (by decide)),
    hscore hledger⟩

/-- No fee is negative. -/
theorem nonNeg_of_mem_fees {analysis : Analysis Float}
    (h : of sim snapshot timestamp = .ok analysis) : ∀ fee ∈ analysis.fees, NonNeg fee := by
  have hcpu : NonNeg (CpuCost.compute sim snapshot).fee := CpuCost.nonNeg_fee hvalid
  have hbreakdown := LedgerCost.nonNeg_fees hvalid hread hwrite
  have hledger : NonNeg (LedgerCost.compute sim snapshot).fee := .sum hbreakdown
  obtain ⟨-, rfl⟩ := of_eq_ok_iff.1 h
  unfold fees
  simp only [List.forall_mem_append, List.forall_mem_cons, List.not_mem_nil, false_implies,
    implies_true, and_true]
  exact ⟨⟨hcpu, hledger, hcpu.add hledger⟩, hbreakdown⟩

/-- All numbers are finite if the cpu total and the total fee are. -/
theorem isFinite_of_totals {analysis : Analysis Float}
    (h : of sim snapshot timestamp = .ok analysis)
    (htotal : analysis.costs.cpu.total.isFinite = true)
    (hfee : analysis.totalFee.isFinite = true) : ∀ x ∈ analysis.numbers, x.isFinite = true := by
  have hshares := isFinite_of_mem_shares hvalid hread hwrite h
  obtain ⟨-, rfl⟩ := of_eq_ok_iff.1 h
  obtain ⟨hcpu, hledger⟩ : (CpuCost.compute sim snapshot).fee.isFinite = true ∧
      (LedgerCost.compute sim snapshot).fee.isFinite = true := isFinite_of_add hfee
  have hbreakdown := le_sum (LedgerCost.nonNeg_fees hvalid hread hwrite) hledger
  unfold numbers fees
  simp only [List.forall_mem_append, List.forall_mem_cons, List.not_mem_nil, false_implies,
    implies_true, and_true]
  exact ⟨⟨hshares, ⟨hcpu, hledger, hfee⟩, fun x hx => (hbreakdown x hx).1⟩, htotal⟩

end

/-- An analysis against a valid snapshot is refused for the simulation, or all its utilizations, its
pressure, its penalty and its raw scores are finite and none of its fees is negative. All of its
numbers are finite exactly if its cpu total and its total fee are, and a finite total is not below
the fee; with moderate rates and a moderate pressure weight that is always so. The numbers of
entries have to be words, and the exponential function may be any. -/
theorem finite_unless_fees_overflow [Exponential Float] {snapshot : Snapshot Float}
    (hvalid : snapshot.validate = .ok ()) (sim : Simulation) (timestamp : Timestamp)
    (hread : sim.readEntryCount < 2 ^ 64) (hwrite : sim.writeEntryCount < 2 ^ 64) :
    (∃ cause, of sim snapshot timestamp = .error (.input cause)) ∨
      ∃ analysis, of sim snapshot timestamp = .ok analysis ∧
        (∀ x ∈ analysis.shares, x.isFinite = true) ∧ (∀ fee ∈ analysis.fees, 0.0 ≤ fee) ∧
        ((∀ x ∈ analysis.numbers, x.isFinite = true) ↔
          analysis.costs.cpu.total.isFinite = true ∧ analysis.totalFee.isFinite = true) ∧
        (analysis.costs.cpu.total.isFinite = true →
          analysis.costs.cpu.fee ≤ analysis.costs.cpu.total) ∧
        ((∀ p ∈ snapshot.fees.named, p.2 ≤ moderate) →
          snapshot.tuning.ledgerPressureWeight ≤ moderate →
          (∀ x ∈ analysis.numbers, x.isFinite = true) ∧
            analysis.costs.cpu.fee ≤ analysis.costs.cpu.total) := by
  have hrules := Snapshot.validate_eq_ok_iff.1 hvalid
  rcases of_valid hvalid sim timestamp with hinput | hof
  · exact .inl hinput
  have hfinite := isFinite_of_totals hrules hread hwrite hof
  refine .inr ⟨_, hof, isFinite_of_mem_shares hrules hread hwrite hof,
    fun fee hfee => (nonNeg_of_mem_fees hrules hread hwrite hof fee hfee).zero_le,
    ⟨fun hall => ?_, fun htotals => hfinite htotals.1 htotals.2⟩,
    fun htotal => (CpuCost.fee_le_total hrules htotal).2, fun hrates hweight => ?_⟩
  · unfold numbers fees at hall
    simp only [List.forall_mem_append, List.forall_mem_cons] at hall
    exact ⟨hall.2.1, hall.1.2.1.2.2.1⟩
  · have hledger_rate (d : LedgerDimension) : d.rate snapshot.fees ≤ moderate := by
      obtain ⟨name, hmem⟩ := d.exists_mem_named snapshot.fees
      exact hrates (name, _) hmem
    obtain ⟨hfee, htotal⟩ : UpTo 397 (CpuCost.compute sim snapshot).fee ∧
        (CpuCost.compute sim snapshot).total.isFinite = true :=
      CpuCost.isFinite_total hrules
        (hrates ("fee_per_instruction_increment", _) (List.mem_cons_self ..)) hweight
    have hledger := LedgerCost.upTo_fee hrules hread hwrite hledger_rate
    have hsum := (hfee.mono (show 397 ≤ 402 by decide)).add hledger (by decide)
    exact ⟨hfinite htotal hsum.finite, (CpuCost.fee_le_total hrules htotal).2⟩

/-- The rates of the main network are moderate, so no number of instructions overflows. -/
theorem finite_unless_fees_overflow_of_mainnet :
    let _ : Exponential Float := .oneAtZero
    let sim := { Simulation.zero with instructions := 18446744073709551615 }
    ∃ analysis, of sim .mainnet ⟨0, 0⟩ = .ok analysis ∧
      (∀ x ∈ analysis.numbers, x.isFinite = true) ∧
      analysis.costs.cpu.fee ≤ analysis.costs.cpu.total := by
  intro _ sim
  have hrates : ∀ p ∈ Snapshot.mainnet.fees.named, p.2 ≤ moderate := by
    decide +kernel
  have hweight : Snapshot.mainnet.tuning.ledgerPressureWeight ≤ moderate := by
    decide +kernel
  have hpenalty : penaltyCheck sim .mainnet = none := by decide +kernel
  have hof := of_eq_ok Snapshot.validate_mainnet hpenalty rfl ⟨0, 0⟩
  rcases finite_unless_fees_overflow Snapshot.validate_mainnet sim ⟨0, 0⟩ (by decide)
    (by decide) with ⟨cause, hinput⟩ | ⟨analysis, hanalysis, -, -, -, -, hmoderate⟩
  · cases hof.symm.trans hinput
  · exact ⟨analysis, hanalysis, hmoderate hrates hweight⟩

end Analysis

/-- At a valid rate of zero and a great pressure weight the total is no number at all, and at a
great rate the fee is infinite; the cpu cost is returned all the same. -/
theorem CpuCost.of_leaves_range :
    let limits := { Snapshot.mainnet.limits with ledgerMaxInstructions := 1 }
    let tuning := { Snapshot.mainnet.tuning with ledgerPressureWeight := 1e308 }
    let snapshot (rate : Float) : Snapshot Float :=
      let fees := { Snapshot.mainnet.fees with feePerInstructionIncrement := rate }
      { Snapshot.mainnet with limits, fees, tuning }
    let sim := { Simulation.zero with instructions := 18446744073709551615 }
    ((snapshot 0.0).validate = .ok () ∧ ∃ cost, of sim (snapshot 0.0) = .ok cost ∧
      cost.fee = 0.0 ∧ cost.total.isNaN = true ∧ ¬ cost.fee ≤ cost.total) ∧
    (snapshot 1e308).validate = .ok () ∧ ∃ cost, of sim (snapshot 1e308) = .ok cost ∧
      cost.fee.isInf = true ∧ cost.fee.isFinite = false := by
  intro limits tuning snapshot sim
  have hof (rate : Float) (h : fault? (snapshot rate) = none) :
      of sim (snapshot rate) = .ok (compute sim (snapshot rate)) := by
    unfold of
    rw [h]
  refine ⟨⟨?_, _, hof _ ?_, ?_⟩, ?_, _, hof _ ?_, ?_⟩ <;> decide +kernel

end ResourceMeter
