import ResourceMeter.Analyzer
import ResourceMeter.Proofs.SharedSlot

/-!
# When an analysis fails

The three calculators check the snapshot piece by piece, and two of them also the simulation.
`Analysis.checks` lists all these checks in one row, and `Analysis.of_eq_afterChecks` says that an
analysis is the answer of the first check that finds a fault, or else what scores, hints and safety
checks make of the computed costs. Since validation makes every check of the snapshot too, an
analysis against a valid snapshot can only fail for the simulation (`Analysis.of_ne_configuration`).
-/

namespace ResourceMeter

open Arithmetic Exponential

/-! ## Checks in a row -/

section
variable {α β : Type} {checks : List (Option (Fault α))} {result : β}

/-- A result that stands once all checks have passed; the first fault found is the answer
otherwise. -/
def afterChecks (checks : List (Option (Fault α))) (result : β) : Except (Fault α) β :=
  match checks.findSome? id with
  | some fault => .error fault
  | none => .ok result

/-- The answer is a fault exactly if it is the first that the checks find. -/
theorem afterChecks_eq_error_iff {fault : Fault α} :
    afterChecks checks result = .error fault ↔
      ∃ before after, checks = before ++ some fault :: after ∧ ∀ check ∈ before, check = none := by
  have hfirst : afterChecks checks result = .error fault ↔ checks.findSome? id = some fault := by
    unfold afterChecks
    cases checks.findSome? id with
    | none => exact ⟨nofun, nofun⟩
    | some found => simp
  rw [hfirst, List.findSome?_eq_some_iff]
  constructor
  · rintro ⟨before, check, after, hchecks, rfl, hbefore⟩
    exact ⟨before, after, hchecks, hbefore⟩
  · rintro ⟨before, after, hchecks, hbefore⟩
    exact ⟨before, _, after, hchecks, rfl, hbefore⟩

/-- There is a result exactly if every check passes. -/
theorem afterChecks_eq_ok_iff {found : β} :
    afterChecks checks result = .ok found ↔ (∀ check ∈ checks, check = none) ∧ result = found := by
  have hpass : checks.findSome? id = none ↔ ∀ check ∈ checks, check = none :=
    List.findSome?_eq_none_iff
  rw [← hpass]
  unfold afterChecks
  cases checks.findSome? id with
  | none => simp
  | some fault => simp

/-- What is read from a result is there exactly if every check passes. -/
theorem afterChecks_map_eq_ok_iff {γ : Type} {f : β → γ} {x : γ} :
    (afterChecks checks result).map f = .ok x ↔
      (∀ check ∈ checks, check = none) ∧ f result = x := by
  have hmap : (afterChecks checks result).map f = afterChecks checks (f result) := by
    unfold afterChecks
    cases checks.findSome? id <;> rfl
  rw [hmap, afterChecks_eq_ok_iff]

/-- The answer is a fault exactly if some check finds one. -/
theorem afterChecks_fails_iff :
    (∃ fault, afterChecks checks result = .error fault) ↔ ∃ fault, some fault ∈ checks := by
  constructor
  · rintro ⟨fault, hfault⟩
    obtain ⟨before, after, hchecks, -⟩ := afterChecks_eq_error_iff.1 hfault
    exact ⟨fault, hchecks ▸ List.mem_append_right _ (List.mem_cons_self ..)⟩
  · rintro ⟨fault, hmem⟩
    cases hresult : afterChecks checks result with
    | error found => exact ⟨found, rfl⟩
    | ok found => cases (afterChecks_eq_ok_iff.1 hresult).1 _ hmem

/-- Checks that follow upon a first result come after those that it had to pass. -/
theorem afterChecks_bind {γ : Type} (later : List (Option (Fault α))) {x : β} {y : γ}
    {f : β → Except (Fault α) γ} (hf : f x = afterChecks later y) :
    (afterChecks checks x).bind f = afterChecks (checks ++ later) y := by
  unfold afterChecks at hf ⊢
  rw [List.findSome?_append]
  cases checks.findSome? id with
  | some fault => rfl
  | none => exact hf

end

/-! ## The checks of the calculators -/

section
variable {α : Type}

/-- Finds a limit that is zero. -/
def zeroCheck (name : String) (limit : UInt64) : Option (Fault α) :=
  if limit = 0 then some (.configuration (.zeroLimit name)) else none

/-- Looking for a dimension with a limit of zero is checking the dimensions in a row. -/
theorem LedgerDimension.findSome?_zeroCheck (limits : Limits) (dimensions : List LedgerDimension) :
    (dimensions.map fun d => zeroCheck d.limitName (d.limit limits)).findSome? id =
      (dimensions.find? fun d => d.limit limits == 0).map
        fun d => (.configuration (.zeroLimit d.limitName) : Fault α) := by
  induction dimensions with
  | nil => rfl
  | cons d rest ih =>
    rw [List.map_cons, List.findSome?_cons, List.find?_cons, ih]
    unfold zeroCheck
    by_cases h : d.limit limits = 0
    · simp [h]
    · rw [if_neg h, beq_false_of_ne h]
      rfl

/-- Finds an inconsistent key. -/
def footprintCheck (footprint : Footprint) : Option (Fault α) :=
  footprint.conflict?.map fun conflict => .input (.footprintConflict conflict)

/-- A limit passes exactly if it is not zero. -/
theorem zeroCheck_eq_none_iff {name : String} {limit : UInt64} :
    (zeroCheck name limit : Option (Fault α)) = none ↔ limit ≠ 0 := by
  unfold zeroCheck
  rw [ite_eq_right_iff, imp_iff_not (Option.some_ne_none _)]

variable [Arithmetic α]

/-- Finds a scale that is negative or not finite. -/
def scaleCheck (name : String) (scale : α) : Option (Fault α) :=
  if isFinite scale = false ∨ scale < 0.0 then some (.configuration (.notNonNegative name scale))
  else none

/-- A scale passes exactly if it is finite and not negative. -/
theorem scaleCheck_eq_none_iff {name : String} {scale : α} :
    scaleCheck name scale = none ↔ NonNegative scale := by
  unfold scaleCheck NonNegative
  rw [ite_eq_right_iff, imp_iff_not (Option.some_ne_none _), not_or, Bool.not_eq_false]

/-- The checks of the cpu cost. -/
theorem CpuCost.of_eq_afterChecks (sim : Simulation) (snapshot : Snapshot α) :
    CpuCost.of sim snapshot = afterChecks
      [zeroCheck "instructions_per_fee_increment" snapshot.fees.instructionsPerFeeIncrement,
       zeroCheck "tx_max_instructions" snapshot.limits.txMaxInstructions,
       zeroCheck "ledger_max_instructions" snapshot.limits.ledgerMaxInstructions,
       scaleCheck "ledger_pressure_weight" snapshot.tuning.ledgerPressureWeight]
      (compute sim snapshot) := by
  unfold CpuCost.of fault? nonNegativeFault? zeroCheck scaleCheck afterChecks
  split_ifs <;> rfl

/-- The checks of the ledger cost. -/
theorem LedgerCost.of_eq_afterChecks (sim : Simulation) (snapshot : Snapshot α) :
    LedgerCost.of sim snapshot = afterChecks
      [zeroCheck "tx_max_read_ledger_entries" snapshot.limits.txMaxReadLedgerEntries,
       zeroCheck "tx_max_read_bytes" snapshot.limits.txMaxReadBytes,
       zeroCheck "tx_max_write_ledger_entries" snapshot.limits.txMaxWriteLedgerEntries,
       zeroCheck "tx_max_write_bytes" snapshot.limits.txMaxWriteBytes,
       zeroCheck "tx_max_size_bytes" snapshot.limits.txMaxSizeBytes,
       footprintCheck sim.resources.footprint]
      (compute sim snapshot) := by
  show LedgerCost.of sim snapshot = afterChecks
    ((LedgerDimension.all.map fun d => zeroCheck d.limitName (d.limit snapshot.limits)) ++
      [footprintCheck sim.resources.footprint]) (compute sim snapshot)
  unfold afterChecks
  rw [List.findSome?_append, LedgerDimension.findSome?_zeroCheck]
  unfold LedgerCost.of fault? footprintCheck
  cases LedgerDimension.all.find? fun d => d.limit snapshot.limits == 0 with
  | some d => rfl
  | none => cases sim.resources.footprint.conflict? <;> rfl

variable [Exponential α]

/-- Finds a memory penalty that is not finite. -/
def penaltyCheck (sim : Simulation) (snapshot : Snapshot α) : Option (Fault α) :=
  let share : α := ofCount sim.memoryBytes.toNat / ofCount snapshot.limits.txMemoryLimit.toNat
  if isFinite (snapshot.tuning.memoryScalingFactor * exp (5.0 * share)) then none
  else some (.input (.penaltyOverflow sim.memoryBytes share))

/-- The checks of the memory cost. -/
theorem MemoryCost.of_eq_afterChecks (sim : Simulation) (snapshot : Snapshot α) :
    MemoryCost.of sim snapshot = afterChecks
      [zeroCheck "tx_memory_limit" snapshot.limits.txMemoryLimit,
       scaleCheck "memory_scaling_factor" snapshot.tuning.memoryScalingFactor,
       penaltyCheck sim snapshot]
      (compute sim snapshot) := by
  unfold MemoryCost.of fault? nonNegativeFault? zeroCheck scaleCheck penaltyCheck afterChecks
  dsimp only [compute, penaltyExponent]
  split_ifs <;> rfl

/-! ## The checks of an analysis -/

/-- The costs of a simulation, once nothing is wrong with it and the snapshot. -/
def ResourceCosts.compute (sim : Simulation) (snapshot : Snapshot α) : ResourceCosts α :=
  { cpu := CpuCost.compute sim snapshot
    memory := MemoryCost.compute sim snapshot
    ledger := LedgerCost.compute sim snapshot }

namespace Analysis

/-- All checks of an analysis, in their order. -/
def checks (sim : Simulation) (snapshot : Snapshot α) : List (Option (Fault α)) :=
  let limits := snapshot.limits
  [zeroCheck "instructions_per_fee_increment" snapshot.fees.instructionsPerFeeIncrement,
   zeroCheck "tx_max_instructions" limits.txMaxInstructions,
   zeroCheck "ledger_max_instructions" limits.ledgerMaxInstructions,
   scaleCheck "ledger_pressure_weight" snapshot.tuning.ledgerPressureWeight,
   zeroCheck "tx_memory_limit" limits.txMemoryLimit,
   scaleCheck "memory_scaling_factor" snapshot.tuning.memoryScalingFactor,
   penaltyCheck sim snapshot,
   zeroCheck "tx_max_read_ledger_entries" limits.txMaxReadLedgerEntries,
   zeroCheck "tx_max_read_bytes" limits.txMaxReadBytes,
   zeroCheck "tx_max_write_ledger_entries" limits.txMaxWriteLedgerEntries,
   zeroCheck "tx_max_write_bytes" limits.txMaxWriteBytes,
   zeroCheck "tx_max_size_bytes" limits.txMaxSizeBytes,
   footprintCheck sim.resources.footprint]

/-- An analysis is the first fault that its checks find, or else what scores, hints and safety
checks make of the computed costs. -/
theorem of_eq_afterChecks (sim : Simulation) (snapshot : Snapshot α) (timestamp : Timestamp) :
    of sim snapshot timestamp = afterChecks (checks sim snapshot)
      (ofCosts (ResourceCosts.compute sim snapshot) snapshot timestamp) := by
  have hbind : of sim snapshot timestamp =
      (CpuCost.of sim snapshot).bind fun cpu => (MemoryCost.of sim snapshot).bind fun memory =>
        (LedgerCost.of sim snapshot).bind fun ledger =>
          .ok (ofCosts { cpu, memory, ledger } snapshot timestamp) := by
    unfold of ResourceCosts.of
    cases CpuCost.of sim snapshot with
    | error fault => rfl
    | ok cpu =>
      cases MemoryCost.of sim snapshot with
      | error fault => rfl
      | ok memory => cases LedgerCost.of sim snapshot <;> rfl
  rw [hbind, CpuCost.of_eq_afterChecks, MemoryCost.of_eq_afterChecks,
    LedgerCost.of_eq_afterChecks]
  -- Each calculator's checks move behind those of the calculators before it.
  exact afterChecks_bind _ (afterChecks_bind _ (afterChecks_bind [] rfl))

/-- An analysis that succeeds passed all checks and is made of the computed costs. -/
theorem of_eq_ok_iff {sim : Simulation} {snapshot : Snapshot α} {timestamp : Timestamp}
    {analysis : Analysis α} :
    of sim snapshot timestamp = .ok analysis ↔ (∀ check ∈ checks sim snapshot, check = none) ∧
      ofCosts (ResourceCosts.compute sim snapshot) snapshot timestamp = analysis := by
  rw [of_eq_afterChecks, afterChecks_eq_ok_iff]

/-- An analysis that fails does so with the fault of the first check that does not pass. -/
theorem of_eq_error_iff {sim : Simulation} {snapshot : Snapshot α} {timestamp : Timestamp}
    {fault : Fault α} :
    of sim snapshot timestamp = .error fault ↔ ∃ before after,
      checks sim snapshot = before ++ some fault :: after ∧ ∀ check ∈ before, check = none := by
  rw [of_eq_afterChecks, afterChecks_eq_error_iff]

/-- A simulation with a conflict in its footprint cannot be analysed against any snapshot. -/
theorem exists_error_of_conflict {sim : Simulation}
    (h : sim.resources.footprint.conflict? ≠ none) (snapshot : Snapshot α)
    (timestamp : Timestamp) : ∃ fault, of sim snapshot timestamp = .error fault := by
  cases hof : of sim snapshot timestamp with
  | error fault => exact ⟨fault, rfl⟩
  | ok analysis =>
    have hcheck : footprintCheck sim.resources.footprint = (none : Option (Fault α)) :=
      (of_eq_ok_iff.1 hof).1 _ (by simp [checks])
    exact absurd (Option.map_eq_none_iff.1 hcheck) h

/-- Of the checks of an analysis against a valid snapshot, only those of the simulation can find
anything. -/
theorem checks_of_valid {snapshot : Snapshot α} (h : snapshot.Valid) (sim : Simulation) :
    checks sim snapshot = [none, none, none, none, none, none, penaltyCheck sim snapshot,
      none, none, none, none, none, footprintCheck sim.resources.footprint] := by
  have hlimits := h.limits
  simp only [Limits.named, List.forall_mem_cons] at hlimits
  obtain ⟨hinstructions, hledger, hmemory, hreadEntries, hreadBytes, hwriteEntries, hwriteBytes,
    -, -, -, -, hsize, -⟩ := hlimits
  unfold checks
  dsimp only
  rw [zeroCheck_eq_none_iff.2 h.increment, zeroCheck_eq_none_iff.2 hinstructions,
    zeroCheck_eq_none_iff.2 hledger, scaleCheck_eq_none_iff.2 h.pressureWeight,
    zeroCheck_eq_none_iff.2 hmemory, scaleCheck_eq_none_iff.2 h.scalingFactor,
    zeroCheck_eq_none_iff.2 hreadEntries, zeroCheck_eq_none_iff.2 hreadBytes,
    zeroCheck_eq_none_iff.2 hwriteEntries, zeroCheck_eq_none_iff.2 hwriteBytes,
    zeroCheck_eq_none_iff.2 hsize]

/-- With a finite penalty and a consistent footprint, an analysis against a valid snapshot
succeeds. -/
theorem of_eq_ok {snapshot : Snapshot α} (h : snapshot.validate = .ok ()) {sim : Simulation}
    (hpenalty : penaltyCheck sim snapshot = none)
    (hfootprint : sim.resources.footprint.conflict? = none) (timestamp : Timestamp) :
    of sim snapshot timestamp =
      .ok (ofCosts (ResourceCosts.compute sim snapshot) snapshot timestamp) := by
  rw [of_eq_afterChecks, checks_of_valid (Snapshot.validate_eq_ok_iff.1 h), hpenalty]
  unfold footprintCheck
  rw [hfootprint]
  rfl

/-- With a finite penalty and a conflict, an analysis against a valid snapshot is refused for that
conflict. -/
theorem of_eq_conflict {snapshot : Snapshot α} (h : snapshot.validate = .ok ()) {sim : Simulation}
    (hpenalty : penaltyCheck sim snapshot = none) {conflict : FootprintConflict}
    (hfootprint : sim.resources.footprint.conflict? = some conflict) (timestamp : Timestamp) :
    of sim snapshot timestamp = .error (.input (.footprintConflict conflict)) := by
  rw [of_eq_afterChecks, checks_of_valid (Snapshot.validate_eq_ok_iff.1 h), hpenalty]
  unfold footprintCheck
  rw [hfootprint]
  rfl

/-- An analysis against a valid snapshot is refused for the simulation or succeeds. -/
theorem of_valid {snapshot : Snapshot α} (h : snapshot.validate = .ok ()) (sim : Simulation)
    (timestamp : Timestamp) :
    (∃ cause, of sim snapshot timestamp = .error (.input cause)) ∨
      of sim snapshot timestamp =
        .ok (ofCosts (ResourceCosts.compute sim snapshot) snapshot timestamp) := by
  rw [of_eq_afterChecks, checks_of_valid (Snapshot.validate_eq_ok_iff.1 h)]
  unfold penaltyCheck footprintCheck
  dsimp only
  split
  · cases sim.resources.footprint.conflict? with
    | none => exact .inr rfl
    | some conflict => exact .inl ⟨_, rfl⟩
  · exact .inl ⟨_, rfl⟩

/-- No simulation makes an analysis against a valid snapshot fail for the configuration. -/
theorem of_ne_configuration {snapshot : Snapshot α} (h : snapshot.validate = .ok ())
    (sim : Simulation) (timestamp : Timestamp) (cause : ConfigurationFault α) :
    of sim snapshot timestamp ≠ .error (.configuration cause) := by
  rcases of_valid h sim timestamp with ⟨input, hof⟩ | hof <;> rw [hof] <;> exact nofun

end Analysis

end

/-- The exponential function of binary64, of which a proof can see that it is one at zero. -/
abbrev Exponential.oneAtZero : Exponential Float where
  exp x := if x ≤ 0.0 ∧ 0.0 ≤ x then 1.0 else Float.exp x

namespace Analysis

/-- An analysis fails exactly if one of its checks finds a fault, and then with the fault of the
first that does; a conflict in the footprint is put in its own words. Against a valid snapshot no
simulation makes it fail for the configuration; nor does any call of an analyzer on a slot that
clients share, at any moment of any run. -/
theorem fault_is_first (sim : Simulation) (snapshot : Snapshot Float) (timestamp : Timestamp) :
    ((∃ fault, of sim snapshot timestamp = .error fault) ↔
      ∃ fault, some fault ∈ checks sim snapshot) ∧
    (∀ fault, of sim snapshot timestamp = .error fault ↔ ∃ before after,
      checks sim snapshot = before ++ some fault :: after ∧ ∀ check ∈ before, check = none) ∧
    (∀ conflict : FootprintConflict, (.input (.footprintConflict conflict) : Fault Float).message =
      FaultClass.input.describe conflict.message) ∧
    (snapshot.validate = .ok () → ∀ cause,
      of sim snapshot timestamp ≠ .error (.configuration cause)) ∧
    (∀ (κ : Type) [DecidableEq κ] (slot : SnapshotSlot Float), slot.Built →
      ∀ (calls : κ → List (SlotCall Float)) (schedule : List κ),
      let held := ((SharedSlot.start slot calls).run schedule).slot
      ∀ cause, held.analyze timestamp sim ≠ .error (.configuration cause) ∧
        ∀ sims, .error (.configuration cause) ∉ held.analyzeBatch timestamp sims) := by
  refine ⟨?_, fun fault => of_eq_error_iff, fun conflict => rfl,
    fun h => of_ne_configuration h sim timestamp, ?_⟩
  · rw [of_eq_afterChecks]
    exact afterChecks_fails_iff
  · intro κ _ slot hslot calls schedule held cause
    have hvalid : held.current.validate = .ok () :=
      ((SharedSlot.Inv.start hslot.valid calls).run schedule).valid
    refine ⟨of_ne_configuration hvalid sim timestamp cause, fun sims hmem => ?_⟩
    obtain ⟨other, -, hother⟩ := List.mem_map.1 hmem
    exact of_ne_configuration hvalid other timestamp cause hother

/-- A limit of zero is the fault, even though the footprint of the simulation repeats a key; the
snapshot of the main network, which every client of its slot finds, is never at fault. -/
theorem fault_is_first_of_mainnet :
    let repeated : Simulation := { Simulation.zero with resources.footprint.readOnly := ["k", "k"] }
    let limits := { Snapshot.mainnet.limits with ledgerMaxInstructions := 0 }
    let calls : Bool → List (SlotCall Float) := fun _ => [.replace .mainnet]
    let held := ((SharedSlot.start .standard calls).run [true, false]).slot
    Snapshot.mainnet.validate = .ok () ∧ SnapshotSlot.standard.Built ∧
      of repeated { Snapshot.mainnet with limits } ⟨0, 0⟩ =
        .error (.configuration (.zeroLimit "ledger_max_instructions")) ∧
      ∀ cause, of repeated .mainnet ⟨0, 0⟩ ≠ .error (.configuration cause) ∧
        held.analyze ⟨0, 0⟩ repeated ≠ .error (.configuration cause) := by
  intro repeated limits calls held
  obtain ⟨-, -, -, hvalid, hshared⟩ := fault_is_first repeated .mainnet ⟨0, 0⟩
  obtain ⟨-, hfirst, -, -⟩ := fault_is_first repeated { Snapshot.mainnet with limits } ⟨0, 0⟩
  refine ⟨Snapshot.validate_mainnet, .standard, (hfirst _).2 ⟨[none, none], _, rfl, ?_⟩,
    fun cause => ⟨?_, ?_⟩⟩
  · simp
  · exact hvalid Snapshot.validate_mainnet cause
  · exact (hshared Bool .standard .standard calls [true, false] cause).1

end Analysis

end ResourceMeter
