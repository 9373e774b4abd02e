import Mathlib.Tactic.Ring
import ResourceMeter.Proofs.Consumption
import ResourceMeter.Proofs.FirstConflict
import ResourceMeter.Proofs.NamedWeights
import ResourceMeter.Proofs.SnapshotRoundTrip
import ResourceMeter.Proofs.StartedUnits
import ResourceMeter.Proofs.WeightedMeans

/-!
# Ledger costs as an average

`LedgerMeter.of` lists for each ledger dimension what is metered, once and in one place: the
quantity, its limit, its unit and its rate. A ledger cost is computed from that list, dimension by
dimension (`LedgerCost.compute_eq_meters`), and its utilization is the mean of the five under the
weights (`Exact.toRat_normalized`). So it is between the least and the greatest of them, up to the
tolerance of the weights, and with equal weights it does not tell which dimension has which
utilization.
-/

namespace ResourceMeter

open Arithmetic

/-! ## What is metered -/

/-- What is metered in a dimension. -/
structure LedgerMeter (α : Type) where
  quantity : Nat
  limit : UInt64
  /-- What is charged once: an entry, or the bytes of a KiB. -/
  unit : Nat
  rate : α

/-- The number of units that the quantity starts. -/
def LedgerMeter.units {α : Type} (meter : LedgerMeter α) : Nat :=
  (meter.quantity + (meter.unit - 1)) / meter.unit

/-- What is metered in the ledger dimensions. -/
def LedgerMeter.of {α : Type} [Arithmetic α] (sim : Simulation) (snapshot : Snapshot α) :
    LedgerVector (LedgerMeter α) where
  readEntries :=
    ⟨sim.resources.footprint.readOnly.length, snapshot.limits.txMaxReadLedgerEntries, 1,
      snapshot.fees.feeReadLedgerEntry⟩
  readBytes :=
    ⟨sim.resources.readBytes.toNat, snapshot.limits.txMaxReadBytes, 1024,
      snapshot.fees.feeRead1kb⟩
  writeEntries :=
    ⟨sim.resources.footprint.readWrite.length, snapshot.limits.txMaxWriteLedgerEntries, 1,
      snapshot.fees.feeWriteLedgerEntry⟩
  writeBytes :=
    ⟨sim.resources.writeBytes.toNat, snapshot.limits.txMaxWriteBytes, 1024,
      snapshot.fees.feeWrite1kb⟩
  bandwidth :=
    ⟨sim.transactionSizeBytes.toNat, snapshot.limits.txMaxSizeBytes, 1024,
      snapshot.fees.feeTxSize1kb⟩

namespace LedgerDimension

variable (u : LedgerDimension → Rat)

/-- The least of five numbers. -/
def least : Rat :=
  min (u .readEntries) (min (u .readBytes) (min (u .writeEntries)
    (min (u .writeBytes) (u .bandwidth))))

/-- The greatest of five numbers. -/
def greatest : Rat :=
  max (u .readEntries) (max (u .readBytes) (max (u .writeEntries)
    (max (u .writeBytes) (u .bandwidth))))

/-- The least of five numbers is below each. -/
theorem least_le (d : LedgerDimension) : least u ≤ u d := by
  cases d <;> simp [least]

/-- The greatest of five numbers is above each. -/
theorem le_greatest (d : LedgerDimension) : u d ≤ greatest u := by
  cases d <;> simp [greatest]

variable {u}

/-- The sum over all dimensions. -/
theorem sum_all : (all.map u).sum =
    u .readEntries + u .readBytes + u .writeEntries + u .writeBytes + u .bandwidth := by
  simp only [all, List.map_cons, List.map_nil, List.sum_cons, List.sum_nil]
  ring

/-- A lower bound of five numbers is one of the least. -/
theorem le_least {bound : Rat} (h : ∀ d, bound ≤ u d) : bound ≤ least u :=
  le_min (h _) (le_min (h _) (le_min (h _) (le_min (h _) (h _))))

end LedgerDimension

/-! ## Costs by their meters -/

/-- The started KiB of a count of bytes. -/
theorem toNat_startedUnits_bytes (count : UInt64) :
    (startedUnits count bytesPerFeeUnit).toNat = (count.toNat + (1024 - 1)) / 1024 := by
  rw [startedUnits_toNat (by decide), show bytesPerFeeUnit.toNat = 1024 from rfl]
  split <;> omega

section
variable {α : Type} [Arithmetic α] (sim : Simulation) (snapshot : Snapshot α)
  (d : LedgerDimension)

/-- The charged units of a dimension are those that its meter starts. -/
theorem LedgerDimension.billedUnits_eq :
    d.billedUnits sim = ((LedgerMeter.of sim snapshot).get d).units := by
  cases d with
  | readEntries | writeEntries => exact (Nat.div_one _).symm
  | readBytes | writeBytes | bandwidth => exact toNat_startedUnits_bytes _

/-- Utilization and fee of a dimension are those of its meter. -/
theorem LedgerCost.compute_eq_meters :
    let meter := (LedgerMeter.of sim snapshot).get d
    (compute sim snapshot).breakdown.get d = ofCount meter.quantity / ofCount meter.limit.toNat ∧
      (compute sim snapshot).feeBreakdown.get d = ofCount meter.units * meter.rate := by
  intro meter
  have hquantity : d.quantity sim = meter.quantity := by cases d <;> rfl
  have hlimit : d.limit snapshot.limits = meter.limit := by cases d <;> rfl
  have hrate : d.rate snapshot.fees = meter.rate := by cases d <;> rfl
  have hunits : d.billedUnits sim = meter.units := d.billedUnits_eq sim snapshot
  rw [← hquantity, ← hlimit, ← hrate, ← hunits]
  exact ⟨LedgerVector.get_ofFn _ d, LedgerVector.get_ofFn _ d⟩

variable {sim snapshot} {cost : LedgerCost α}

/-- A ledger cost is the computed one, and no limit is zero. -/
theorem LedgerCost.of_eq_ok (h : LedgerCost.of sim snapshot = .ok cost) :
    cost = compute sim snapshot ∧ ((LedgerMeter.of sim snapshot).get d).limit ≠ 0 := by
  rw [of_eq_afterChecks, afterChecks_eq_ok_iff] at h
  simp only [List.forall_mem_cons, zeroCheck_eq_none_iff] at h
  obtain ⟨⟨hreadEntries, hreadBytes, hwriteEntries, hwriteBytes, hbandwidth, -⟩, rfl⟩ := h
  exact ⟨rfl, by cases d <;> assumption⟩

end

namespace Exact

variable {exp sqrt : Rat → Rat}

/-- The utilizations of the dimensions with their weights. -/
def ledgerTerms (weights : LedgerWeights (Exact exp sqrt))
    (utilization : LedgerVector (Exact exp sqrt)) : List (Rat × Rat) :=
  LedgerDimension.all.map fun d => ((weights.weight d).toRat, (utilization.get d).toRat)

/-- The group of ledger weights is valid, so they are weights of a mean. -/
theorem isWeighted_ledgerTerms (weights : LedgerWeights (Exact exp sqrt))
    (utilization : LedgerVector (Exact exp sqrt)) :
    IsWeighted (ledgerTerms weights utilization) := by
  obtain ⟨hnonneg, hle, hge⟩ := weights_near_one weights.valid
  rw [namedLedgerWeights_eq, List.map_map] at hle hge
  rw [namedLedgerWeights_eq, List.forall_mem_map] at hnonneg
  exact ⟨List.forall_mem_map.2 hnonneg, hle, hge⟩

variable (sim : Simulation) (snapshot : Snapshot (Exact exp sqrt))

/-- The utilization of the ledger is their mean. -/
theorem toRat_normalized : (LedgerCost.compute sim snapshot).normalized.toRat =
    weightedMean (ledgerTerms snapshot.tuning.ledgerWeights
      (LedgerCost.compute sim snapshot).breakdown) := by
  show (sum (LedgerDimension.all.map fun d => snapshot.tuning.ledgerWeights.weight d *
    (LedgerCost.compute sim snapshot).breakdown.get d)).toRat = _
  rw [toRat_sum, List.map_map]
  rfl

/-- Under equal weights it is a multiple of the sum of the utilizations. -/
theorem toRat_normalized_of_equal {w : Exact exp sqrt}
    (h : ∀ d, snapshot.tuning.ledgerWeights.weight d = w) :
    (LedgerCost.compute sim snapshot).normalized.toRat =
      w.toRat * ((LedgerCost.compute sim snapshot).breakdown.toList.map toRat).sum := by
  rw [toRat_normalized, weightedMean, ledgerTerms, LedgerVector.toList, List.map_map, List.map_map,
    ← List.sum_map_mul_left]
  simp only [Function.comp_def, h]

/-- No utilization is negative. -/
theorem utilization_nonneg (d : LedgerDimension) :
    0 ≤ ((LedgerCost.compute sim snapshot).breakdown.get d).toRat := by
  rw [(LedgerCost.compute_eq_meters sim snapshot d).1, toRat_div, toRat_ofCount, toRat_ofCount]
  exact div_nonneg (Nat.cast_nonneg _) (Nat.cast_nonneg _)

/-- The utilization of the ledger is between the least and the greatest one of the dimensions, up to
the tolerance of the weights. -/
theorem normalized_between :
    let cost := LedgerCost.compute sim snapshot
    let u (d : LedgerDimension) : Rat := (cost.breakdown.get d).toRat
    (1 - 1 / 1000000) * LedgerDimension.least u ≤ cost.normalized.toRat ∧
      cost.normalized.toRat ≤ (1 + 1 / 1000000) * LedgerDimension.greatest u := by
  intro cost u
  have hweighted := isWeighted_ledgerTerms snapshot.tuning.ledgerWeights cost.breakdown
  have hnonneg : ∀ d, 0 ≤ u d := utilization_nonneg sim snapshot
  have hleast : 0 ≤ LedgerDimension.least u := LedgerDimension.le_least hnonneg
  have hgreatest : 0 ≤ LedgerDimension.greatest u :=
    (hnonneg .readEntries).trans (LedgerDimension.le_greatest u .readEntries)
  rw [toRat_normalized]
  constructor
  · refine hweighted.le_weightedMean _ hleast fun term hterm => ?_
    obtain ⟨d, -, rfl⟩ := List.mem_map.1 hterm
    exact LedgerDimension.least_le u d
  · refine hweighted.weightedMean_le _ hgreatest fun term hterm => ?_
    obtain ⟨d, -, rfl⟩ := List.mem_map.1 hterm
    exact LedgerDimension.le_greatest u d

/-- Under equal weights the order of the utilizations does not count. -/
theorem normalized_eq_of_perm {sim' : Simulation} {snapshot' : Snapshot (Exact exp sqrt)}
    (hequal : ∀ d e, snapshot.tuning.ledgerWeights.weight d =
      snapshot.tuning.ledgerWeights.weight e)
    (hsame : snapshot'.tuning.ledgerWeights = snapshot.tuning.ledgerWeights)
    (hperm : (LedgerCost.compute sim' snapshot').breakdown.toList.Perm
      (LedgerCost.compute sim snapshot).breakdown.toList) :
    (LedgerCost.compute sim' snapshot').normalized =
      (LedgerCost.compute sim snapshot).normalized := by
  have hweight (d : LedgerDimension) : snapshot.tuning.ledgerWeights.weight d =
      snapshot.tuning.ledgerWeights.weight .readEntries := hequal d .readEntries
  have hweight' (d : LedgerDimension) : snapshot'.tuning.ledgerWeights.weight d =
      snapshot.tuning.ledgerWeights.weight .readEntries := hsame ▸ hweight d
  have hsum := toRat_normalized_of_equal sim snapshot hweight
  have hsum' := toRat_normalized_of_equal sim' snapshot' hweight'
  rw [(hperm.map toRat).sum_eq, ← hsum] at hsum'
  exact congrArg Exact.mk hsum'

/-- A ledger cost keeps the dimensions apart and averages them. Every dimension has its own quantity
over its own limit as utilization, and its own number of entries or started KiB at its own rate as
fee; the fees add up, and the utilizations are weighed. The weight of a dimension is the one at its
place in the array of weights, and in JSON the member with its name, in whatever order. So the
utilization of the ledger is between the least and the greatest one of the dimensions, up to the
tolerance of the weights, and with equal weights only the collection of the utilizations counts. -/
theorem ledgerCost_is_average {sim : Simulation} {snapshot : Snapshot (Exact exp sqrt)}
    {cost : LedgerCost (Exact exp sqrt)} (h : LedgerCost.of sim snapshot = .ok cost) :
    let meter := (LedgerMeter.of sim snapshot).get
    let weights := snapshot.tuning.ledgerWeights
    let w (d : LedgerDimension) : Rat := (weights.weight d).toRat
    let u (d : LedgerDimension) : Rat := (cost.breakdown.get d).toRat
    let f (d : LedgerDimension) : Rat := (cost.feeBreakdown.get d).toRat
    (∀ d, (meter d).limit ≠ 0 ∧ u d = (meter d).quantity / (meter d).limit.toNat ∧
      f d = (meter d).units * (meter d).rate.toRat) ∧
    cost.fee.toRat =
      f .readEntries + f .readBytes + f .writeEntries + f .writeBytes + f .bandwidth ∧
    cost.normalized.toRat = w .readEntries * u .readEntries + w .readBytes * u .readBytes +
      w .writeEntries * u .writeEntries + w .writeBytes * u .writeBytes +
      w .bandwidth * u .bandwidth ∧
    (∀ array : Vector (Exact exp sqrt) 5, LedgerWeights.of array = .ok weights →
      ∀ d, array[LedgerDimension.all.idxOf d]? = some (weights.weight d)) ∧
    (∀ group : LedgerWeights Float, LedgerWeights.codec.encode group =
      .object (LedgerDimension.all.map fun d => (d.key, .float (group.weight d)))) ∧
    (∀ object group, LedgerWeights.codec.decode (.object object) = .ok group →
      ∀ d : LedgerDimension, d.NamedOnce object (group.weight d)) ∧
    (1 - 1 / 1000000) * LedgerDimension.least u ≤ cost.normalized.toRat ∧
    cost.normalized.toRat ≤ (1 + 1 / 1000000) * LedgerDimension.greatest u ∧
    ((∀ d e, weights.weight d = weights.weight e) → ∀ sim' snapshot' cost',
      LedgerCost.of sim' snapshot' = .ok cost' → snapshot'.tuning.ledgerWeights = weights →
      cost'.breakdown.toList.Perm cost.breakdown.toList → cost'.normalized = cost.normalized) := by
  obtain ⟨rfl, -⟩ := LedgerCost.of_eq_ok .readEntries h
  intro meter weights w u f
  obtain ⟨hleast, hgreatest⟩ := normalized_between sim snapshot
  refine ⟨fun d => ?_, ?_, ?_, fun _ harray => LedgerWeights.getElem?_of_of harray,
    LedgerWeights.encode_eq, fun _ _ hread d => LedgerWeights.namedOnce hread d, hleast, hgreatest,
    ?_⟩
  · obtain ⟨hu, hf⟩ := LedgerCost.compute_eq_meters sim snapshot d
    exact ⟨(LedgerCost.of_eq_ok d h).2, congrArg toRat hu, congrArg toRat hf⟩
  · show (sum (LedgerCost.compute sim snapshot).feeBreakdown.toList).toRat = _
    rw [toRat_sum, LedgerVector.toList, List.map_map]
    exact LedgerDimension.sum_all
  · rw [toRat_normalized, weightedMean, ledgerTerms, List.map_map]
    exact LedgerDimension.sum_all
  · intro hequal sim' snapshot' cost' h' hsame hperm
    obtain ⟨rfl, -⟩ := LedgerCost.of_eq_ok .readEntries h'
    exact normalized_eq_of_perm sim snapshot hequal hsame hperm

/-- Two simulations with the utilizations of read and written bytes exchanged, under equal
weights. -/
theorem ledgerCost_is_average_of_mainnet :
    let snapshot : Snapshot (Exact id id) := mainnet
    let sim : Simulation := { Simulation.zero with resources := ⟨⟨["a"], []⟩, 0, 100000, 25000⟩ }
    let mirrored : Simulation := { sim with resources := ⟨⟨["b"], []⟩, 0, 50000, 50000⟩ }
    ∃ cost mirroredCost, LedgerCost.of sim snapshot = .ok cost ∧
      LedgerCost.of mirrored snapshot = .ok mirroredCost ∧
      (cost.breakdown.get .readBytes).toRat = 100000 / 200000 ∧
      (cost.feeBreakdown.get .readBytes).toRat = 98 * 0.00005 ∧
      mirroredCost.normalized = cost.normalized ∧
      ∃ object, LedgerWeights.codec.decode (.object object) = .ok .uniform ∧
        ∀ d : LedgerDimension, d.NamedOnce object 0.2 := by
  intro snapshot sim mirrored
  have hvalid : snapshot.Valid := Snapshot.validate_eq_ok_iff.1 validate_mainnet
  have hcost : LedgerCost.of sim snapshot = .ok _ :=
    LedgerCost.of_valid hvalid (Footprint.conflict?_eq_none_iff.2 (by decide))
  have hmirrored : LedgerCost.of mirrored snapshot = .ok _ :=
    LedgerCost.of_valid hvalid (Footprint.conflict?_eq_none_iff.2 (by decide))
  have hpermuted : (LedgerCost.compute mirrored snapshot).breakdown.toList.Perm
      (LedgerCost.compute sim snapshot).breakdown.toList := by decide +kernel
  have hequal (d e : LedgerDimension) : snapshot.tuning.ledgerWeights.weight d =
      snapshot.tuning.ledgerWeights.weight e := by cases d <;> cases e <;> rfl
  have hread : Json.Codec.float.ReadsBack 0.2 :=
    Json.Codec.readsBack_float rfl ((Json.Codec.read_of_next? _ rfl).trans rfl)
  have huniform (d : LedgerDimension) : LedgerWeights.uniform.weight d = 0.2 := by cases d <;> rfl
  have hobject : LedgerWeights.codec.ReadsBack .uniform := LedgerWeights.readsBack fun x hx => by
    rw [LedgerWeights.toList_weights] at hx
    obtain ⟨d, -, rfl⟩ := List.mem_map.1 hx
    exact huniform d ▸ hread
  rw [Json.Codec.ReadsBack, LedgerWeights.encode_eq, Json.outline] at hobject
  obtain ⟨hdimensions, -, -, -, -, hnamed, -, -, hcollection⟩ := ledgerCost_is_average hcost
  obtain ⟨-, hu, hf⟩ := hdimensions .readBytes
  have hexchanged := hcollection hequal mirrored snapshot _ hmirrored rfl hpermuted
  have hmembers := hnamed _ _ hobject
  simp only [huniform] at hmembers
  refine ⟨_, _, hcost, hmirrored, ?_, ?_, hexchanged, _, hobject, hmembers⟩
  · exact hu.trans (by decide +kernel)
  · exact hf.trans (by decide +kernel)

end Exact

end ResourceMeter
