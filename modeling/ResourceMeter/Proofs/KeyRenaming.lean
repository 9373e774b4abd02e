import ResourceMeter.Proofs.AnalysisOrder
import ResourceMeter.Proofs.FirstConflict

/-!
# Renamed ledger keys

An analysis compares the keys of a footprint with each other and reads nothing else of them.
Renaming the keys moves the first conflict along with its key (`Footprint.conflict?_rename`) and
changes no quantity that is metered. So an analysis of renamed keys is the analysis of the old ones,
and a fault differs in the key that it names; where no key is in conflict, only the numbers of keys
count (`Analysis.keys_are_only_compared`).
-/

namespace ResourceMeter

/-! ## Renaming -/

/-- The conflict of the same kind about the renamed key. -/
def FootprintConflict.rename (f : String → String) : FootprintConflict → FootprintConflict
  | .duplicateReadOnly key => .duplicateReadOnly (f key)
  | .duplicateReadWrite key => .duplicateReadWrite (f key)
  | .overlap key => .overlap (f key)

/-- The footprint with renamed keys, each at its place. -/
def Footprint.rename (f : String → String) (footprint : Footprint) : Footprint :=
  ⟨footprint.readOnly.map f, footprint.readWrite.map f⟩

/-- The simulation with renamed keys in its footprint. -/
def Simulation.rename (f : String → String) (sim : Simulation) : Simulation :=
  { sim with resources.footprint := sim.resources.footprint.rename f }

/-- The fault with the renamed key where it is about a key. -/
def Fault.rename {α : Type} (f : String → String) : Fault α → Fault α
  | .input (.footprintConflict conflict) => .input (.footprintConflict (conflict.rename f))
  | fault => fault

/-- The message names the renamed key and gives the same reason. -/
theorem FootprintConflict.message_rename (f : String → String) (conflict : FootprintConflict) :
    (conflict.rename f).message =
      "ledger key \x60" ++ f conflict.key ++ "\x60 " ++ conflict.reason := by
  cases conflict <;> rfl

/-! ## The first conflict moves with its key -/

section
variable {f : String → String}

/-- Renamed keys are repeated where the old ones are, if no two of them become one. -/
theorem FirstRepeat.map {taken keys : List String} {key : String}
    (hf : Set.InjOn f {key | key ∈ taken ∨ key ∈ keys}) (h : FirstRepeat taken keys key) :
    FirstRepeat (taken.map f) (keys.map f) (f key) := by
  have hmem {old : List String} (hold : ∀ k ∈ old, k ∈ taken ∨ k ∈ keys) {k : String}
      (hk : k ∈ keys) : f k ∈ old.map f ↔ k ∈ old := by
    rw [List.mem_map]
    constructor
    · rintro ⟨other, hother, heq⟩
      exact hf (hold other hother) (.inr hk) heq ▸ hother
    · exact fun hk => ⟨k, hk, rfl⟩
  have htaken {k : String} (hk : k ∈ keys) : f k ∈ taken.map f ↔ k ∈ taken :=
    hmem (fun _ => .inl) hk
  have hearlier {k : String} (j : Nat) (hk : k ∈ keys) :
      f k ∈ (keys.map f).take j ↔ k ∈ keys.take j := by
    rw [← List.map_take]
    exact hmem (fun _ hother => .inr (List.mem_of_mem_take hother)) hk
  obtain ⟨i, hhere, hrepeat, hfirst⟩ := h
  have hkey : key ∈ keys := List.mem_of_getElem? hhere
  refine ⟨i, ?_, ?_, fun j hj renamed hrenamed => ?_⟩
  · rw [List.getElem?_map, hhere]
    rfl
  · rwa [htaken hkey, hearlier i hkey]
  · rw [List.getElem?_map, Option.map_eq_some_iff] at hrenamed
    obtain ⟨earlier, hplace, rfl⟩ := hrenamed
    have hin : earlier ∈ keys := List.mem_of_getElem? hplace
    rw [htaken hin, hearlier j hin]
    exact hfirst j hj earlier hplace

namespace Footprint

variable {footprint : Footprint}

/-- The keys of a renamed footprint. -/
theorem keys_rename (f : String → String) (footprint : Footprint) :
    (footprint.rename f).keys = footprint.keys.map f :=
  List.map_append.symm

/-- The first conflict of a renamed footprint is the old one about the renamed key. -/
theorem FirstConflict.rename (hf : Set.InjOn f {key | key ∈ footprint.keys})
    {conflict : FootprintConflict} (h : footprint.FirstConflict conflict) :
    (footprint.rename f).FirstConflict (conflict.rename f) := by
  have hwritten : Set.InjOn f {key | key ∈ footprint.readWrite} :=
    hf.mono fun _ hkey => List.mem_append_right _ hkey
  have hwrites : Set.InjOn f {key | key ∈ [] ∨ key ∈ footprint.readWrite} :=
    hwritten.mono fun _ hkey => hkey.resolve_left List.not_mem_nil
  have hreads : Set.InjOn f {key | key ∈ footprint.readWrite ∨ key ∈ footprint.readOnly} :=
    hf.mono fun _ hkey => List.mem_append.2 hkey.symm
  have hnodup (hnodup : footprint.readWrite.Nodup) : (footprint.rename f).readWrite.Nodup :=
    hnodup.map_on fun _ hkey _ hother => hwritten hkey hother
  cases h with
  | duplicateReadWrite hfirst => exact .duplicateReadWrite (hfirst.map hwrites)
  | overlap hdistinct hfirst hkey =>
    exact .overlap (hnodup hdistinct) (hfirst.map hreads) (List.mem_map_of_mem hkey)
  | @duplicateReadOnly key hdistinct hfirst hkey =>
    obtain ⟨i, hhere, -⟩ := id hfirst
    refine .duplicateReadOnly (hnodup hdistinct) (hfirst.map hreads) fun hrenamed => ?_
    obtain ⟨other, hother, heq⟩ := List.mem_map.1 hrenamed
    exact hkey (hreads (.inl hother) (.inr (List.mem_of_getElem? hhere)) heq ▸ hother)

/-- Looking for a conflict commutes with renaming. -/
theorem conflict?_rename (hf : Set.InjOn f {key | key ∈ footprint.keys}) :
    (footprint.rename f).conflict? = footprint.conflict?.map (·.rename f) := by
  cases hconflict : footprint.conflict? with
  | none =>
    rw [conflict?_eq_none_iff] at hconflict
    rw [Option.map_none, conflict?_eq_none_iff, keys_rename]
    exact hconflict.map_on fun _ hkey _ hother => hf hkey hother
  | some conflict =>
    rw [conflict?_eq_some_iff] at hconflict
    exact conflict?_eq_some_iff.2 (hconflict.rename hf)

end Footprint

end

/-! ## Analyses read quantities and conflicts -/

section
variable {α : Type} [Arithmetic α] [Exponential α] {s t : Simulation}

/-- The units that are charged depend on the metered quantity. -/
theorem LedgerDimension.billedUnits_congr
    (h : ∀ d : SafetyDimension, d.consumed s = d.consumed t) (d : LedgerDimension) :
    d.billedUnits s = d.billedUnits t := by
  have hd := h (.ledger d)
  cases d with
  | readEntries | writeEntries => exact hd
  | readBytes | writeBytes | bandwidth =>
    exact congrArg (fun count => (startedUnits count bytesPerFeeUnit).toNat)
      (UInt64.toNat_inj.1 hd)

/-- The costs depend on the seven metered quantities alone. -/
theorem ResourceCosts.compute_congr (h : ∀ d : SafetyDimension, d.consumed s = d.consumed t)
    (snapshot : Snapshot α) : compute s snapshot = compute t snapshot := by
  have hinstructions : s.instructions = t.instructions := UInt64.toNat_inj.1 (h .cpu)
  have hmemory : s.memoryBytes = t.memoryBytes := UInt64.toNat_inj.1 (h .memory)
  have hquantity (d : LedgerDimension) : d.quantity s = d.quantity t := by
    have hd := h (.ledger d)
    cases d <;> exact hd
  have hbilled := LedgerDimension.billedUnits_congr h
  simp only [compute, CpuCost.compute, MemoryCost.compute, LedgerCost.compute, hinstructions,
    hmemory, hquantity, hbilled]

/-- An analysis depends on the seven metered quantities and on the conflict of the footprint. -/
theorem Analysis.of_congr (h : ∀ d : SafetyDimension, d.consumed s = d.consumed t)
    (hconflict : s.resources.footprint.conflict? = t.resources.footprint.conflict?)
    (snapshot : Snapshot α) (timestamp : Timestamp) :
    of s snapshot timestamp = of t snapshot timestamp := by
  have hmemory : s.memoryBytes = t.memoryBytes := UInt64.toNat_inj.1 (h .memory)
  have hchecks : checks s snapshot = checks t snapshot := by
    unfold checks penaltyCheck footprintCheck
    rw [hmemory, hconflict]
  rw [of_eq_afterChecks, of_eq_afterChecks, hchecks, ResourceCosts.compute_congr h]

/-- Renaming keys changes no metered quantity. -/
theorem SafetyDimension.consumed_rename (f : String → String) (sim : Simulation)
    (d : SafetyDimension) : d.consumed (sim.rename f) = d.consumed sim := by
  cases d with
  | cpu | memory => rfl
  | ledger d =>
    cases d with
    | readEntries | writeEntries => exact List.length_map ..
    | readBytes | writeBytes | bandwidth => rfl

omit [Arithmetic α] [Exponential α] in
/-- If the checks in a row find renamed faults, so does the first that finds any. -/
theorem afterChecks_map {β : Type} (g : Fault α → Fault α) (checks : List (Option (Fault α)))
    (result : β) :
    afterChecks (checks.map (Option.map g)) result = (afterChecks checks result).mapError g := by
  unfold afterChecks
  induction checks with
  | nil => rfl
  | cons check checks ih =>
    cases check with
    | none => exact ih
    | some fault => rfl

/-- The check of the footprint comes last. -/
theorem Analysis.checks_eq_append (sim : Simulation) (snapshot : Snapshot α) :
    checks sim snapshot =
      (checks sim snapshot).dropLast ++ [footprintCheck sim.resources.footprint] := rfl

/-- No check but the last finds a conflict. -/
theorem Analysis.ne_conflict_of_mem_dropLast {sim : Simulation} {snapshot : Snapshot α}
    {fault : Fault α} (h : some fault ∈ (checks sim snapshot).dropLast)
    (conflict : FootprintConflict) : fault ≠ .input (.footprintConflict conflict) := by
  rintro rfl
  have hzero (name : String) (limit : UInt64) :
      some (.input (.footprintConflict conflict) : Fault α) ≠ zeroCheck name limit := by
    unfold zeroCheck
    split <;> nofun
  have hscale (name : String) (scale : α) :
      some (.input (.footprintConflict conflict) : Fault α) ≠ scaleCheck name scale := by
    unfold scaleCheck
    split <;> nofun
  have hpenalty : some (.input (.footprintConflict conflict)) ≠ penaltyCheck sim snapshot := by
    unfold penaltyCheck
    dsimp only
    split <;> nofun
  simp [checks, hzero, hscale, hpenalty] at h

omit [Arithmetic α] [Exponential α] in
/-- A fault that is no conflict is about no key. -/
theorem Fault.rename_of_ne_conflict {f : String → String} {fault : Fault α}
    (h : ∀ conflict, fault ≠ .input (.footprintConflict conflict)) : fault.rename f = fault := by
  unfold rename
  split
  · next conflict => exact absurd rfl (h conflict)
  · rfl

/-- The checks of a simulation with renamed keys find the same faults, apart from the key that a
fault is about. -/
theorem Analysis.checks_rename {f : String → String} {sim : Simulation}
    (hf : Set.InjOn f {key | key ∈ sim.resources.footprint.keys}) (snapshot : Snapshot α) :
    checks (sim.rename f) snapshot = (checks sim snapshot).map (Option.map (Fault.rename f)) := by
  have hsame : (checks (sim.rename f) snapshot).dropLast = (checks sim snapshot).dropLast := rfl
  have hother : (checks sim snapshot).dropLast.map (Option.map (Fault.rename f)) =
      (checks sim snapshot).dropLast := by
    refine (List.map_congr_left fun check hcheck => ?_).trans (List.map_id _)
    cases check with
    | none => rfl
    | some fault =>
      exact congrArg some (Fault.rename_of_ne_conflict (ne_conflict_of_mem_dropLast hcheck))
  have hfootprint : (footprintCheck sim.resources.footprint : Option (Fault α)).map
      (Fault.rename f) = footprintCheck (sim.rename f).resources.footprint := by
    unfold footprintCheck Simulation.rename
    rw [Footprint.conflict?_rename hf, Option.map_map, Option.map_map]
    rfl
  rw [checks_eq_append (sim.rename f), checks_eq_append sim, hsame, List.map_append, hother,
    List.map_singleton, hfootprint]

/-- Renaming keys renames the key of the fault, if there is one, and leaves the rest of the answer
as it is. -/
theorem Analysis.of_rename {f : String → String} {sim : Simulation}
    (hf : Set.InjOn f {key | key ∈ sim.resources.footprint.keys}) (snapshot : Snapshot α)
    (timestamp : Timestamp) : of (sim.rename f) snapshot timestamp =
      (of sim snapshot timestamp).mapError (Fault.rename f) := by
  have hcosts := ResourceCosts.compute_congr (SafetyDimension.consumed_rename f sim) snapshot
  rw [of_eq_afterChecks, of_eq_afterChecks, checks_rename hf, afterChecks_map, hcosts]

/-- A conflict that an analysis reports is that of the footprint. -/
theorem Analysis.conflict?_of_error {sim : Simulation} {snapshot : Snapshot α}
    {timestamp : Timestamp} {conflict : FootprintConflict}
    (h : of sim snapshot timestamp = .error (.input (.footprintConflict conflict))) :
    sim.resources.footprint.conflict? = some conflict := by
  obtain ⟨before, after, hchecks, -⟩ := of_eq_error_iff.1 h
  have hmem : some (.input (.footprintConflict conflict)) ∈ checks sim snapshot :=
    hchecks ▸ List.mem_append_right _ (List.mem_cons_self ..)
  rw [checks_eq_append, List.mem_append] at hmem
  rcases hmem with hother | hlast
  · exact absurd rfl (ne_conflict_of_mem_dropLast hother conflict)
  · obtain ⟨found, hfound, heq⟩ := Option.map_eq_some_iff.1 (List.mem_singleton.1 hlast).symm
    cases heq
    exact hfound

/-- An analysis sees the keys of a footprint only as far as they are equal or not. If keys are
renamed and no two of them become one, then the analysis is the same, and a fault is the same about
the renamed key, which is that of the first conflict. Where no key is in conflict, neither the keys
nor their order nor the declared instructions count: two simulations with the same metered
quantities have the same answer. -/
theorem Analysis.keys_are_only_compared (sim : Simulation) (snapshot : Snapshot α)
    (timestamp : Timestamp) :
    (∀ f : String → String, Set.InjOn f {key | key ∈ sim.resources.footprint.keys} →
      (∀ analysis, of sim snapshot timestamp = .ok analysis →
        of (sim.rename f) snapshot timestamp = .ok analysis) ∧
      (∀ fault, of sim snapshot timestamp = .error fault →
        of (sim.rename f) snapshot timestamp = .error (fault.rename f)) ∧
      ∀ conflict, of sim snapshot timestamp = .error (.input (.footprintConflict conflict)) →
        sim.resources.footprint.conflict? = some conflict ∧
        (sim.rename f).resources.footprint.conflict? = some (conflict.rename f) ∧
        (conflict.rename f).message =
          "ledger key \x60" ++ f conflict.key ++ "\x60 " ++ conflict.reason) ∧
    ∀ other : Simulation, sim.resources.footprint.conflict? = none →
      other.resources.footprint.conflict? = none →
      (∀ d : SafetyDimension, d.consumed other = d.consumed sim) →
      of other snapshot timestamp = of sim snapshot timestamp := by
  refine ⟨fun f hf => ⟨fun analysis hok => ?_, fun fault herror => ?_, fun conflict herror => ?_⟩,
    fun other hsim hother hconsumed => of_congr hconsumed (hother.trans hsim.symm) ..⟩
  · rw [of_rename hf, hok]
    rfl
  · rw [of_rename hf, herror]
    rfl
  · have hconflict := conflict?_of_error herror
    refine ⟨hconflict, ?_, conflict.message_rename f⟩
    exact (Footprint.conflict?_rename hf).trans (congrArg (Option.map _) hconflict)

end

/-- Two keys change names, in a footprint that repeats one of them; and three distinct keys are as
good as three others, whatever the declared instructions are. -/
theorem Analysis.keys_are_only_compared_of_exchange :
    let snapshot : Snapshot (Exact id id) := Exact.mainnet
    let exchange (key : String) : String := if key = "a" then "b" else "a"
    let withKeys (readOnly readWrite : List String) (instructions : UInt64) : Simulation :=
      { Simulation.zero with resources := ⟨⟨readOnly, readWrite⟩, instructions, 0, 0⟩ }
    of (withKeys ["b", "a", "a"] [] 0) snapshot ⟨0, 0⟩ =
        .error (.input (.footprintConflict (.duplicateReadOnly "a"))) ∧
      of ((withKeys ["b", "a", "a"] [] 0).rename exchange) snapshot ⟨0, 0⟩ =
        .error (.input (.footprintConflict (.duplicateReadOnly "b"))) ∧
      of (withKeys ["x", "y"] ["z"] 7) snapshot ⟨0, 0⟩ =
        of (withKeys ["b", "a"] ["c"] 0) snapshot ⟨0, 0⟩ := by
  intro snapshot exchange withKeys
  have hconflict : (⟨["b", "a", "a"], []⟩ : Footprint).conflict? =
      some (.duplicateReadOnly "a") := by
    simp [Footprint.conflict?, Footprint.collectWritten, Footprint.readConflict?]
  have hrepeated : of (withKeys ["b", "a", "a"] [] 0) snapshot ⟨0, 0⟩ =
      .error (.input (.footprintConflict (.duplicateReadOnly "a"))) :=
    of_eq_conflict Exact.validate_mainnet rfl hconflict _
  obtain ⟨hrename, -⟩ := keys_are_only_compared (withKeys ["b", "a", "a"] [] 0) snapshot ⟨0, 0⟩
  obtain ⟨-, hcongr⟩ := keys_are_only_compared (withKeys ["b", "a"] ["c"] 0) snapshot ⟨0, 0⟩
  have hexchange : Set.InjOn exchange
      {key | key ∈ (withKeys ["b", "a", "a"] [] 0).resources.footprint.keys} := by
    have hpairs : ∀ key ∈ ["b", "a", "a"], ∀ other ∈ ["b", "a", "a"],
        exchange key = exchange other → key = other := by decide
    exact fun key hkey other hother => hpairs key hkey other hother
  refine ⟨hrepeated, (hrename exchange hexchange).2.1 _ hrepeated, hcongr _ ?_ ?_ fun d => ?_⟩
  · exact Footprint.conflict?_eq_none_iff.2 (by decide)
  · exact Footprint.conflict?_eq_none_iff.2 (by decide)
  · cases d with
    | cpu | memory => rfl
    | ledger d => cases d <;> rfl

end ResourceMeter
