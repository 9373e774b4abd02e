import Mathlib.Data.List.Forall2
import ResourceMeter.Proofs.SnapshotRoundTrip

/-!
# What a command finds in its files

A command uses a snapshot (`Command.SnapshotUsed`) or finds out why it cannot
(`Command.SnapshotRefused`), and a file holds a simulation (`Command.Holds`) or is refused
(`Command.SimulationRefused`). The lemmas `run_of_refused`, `run_of_unread`, `run_of_one` and
`run_of_several` say what analysing simulation files comes to in each case. The check that a slot
makes of its first snapshot is passed by every snapshot that was loaded (`slot_of_used`).
-/

namespace ResourceMeter

/-! ## Taking values in a row -/

/-- A result is there exactly if it remains when the reasons for faults are dropped. -/
theorem toOption_eq_some_iff {α ε : Type} {result : Except ε α} {value : α} :
    result.toOption = some value ↔ result = .ok value := by
  cases result with
  | error _ => exact ⟨nofun, nofun⟩
  | ok found => exact ⟨fun h => congrArg _ (Option.some.inj h), fun h => h ▸ rfl⟩

section
variable {α β ε : Type} {f : α → Except ε β}

/-- A row of values is there exactly if each of them is. -/
theorem mapM_eq_ok_iff {items : List α} {values : List β} :
    items.mapM f = .ok values ↔
      List.Forall₂ (fun item value => f item = .ok value) items values := by
  induction items generalizing values with
  | nil =>
    rw [List.mapM_nil, List.forall₂_nil_left_iff]
    exact ⟨fun h => (Except.ok.inj h).symm, fun h => h ▸ rfl⟩
  | cons item items ih =>
    rw [List.mapM_cons, List.forall₂_cons_left_iff]
    cases hitem : f item with
    | error error => exact ⟨nofun, by rintro ⟨_, _, h, -⟩; cases h⟩
    | ok value =>
      cases hitems : items.mapM f with
      | error error =>
        refine ⟨nofun, ?_⟩
        rintro ⟨_, later, -, hlater, -⟩
        rw [← ih, hitems] at hlater
        cases hlater
      | ok later =>
        constructor
        · intro h
          exact ⟨value, later, rfl, ih.1 hitems, (Except.ok.inj h).symm⟩
        · rintro ⟨value', later', hvalue, hlater, rfl⟩
          rw [← ih, hitems] at hlater
          cases hvalue
          cases hlater
          rfl

/-- A row of values fails with the first of them that does. -/
theorem mapM_eq_error_iff {items : List α} {error : ε} :
    items.mapM f = .error error ↔ ∃ before item behind, items = before ++ item :: behind ∧
      (∀ earlier ∈ before, ∃ value, f earlier = .ok value) ∧ f item = .error error := by
  induction items with
  | nil => exact ⟨nofun, by rintro ⟨before, item, behind, h, -⟩; simp at h⟩
  | cons item items ih =>
    rw [List.mapM_cons]
    cases hitem : f item with
    | error found =>
      constructor
      · intro h
        cases h
        exact ⟨[], item, items, rfl, nofun, hitem⟩
      · rintro ⟨before, item', behind, hitems, hbefore, herror⟩
        cases before with
        | nil =>
          cases hitems
          rw [hitem] at herror
          cases herror
          rfl
        | cons first before =>
          cases hitems
          obtain ⟨value, hvalue⟩ := hbefore item (List.mem_cons_self ..)
          rw [hitem] at hvalue
          cases hvalue
    | ok value =>
      have hlater : (do let v ← Except.ok value; let vs ← items.mapM f; pure (v :: vs)) =
          Except.error error ↔ items.mapM f = .error error := by
        cases items.mapM f with
        | error found => exact Iff.rfl
        | ok later => exact ⟨nofun, nofun⟩
      rw [hlater, ih]
      constructor
      · rintro ⟨before, item', behind, rfl, hbefore, herror⟩
        exact ⟨item :: before, item', behind, rfl,
          List.forall_mem_cons.2 ⟨⟨value, hitem⟩, hbefore⟩, herror⟩
      · rintro ⟨before, item', behind, hitems, hbefore, herror⟩
        cases before with
        | nil =>
          cases hitems
          rw [hitem] at herror
          cases herror
        | cons first before =>
          cases hitems
          exact ⟨before, item', behind, rfl, (List.forall_mem_cons.1 hbefore).2, herror⟩

end

/-- There is a row of values exactly if there is a value for each item. -/
theorem exists_forall₂_iff {α β : Type} {R : α → β → Prop} {items : List α} :
    (∃ values, List.Forall₂ R items values) ↔ ∀ item ∈ items, ∃ value, R item value := by
  induction items with
  | nil => exact ⟨fun _ => nofun, fun _ => ⟨[], .nil⟩⟩
  | cons item items ih =>
    rw [List.forall_mem_cons, ← ih]
    constructor
    · rintro ⟨_, hrow⟩
      obtain ⟨value, values, hvalue, hvalues, -⟩ := List.forall₂_cons_left_iff.1 hrow
      exact ⟨⟨value, hvalue⟩, values, hvalues⟩
    · rintro ⟨⟨value, hvalue⟩, values, hvalues⟩
      exact ⟨value :: values, .cons hvalue hvalues⟩

namespace Command

/-! ## Files -/

/-- The snapshot that a command uses: that of the main network, or that which is read from the file
that is named. -/
inductive SnapshotUsed (files : Files) : Option String → Snapshot Float → Prop
  | standard : SnapshotUsed files none .mainnet
  | file {path text snapshot} : files path = .ok text → Snapshot.ofText text = .ok snapshot →
      SnapshotUsed files (some path) snapshot

/-- Why a command has no snapshot: the file cannot be read, or its text is refused. -/
inductive SnapshotRefused (files : Files) : Option String → Fault Float → Prop
  | unread {path cause} : files path = .error cause →
      SnapshotRefused files (some path) (.configuration (.unreadFile path cause))
  | unsound {path text fault} : files path = .ok text → Snapshot.ofText text = .error fault →
      SnapshotRefused files (some path) fault

/-- A file holds a simulation. -/
def Holds (files : Files) (path : String) (sim : Simulation) : Prop :=
  ∃ text, files path = .ok text ∧ (Simulation.ofText text : Except (Fault Float) _) = .ok sim

/-- Why a command has no simulation: the file cannot be read, or its text holds none. -/
inductive SimulationRefused (files : Files) (path : String) : Failure → Prop
  | unread {cause} : files path = .error cause →
      SimulationRefused files path (.unreadSimulation path cause)
  | malformed {text cause} : files path = .ok text → Simulation.ofText text = .error cause →
      SimulationRefused files path (.invalidSimulation path cause)

section
variable {files : Files} {config : Option String} {path : String} {snapshot : Snapshot Float}

/-- A snapshot is loaded exactly if the command uses it. -/
theorem loadSnapshot_eq_ok_iff :
    loadSnapshot files config = .ok snapshot ↔ SnapshotUsed files config snapshot := by
  unfold loadSnapshot
  cases config with
  | none =>
    constructor
    · intro h
      cases h
      exact .standard
    · rintro ⟨⟩
      rfl
  | some path =>
    dsimp only
    constructor
    · intro h
      cases hfile : files path with
      | error cause => rw [hfile] at h; cases h
      | ok text => rw [hfile] at h; exact .file hfile h
    · rintro (_ | ⟨hfile, htext⟩)
      rw [hfile]
      exact htext

/-- A command uses one snapshot. -/
theorem SnapshotUsed.unique {other : Snapshot Float} (h : SnapshotUsed files config snapshot)
    (hother : SnapshotUsed files config other) : snapshot = other :=
  Except.ok.inj ((loadSnapshot_eq_ok_iff.2 h).symm.trans (loadSnapshot_eq_ok_iff.2 hother))

/-- Loading the snapshot fails exactly if it is refused. -/
theorem loadSnapshot_eq_error_iff {fault : Fault Float} :
    loadSnapshot files config = .error fault ↔ SnapshotRefused files config fault := by
  unfold loadSnapshot
  cases config with
  | none => exact ⟨nofun, nofun⟩
  | some path =>
    dsimp only
    constructor
    · intro h
      cases hfile : files path with
      | error cause => rw [hfile] at h; cases h; exact .unread hfile
      | ok text => rw [hfile] at h; exact .unsound hfile h
    · rintro (hfile | ⟨hfile, htext⟩)
      · rw [hfile]
      · rw [hfile]
        exact htext

/-- A simulation is loaded exactly if the file holds it. -/
theorem loadSimulation_eq_ok_iff {sim : Simulation} :
    loadSimulation files path = .ok sim ↔ Holds files path sim := by
  unfold loadSimulation Holds
  cases hfile : files path with
  | error cause => exact ⟨nofun, by rintro ⟨_, h, -⟩; cases h⟩
  | ok text =>
    simp only [Except.ok.injEq, exists_eq_left']
    cases (Simulation.ofText text : Except (Fault Float) Simulation) with
    | error cause => exact ⟨nofun, nofun⟩
    | ok found => simp

/-- Loading a simulation fails exactly if it is refused. -/
theorem loadSimulation_eq_error_iff {failure : Failure} :
    loadSimulation files path = .error failure ↔ SimulationRefused files path failure := by
  unfold loadSimulation
  cases hfile : files path with
  | error cause =>
    constructor
    · intro h
      cases h
      exact .unread hfile
    · rintro (h | ⟨h, -⟩)
      · rw [hfile] at h
        cases h
        rfl
      · rw [hfile] at h
        cases h
  | ok text =>
    dsimp only
    cases htext : (Simulation.ofText text : Except (Fault Float) Simulation) with
    | error cause =>
      constructor
      · intro h
        cases h
        exact .malformed hfile htext
      · rintro (h | ⟨h, hcause⟩)
        · rw [hfile] at h
          cases h
        · rw [hfile] at h
          cases h
          rw [htext] at hcause
          cases hcause
          rfl
    | ok sim =>
      refine ⟨nofun, ?_⟩
      rintro (h | ⟨h, hcause⟩)
      · rw [hfile] at h
        cases h
      · rw [hfile] at h
        cases h
        rw [htext] at hcause
        cases hcause

/-- All simulations are loaded exactly if each file holds its own. -/
theorem loadSimulations_eq_ok_iff {paths : List String} {sims : List Simulation} :
    paths.mapM (loadSimulation files) = .ok sims ↔ List.Forall₂ (Holds files) paths sims := by
  rw [mapM_eq_ok_iff]
  simp only [loadSimulation_eq_ok_iff]

/-- The first simulation that cannot be loaded is the reason why not all are. -/
theorem loadSimulations_eq_error_iff {paths : List String} {failure : Failure} :
    paths.mapM (loadSimulation files) = .error failure ↔
      ∃ before path behind, paths = before ++ path :: behind ∧
        (∀ earlier ∈ before, ∃ sim, Holds files earlier sim) ∧
        SimulationRefused files path failure := by
  rw [mapM_eq_error_iff]
  simp only [loadSimulation_eq_ok_iff, loadSimulation_eq_error_iff]

/-- A slot takes every snapshot that a command uses. -/
theorem slot_of_used (h : SnapshotUsed files config snapshot) :
    SnapshotSlot.of snapshot = .ok ⟨snapshot⟩ := by
  unfold SnapshotSlot.of
  rw [Snapshot.validate_of_loadSnapshot (loadSnapshot_eq_ok_iff.2 h)]
  rfl

end

/-! ## Runs -/

section
variable {files : Files} {config : Option String} {snapshot : Snapshot Float} {now : Timestamp}
  {style : Style} {failOnViolation : Bool} {paths : List String}

/-- Without a snapshot nothing is printed. -/
theorem run_of_refused {fault : Fault Float} (h : SnapshotRefused files config fault) :
    run files now style (.analyze paths config failOnViolation) = ⟨"", some (.fault fault)⟩ := by
  show analyzeFiles files now style paths config failOnViolation = _
  unfold analyzeFiles
  rw [loadSnapshot_eq_error_iff.2 h]

/-- Without all of the simulations nothing is printed. -/
theorem run_of_unread (hused : SnapshotUsed files config snapshot) {failure : Failure}
    (h : paths.mapM (loadSimulation files) = .error failure) :
    run files now style (.analyze paths config failOnViolation) = ⟨"", some failure⟩ := by
  show analyzeFiles files now style paths config failOnViolation = _
  unfold analyzeFiles
  rw [loadSnapshot_eq_ok_iff.2 hused]
  dsimp only
  rw [slot_of_used hused]
  dsimp only
  rw [h]

/-- The only simulation is analysed by itself. -/
theorem run_of_one (hused : SnapshotUsed files config snapshot) {path : String} {sim : Simulation}
    (h : Holds files path sim) :
    run files now style (.analyze [path] config failOnViolation) =
      analyzeOne ⟨snapshot⟩ now style failOnViolation path sim := by
  show analyzeFiles files now style [path] config failOnViolation = _
  unfold analyzeFiles
  rw [loadSnapshot_eq_ok_iff.2 hused]
  dsimp only
  rw [slot_of_used hused]
  dsimp only
  rw [loadSimulations_eq_ok_iff.2 (.cons h .nil)]
  rfl

/-- Simulations that are not one are analysed together. -/
theorem run_of_several (hused : SnapshotUsed files config snapshot) {sims : List Simulation}
    (h : List.Forall₂ (Holds files) paths sims) (hlength : paths.length ≠ 1) :
    run files now style (.analyze paths config failOnViolation) =
      analyzeSeveral ⟨snapshot⟩ now style failOnViolation paths sims := by
  show analyzeFiles files now style paths config failOnViolation = _
  unfold analyzeFiles
  rw [loadSnapshot_eq_ok_iff.2 hused]
  dsimp only
  rw [slot_of_used hused]
  dsimp only
  rw [loadSimulations_eq_ok_iff.2 h]
  rw [h.length_eq] at hlength
  match sims with
  | [] => rfl
  | [sim] => exact absurd rfl hlength
  | _ :: _ :: _ => rfl

end

end Command

end ResourceMeter
