import Mathlib.Algebra.GroupWithZero.Nat
import ResourceMeter.Analysis

/-!
# Assessments in steps

The assessment of a simulation can be taken apart into steps: one for each cost, and one for what
follows from the costs. `AssessmentStage.Of` says that what is known at a stage belongs to one
snapshot and one time; every step that uses this snapshot and this time keeps it, so the steps lead
to what `Analysis.of` gives (`Assessment.results_eq`), and they come to an end
(`Assessment.exists_advance_lt`).
-/

namespace ResourceMeter

section
variable {α : Type} [Arithmetic α] [Exponential α]

/-- How far the assessment of a simulation has come. -/
inductive AssessmentStage (α : Type) where
  | fresh
  | cpuKnown (cpu : CpuCost α)
  | memoryKnown (cpu : CpuCost α) (memory : MemoryCost α)
  | costsKnown (costs : ResourceCosts α)
  | finished (result : Except (Fault α) (Analysis α))

namespace AssessmentStage

/-- One step of the assessment. -/
def advance (sim : Simulation) (snapshot : Snapshot α) (now : Timestamp) :
    AssessmentStage α → AssessmentStage α
  | .fresh =>
    match CpuCost.of sim snapshot with
    | .error fault => .finished (.error fault)
    | .ok cpu => .cpuKnown cpu
  | .cpuKnown cpu =>
    match MemoryCost.of sim snapshot with
    | .error fault => .finished (.error fault)
    | .ok memory => .memoryKnown cpu memory
  | .memoryKnown cpu memory =>
    match LedgerCost.of sim snapshot with
    | .error fault => .finished (.error fault)
    | .ok ledger => .costsKnown { cpu, memory, ledger }
  | .costsKnown costs => .finished (.ok (.ofCosts costs snapshot now))
  | .finished result => .finished result

/-- What is known at a stage is what the simulation costs against one snapshot, and the result is
the one for this snapshot and this time. -/
def Of (sim : Simulation) (snapshot : Snapshot α) (now : Timestamp) : AssessmentStage α → Prop
  | .fresh => True
  | .cpuKnown cpu => CpuCost.of sim snapshot = .ok cpu
  | .memoryKnown cpu memory =>
    CpuCost.of sim snapshot = .ok cpu ∧ MemoryCost.of sim snapshot = .ok memory
  | .costsKnown costs => ResourceCosts.of sim snapshot = .ok costs
  | .finished result => result = Analysis.of sim snapshot now

/-- A step keeps to the snapshot and the time. -/
theorem Of.advance {sim : Simulation} {snapshot : Snapshot α} {now : Timestamp}
    {stage : AssessmentStage α} (h : stage.Of sim snapshot now) :
    (stage.advance sim snapshot now).Of sim snapshot now := by
  unfold AssessmentStage.advance
  cases stage with
  | fresh =>
    dsimp only
    cases hcpu : CpuCost.of sim snapshot with
    | error fault => simp only [Of, Analysis.of, ResourceCosts.of, hcpu]
    | ok cpu => exact hcpu
  | cpuKnown cpu =>
    have hcpu : CpuCost.of sim snapshot = .ok cpu := h
    dsimp only
    cases hmemory : MemoryCost.of sim snapshot with
    | error fault => simp only [Of, Analysis.of, ResourceCosts.of, hcpu, hmemory]
    | ok memory => exact ⟨hcpu, hmemory⟩
  | memoryKnown cpu memory =>
    obtain ⟨hcpu, hmemory⟩ : CpuCost.of sim snapshot = .ok cpu ∧
      MemoryCost.of sim snapshot = .ok memory := h
    dsimp only
    cases hledger : LedgerCost.of sim snapshot with
    | error fault => simp only [Of, Analysis.of, ResourceCosts.of, hcpu, hmemory, hledger]
    | ok ledger => simp only [Of, ResourceCosts.of, hcpu, hmemory, hledger]
  | costsKnown costs =>
    have hcosts : ResourceCosts.of sim snapshot = .ok costs := h
    simp only [Of, Analysis.of, hcosts]
  | finished result => exact h

/-- The number of steps that the assessment can still take. -/
def stepsLeft : AssessmentStage α → Nat
  | .fresh => 4
  | .cpuKnown _ => 3
  | .memoryKnown _ _ => 2
  | .costsKnown _ => 1
  | .finished _ => 0

/-- A step takes an unfinished assessment on. -/
theorem stepsLeft_advance_lt (sim : Simulation) (snapshot : Snapshot α) (now : Timestamp)
    {stage : AssessmentStage α} (h : stage.stepsLeft ≠ 0) :
    (stage.advance sim snapshot now).stepsLeft < stage.stepsLeft := by
  unfold AssessmentStage.advance
  cases stage with
  | fresh => cases CpuCost.of sim snapshot <;> simp [stepsLeft]
  | cpuKnown cpu => cases MemoryCost.of sim snapshot <;> simp [stepsLeft]
  | memoryKnown cpu memory => cases LedgerCost.of sim snapshot <;> simp [stepsLeft]
  | costsKnown costs => simp [stepsLeft]
  | finished result => exact absurd rfl h

end AssessmentStage

/-- A simulation, with the stage of its assessment. -/
structure Assessment (α : Type) where
  sim : Simulation
  stage : AssessmentStage α

namespace Assessment

/-- One step of the assessment. -/
def advance (snapshot : Snapshot α) (now : Timestamp) (task : Assessment α) : Assessment α :=
  { task with stage := task.stage.advance task.sim snapshot now }

/-- The result, once it is known. -/
def result? (task : Assessment α) : Option (Except (Fault α) (Analysis α)) :=
  match task.stage with
  | .finished result => some result
  | _ => none

/-- The assessment has come to its stage with one snapshot and one time. -/
def Of (snapshot : Snapshot α) (now : Timestamp) (task : Assessment α) : Prop :=
  task.stage.Of task.sim snapshot now

omit [Arithmetic α] [Exponential α] in
/-- There is no result exactly as long as steps are left. -/
theorem result?_eq_none_iff {task : Assessment α} :
    task.result? = none ↔ task.stage.stepsLeft ≠ 0 := by
  unfold result?
  cases task.stage <;> simp [AssessmentStage.stepsLeft]

/-- When all assessments are finished, the results are those for the snapshot and the time, in the
order of the simulations. -/
theorem results_eq {snapshot : Snapshot α} {now : Timestamp} {tasks : List (Assessment α)}
    (h : ∀ task ∈ tasks, task.Of snapshot now) {results : List (Except (Fault α) (Analysis α))}
    (hresults : tasks.mapM result? = some results) :
    results = (tasks.map sim).map fun sim => Analysis.of sim snapshot now := by
  induction tasks generalizing results with
  | nil =>
    rw [List.mapM_nil] at hresults
    exact (Option.some.inj hresults).symm
  | cons task tasks ih =>
    rw [List.forall_mem_cons] at h
    rw [List.mapM_cons] at hresults
    obtain ⟨result, hresult, hlater⟩ := Option.bind_eq_some_iff.1 hresults
    obtain ⟨later, htasks, hcons⟩ := Option.bind_eq_some_iff.1 hlater
    cases Option.some.inj hcons
    have hhead : result = Analysis.of task.sim snapshot now := by
      obtain ⟨hof, -⟩ := h
      unfold Of at hof
      unfold result? at hresult
      cases hstage : task.stage with
      | finished found =>
        rw [hstage] at hof hresult
        cases Option.some.inj hresult
        exact hof
      | fresh | cpuKnown | memoryKnown | costsKnown => simp [hstage] at hresult
    rw [List.map_cons, List.map_cons, ← hhead, ← ih h.2 htasks]

/-- A step with one of the simulations leaves all of them at their places. -/
theorem map_sim_modify (snapshot : Snapshot α) (now : Timestamp) (tasks : List (Assessment α))
    (element : Nat) :
    (tasks.modify element (advance snapshot now)).map sim = tasks.map sim := by
  rcases Nat.lt_or_ge element tasks.length with hlt | hge
  · obtain ⟨before, task, behind, htasks, -, hmodify⟩ :=
      List.exists_of_modify (advance snapshot now) hlt
    rw [hmodify, htasks, List.map_append, List.map_append, List.map_cons, List.map_cons]
    rfl
  · rw [List.modify_eq_self hge]

/-- A step with one of the simulations keeps all of them to the snapshot and the time. -/
theorem of_modify {snapshot : Snapshot α} {now : Timestamp} {tasks : List (Assessment α)}
    (h : ∀ task ∈ tasks, task.Of snapshot now) (element : Nat) :
    ∀ task ∈ tasks.modify element (advance snapshot now), task.Of snapshot now := by
  rcases Nat.lt_or_ge element tasks.length with hlt | hge
  · obtain ⟨before, task, behind, htasks, -, hmodify⟩ :=
      List.exists_of_modify (advance snapshot now) hlt
    rw [htasks, List.forall_mem_append, List.forall_mem_cons] at h
    rw [hmodify, List.forall_mem_append, List.forall_mem_cons]
    exact ⟨h.1, AssessmentStage.Of.advance h.2.1, h.2.2⟩
  · rw [List.modify_eq_self hge]
    exact h

/-- As long as not all assessments are finished, there is one whose next step takes the batch on. -/
theorem exists_advance_lt (snapshot : Snapshot α) (now : Timestamp) {tasks : List (Assessment α)}
    (h : tasks.mapM result? = none) :
    ∃ element, ((tasks.modify element (advance snapshot now)).map (·.stage.stepsLeft)).sum <
      (tasks.map (·.stage.stepsLeft)).sum := by
  induction tasks with
  | nil => cases h
  | cons task tasks ih =>
    cases htask : task.result? with
    | none =>
      refine ⟨0, ?_⟩
      have hlt := AssessmentStage.stepsLeft_advance_lt task.sim snapshot now
        (result?_eq_none_iff.1 htask)
      rw [List.modify_zero_cons, List.map_cons, List.map_cons, List.sum_cons, List.sum_cons]
      exact Nat.add_lt_add_right hlt _
    | some result =>
      have htasks : tasks.mapM result? = none := by
        rw [List.mapM_cons, htask] at h
        cases hlater : tasks.mapM result? with
        | none => rfl
        | some later => rw [hlater] at h; cases h
      obtain ⟨element, hlt⟩ := ih htasks
      refine ⟨element + 1, ?_⟩
      rw [List.modify_succ_cons, List.map_cons, List.map_cons, List.sum_cons, List.sum_cons]
      exact Nat.add_lt_add_left hlt _

end Assessment

end

end ResourceMeter
