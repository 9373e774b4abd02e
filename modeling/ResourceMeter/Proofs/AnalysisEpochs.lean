import ResourceMeter.Proofs.Exact
import ResourceMeter.Proofs.SharedAnalyzers

/-!
# Every answer belongs to one epoch

`AnalysisCall.OneEpoch` says that the results of a call are those of one snapshot and one time, each
of its own simulation alone. `SharedAnalyzers.answers_are_one_epoch` states it of all runs of
analyzers and clients on one slot: the snapshot is the one that was in the slot when the call loaded
it, and the time is the one that the call took then, whatever happened in between. It also says that
every call can be brought to its end, and that the clients of the slot notice nothing.
-/

namespace ResourceMeter

section
variable {α : Type} [Arithmetic α] [Exponential α]

/-! ## Results of one epoch -/

namespace AnalysisCall

/-- The results of a call belong to one snapshot and one time. -/
structure OneEpoch (call : AnalysisCall) (snapshot : Snapshot α) (now : Timestamp)
    (results : List (Except (Fault α) (Analysis α))) : Prop where
  eq_answer : results = call.answer ⟨snapshot⟩ now
  length_eq : results.length = call.sims.length
  /-- Every simulation has its own result, at its own place. -/
  getElem?_eq : ∀ k : Nat, results[k]? = call.sims[k]?.map fun sim => Analysis.of sim snapshot now
  /-- With another simulation in the place of one, whether that one fails or not, only the result
  at this place is another. -/
  isolated : ∀ (k : Nat) (sim : Simulation),
    (⟨snapshot⟩ : SnapshotSlot α).analyzeBatch now (call.sims.set k sim) =
      results.set k (Analysis.of sim snapshot now)
  /-- All analyses have the same time and the same version tag. -/
  stamped : ∀ analysis, .ok analysis ∈ results →
    analysis.timestamp = now ∧ analysis.configVersion = snapshot.version
  /-- All parts of an analysis come from the one snapshot. -/
  unmixed : ∀ analysis, .ok analysis ∈ results → ∃ sim ∈ call.sims, ∃ costs,
    ResourceCosts.of sim snapshot = .ok costs ∧ analysis = .ofCosts costs snapshot now

/-- What a slot that nobody else uses answers belongs to one snapshot and one time. -/
theorem oneEpoch_answer (call : AnalysisCall) (snapshot : Snapshot α) (now : Timestamp) :
    call.OneEpoch snapshot now (call.answer ⟨snapshot⟩ now) := by
  have hunmixed : ∀ analysis, .ok analysis ∈ call.answer (⟨snapshot⟩ : SnapshotSlot α) now →
      ∃ sim ∈ call.sims, ∃ costs,
        ResourceCosts.of sim snapshot = .ok costs ∧ analysis = .ofCosts costs snapshot now := by
    intro analysis hmem
    rw [answer_eq] at hmem
    obtain ⟨sim, hsim, hof⟩ := List.mem_map.1 hmem
    unfold Analysis.of at hof
    cases hcosts : ResourceCosts.of sim snapshot with
    | error fault => rw [hcosts] at hof; cases hof
    | ok costs => rw [hcosts] at hof; cases hof; exact ⟨sim, hsim, costs, hcosts, rfl⟩
  refine ⟨rfl, ?_, fun k => ?_, fun k sim => ?_, fun analysis hmem => ?_, hunmixed⟩
  · rw [answer_eq, List.length_map]
  · rw [answer_eq, List.getElem?_map]
  · rw [answer_eq, ← List.map_set]
    rfl
  · obtain ⟨sim, -, costs, -, rfl⟩ := hunmixed analysis hmem
    exact ⟨rfl, rfl⟩

end AnalysisCall

namespace SharedAnalyzers

variable {κ ι : Type} [DecidableEq κ] [DecidableEq ι]

/-! ## Calls come to an end -/

/-- The number of turns that a call needs, at most. -/
def callTurns (call : AnalysisCall) : Nat :=
  4 * call.sims.length + 3

/-- The number of turns that the call in a phase still needs, at most. -/
def phaseTurns : CallPhase α → Nat
  | .idle => 0
  | .loaded call _ => 4 * call.sims.length + 2
  | .working _ _ _ tasks => (tasks.map (·.stage.stepsLeft)).sum + 1

/-- The number of turns that an analyzer still needs for all of its calls, at most. -/
def turnsLeft (analyzer : Analyzer α) : Nat :=
  phaseTurns analyzer.phase + (analyzer.calls.map callTurns).sum

omit [Exponential α] in
/-- An analyzer that needs no more turns has made all of its calls. -/
theorem eq_idle_of_turnsLeft {analyzer : Analyzer α} (h : turnsLeft analyzer = 0) :
    analyzer = ⟨[], .idle⟩ := by
  obtain ⟨calls, phase⟩ := analyzer
  obtain ⟨hphase, hcalls⟩ := Nat.add_eq_zero_iff.1 h
  cases phase with
  | loaded call snapshot => cases hphase
  | working call snapshot now tasks => cases hphase
  | idle =>
    cases calls with
    | nil => rfl
    | cons call calls =>
      rw [List.map_cons, List.sum_cons, callTurns] at hcalls
      omega

omit [DecidableEq κ] in
/-- An analyzer that needs turns has one that takes it on. -/
theorem exists_turnsLeft_lt (s : SharedAnalyzers κ ι α) (i : ι)
    (h : turnsLeft (s.analyzers i) ≠ 0) :
    ∃ element, turnsLeft ((s.work i element).analyzers i) < turnsLeft (s.analyzers i) := by
  have henter (analyzer : Analyzer α) : (s.enter i analyzer).analyzers i = analyzer :=
    Function.update_self ..
  unfold work
  rcases hi : s.analyzers i with ⟨calls, _ | ⟨call, snapshot⟩ | ⟨call, snapshot, now, tasks⟩⟩
  · cases calls with
    | nil =>
      rw [hi] at h
      exact absurd rfl h
    | cons call calls =>
      refine ⟨0, ?_⟩
      dsimp only
      rw [henter]
      simp only [turnsLeft, phaseTurns, callTurns, List.map_cons, List.sum_cons]
      omega
  · refine ⟨0, ?_⟩
    have hfresh : ((call.sims.map fun sim => (⟨sim, .fresh⟩ : Assessment α)).map
        (·.stage.stepsLeft)).sum = 4 * call.sims.length := by
      rw [List.map_map]
      show (call.sims.map fun _ => 4).sum = _
      rw [List.map_const', List.sum_replicate_nat, Nat.mul_comm]
    dsimp only
    rw [henter]
    simp only [turnsLeft, phaseTurns, hfresh]
    omega
  · dsimp only
    cases hresults : tasks.mapM Assessment.result? with
    | none =>
      -- Not every simulation takes the batch on, so the turn has to be for an unfinished one.
      obtain ⟨element, hlt⟩ := Assessment.exists_advance_lt snapshot now hresults
      refine ⟨element, ?_⟩
      dsimp only
      rw [henter]
      simp only [turnsLeft, phaseTurns]
      omega
    | some results =>
      refine ⟨0, ?_⟩
      have hanswer : (s.answer i calls call results).analyzers i = ⟨calls, .idle⟩ := henter _
      dsimp only
      rw [hanswer]
      simp only [turnsLeft, phaseTurns]
      omega

/-- With enough turns an analyzer makes all of its calls. -/
theorem exists_run_idle (s : SharedAnalyzers κ ι α) (i : ι) :
    ∃ elements : List Nat,
      (s.run (elements.map (.analyzer i))).analyzers i = ⟨[], .idle⟩ := by
  induction hn : turnsLeft (s.analyzers i) using Nat.strongRecOn generalizing s with
  | ind n ih =>
    by_cases hzero : n = 0
    · exact ⟨[], eq_idle_of_turnsLeft (hn.trans hzero)⟩
    · obtain ⟨element, hlt⟩ := exists_turnsLeft_lt s i (hn ▸ hzero)
      obtain ⟨elements, hidle⟩ := ih _ (hn ▸ hlt) (s.work i element) rfl
      exact ⟨element :: elements, hidle⟩

/-! ## Histories -/

/-- What analyzers see of a run along a schedule. -/
structure EpochHistory (s : SharedAnalyzers κ ι α) (calls : ι → List AnalysisCall)
    (schedule : List (Turn κ ι)) : Prop where
  /-- The results of an answer belong to the snapshot that was in the slot when the call began,
  behind the earlier answers to the analyzer, and to the time that the call took then. -/
  answers : ∀ earlier answer, earlier ++ [answer] <+: (s.run schedule).log →
    ∃ snapshot now, s.Epoch schedule answer.analyzer (answersTo answer.analyzer earlier)
      answer.call snapshot now ∧ answer.call.OneEpoch snapshot now answer.results
  /-- Every call of an analyzer is answered once and in its turn. -/
  transcript : ∀ i, answeredCalls i (s.run schedule).log ++
    ((s.run schedule).analyzers i).phase.call?.toList ++ ((s.run schedule).analyzers i).calls =
      calls i
  /-- Whatever has happened, an analyzer that gets enough turns gets all of its answers. -/
  completes : ∀ i, ∃ elements : List Nat,
    answeredCalls i ((s.run schedule).run (elements.map (.analyzer i))).log = calls i
  /-- Analyzers do not disturb the slot: its clients have the run that they have without them. -/
  undisturbed : (s.run schedule).shared = s.shared.run (schedule.filterMap Turn.client?)

/-- Every run of any number of analyzers and clients on a slot, whatever calls they make and in
whatever order their moves and those of the clock fall, has such a history. -/
theorem answers_are_one_epoch (slot : SnapshotSlot α) (clock : Timestamp)
    (replacements : κ → List (SlotCall α)) (calls : ι → List AnalysisCall)
    (schedule : List (Turn κ ι)) :
    EpochHistory (start slot clock replacements calls) calls schedule := by
  have h := Inv.run slot clock replacements calls schedule
  refine ⟨fun earlier answer hp => ?_, h.transcript, fun i => ?_, shared_run _ schedule⟩
  · obtain ⟨snapshot, now, hepoch, hresults⟩ := h.answers earlier answer hp
    exact ⟨snapshot, now, hepoch, hresults ▸ answer.call.oneEpoch_answer snapshot now⟩
  · obtain ⟨elements, hidle⟩ :=
      exists_run_idle ((start slot clock replacements calls).run schedule) i
    refine ⟨elements, ?_⟩
    have htranscript := (Inv.run slot clock replacements calls
      (schedule ++ elements.map (.analyzer i))).transcript i
    unfold run at htranscript hidle ⊢
    rw [List.foldl_append] at htranscript
    rw [hidle] at htranscript
    simpa [CallPhase.call?] using htranscript

/-- The snapshot is replaced and the clock goes on while a batch is assessed, the second simulation
first; the batch keeps to what it loaded, and the next call finds what is there now. -/
theorem answers_are_one_epoch_of_refreshed :
    let first : Snapshot (Exact (fun x => 1 + x) id) := Exact.mainnet
    let next := { first with version := "next" }
    let busy := { Simulation.zero with instructions := 1000000000 }
    let calls : Unit → List AnalysisCall := fun _ => [.batch [.zero, busy], .single busy]
    let s := start ⟨first⟩ ⟨0, 0⟩ (fun _ : Unit => [.replace next]) calls
    let turn : Nat → Turn Unit Unit := .analyzer ()
    let schedule := [turn 0, .client (), .clock ⟨5, 0⟩, turn 0, turn 1, turn 1, .client (),
      .clock ⟨9, 0⟩, turn 1, turn 0, turn 1, turn 0, turn 0, turn 0, turn 0, turn 0, turn 0,
      turn 0, turn 0, turn 0, turn 0, turn 0]
    ((s.run schedule).log.map fun answer => answer.results.map fun result =>
      result.toOption.map fun analysis => (analysis.timestamp, analysis.configVersion)) =
        [[some (⟨5, 0⟩, "mainnet-v20"), some (⟨5, 0⟩, "mainnet-v20")], [some (⟨9, 0⟩, "next")]] ∧
      EpochHistory s calls schedule := by
  intro first next busy calls s turn schedule
  exact ⟨by decide +kernel, answers_are_one_epoch _ _ _ _ _⟩

end SharedAnalyzers

end

end ResourceMeter
