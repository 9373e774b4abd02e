import Mathlib.Data.List.Induction
import ResourceMeter.Analyzer
import ResourceMeter.Proofs.AssessmentSteps
import ResourceMeter.Proofs.SharedSlot

/-!
# Analyzers on a shared slot

Any number of analyzers make calls on a slot while clients replace the snapshot in it. A call loads
the snapshot, takes the time, assesses its simulations and is answered when all of them are
finished. The simulations of a batch are assessed in any order and step by step. Between any two of
these moves clients, other analyzers and the clock may move; `SharedAnalyzers.run` over all
schedules is every interleaving.

`SharedAnalyzers.Works` says what one move of an analyzer can do. `SharedAnalyzers.Epoch` says where
in a run a call got its snapshot and its time, and `SharedAnalyzers.Inv` what every move keeps: an
answer is what `SnapshotSlot.analyze` or `SnapshotSlot.analyzeBatch` gives for these two.
-/

namespace ResourceMeter

section
variable {α : Type} [Arithmetic α] [Exponential α]

/-! ## Calls and their answers -/

/-- A call of an analyzer. -/
inductive AnalysisCall where
  | single (sim : Simulation)
  | batch (sims : List Simulation)

namespace AnalysisCall

/-- The simulations that the call is about. -/
def sims : AnalysisCall → List Simulation
  | .single sim => [sim]
  | .batch sims => sims

/-- The results of the call on a slot that nobody else uses. -/
def answer (slot : SnapshotSlot α) (now : Timestamp) :
    AnalysisCall → List (Except (Fault α) (Analysis α))
  | .single sim => [slot.analyze now sim]
  | .batch sims => slot.analyzeBatch now sims

/-- The results are those of the simulations, one by one. -/
theorem answer_eq (slot : SnapshotSlot α) (now : Timestamp) (call : AnalysisCall) :
    call.answer slot now = call.sims.map fun sim => Analysis.of sim slot.current now := by
  cases call <;> rfl

end AnalysisCall

/-! ## Moves -/

/-- Where an analyzer is in the call that it is making. -/
inductive CallPhase (α : Type) [Arithmetic α] where
  | idle
  | loaded (call : AnalysisCall) (snapshot : Snapshot α)
  | working (call : AnalysisCall) (snapshot : Snapshot α) (now : Timestamp)
      (tasks : List (Assessment α))

/-- The call that is being made. -/
def CallPhase.call? : CallPhase α → Option AnalysisCall
  | .idle => none
  | .loaded call _ => some call
  | .working call _ _ _ => some call

/-- An analyzer, with the calls that it makes after the present one. -/
structure Analyzer (α : Type) [Arithmetic α] where
  calls : List AnalysisCall
  phase : CallPhase α

/-- An answer to a call of an analyzer. -/
structure AnalyzerAnswer (ι α : Type) [Arithmetic α] where
  analyzer : ι
  call : AnalysisCall
  results : List (Except (Fault α) (Analysis α))

/-- Clients `κ` and analyzers `ι` on one slot, with a clock and the answers to the analyzers, the
oldest first. -/
structure SharedAnalyzers (κ ι α : Type) [Arithmetic α] where
  shared : SharedSlot κ α
  clock : Timestamp
  analyzers : ι → Analyzer α
  log : List (AnalyzerAnswer ι α)

/-- Whose turn it is. An analyzer that assesses several simulations takes a step with one of them,
and the clock may go anywhere. -/
inductive Turn (κ ι : Type) where
  | client (c : κ)
  | analyzer (i : ι) (element : Nat)
  | clock (now : Timestamp)

/-- The client whose turn it is. -/
def Turn.client? {κ ι : Type} : Turn κ ι → Option κ
  | .client c => some c
  | .analyzer _ _ => none
  | .clock _ => none

namespace SharedAnalyzers

/-- The slot before any call, with the calls that clients and analyzers are going to make. -/
def start {κ ι : Type} (slot : SnapshotSlot α) (clock : Timestamp)
    (replacements : κ → List (SlotCall α)) (calls : ι → List AnalysisCall) :
    SharedAnalyzers κ ι α :=
  ⟨.start slot replacements, clock, fun i => ⟨calls i, .idle⟩, []⟩

/-- The answers to one analyzer. -/
def answersTo {ι : Type} [DecidableEq ι] (i : ι) (log : List (AnalyzerAnswer ι α)) :
    List (AnalyzerAnswer ι α) :=
  log.filter (·.analyzer = i)

variable {κ ι : Type} [DecidableEq ι]

/-- An analyzer goes on to another state. -/
def enter (s : SharedAnalyzers κ ι α) (i : ι) (analyzer : Analyzer α) : SharedAnalyzers κ ι α :=
  { s with analyzers := Function.update s.analyzers i analyzer }

/-- An analyzer gets its answer and goes on to the calls behind. -/
def answer (s : SharedAnalyzers κ ι α) (i : ι) (calls : List AnalysisCall) (call : AnalysisCall)
    (results : List (Except (Fault α) (Analysis α))) : SharedAnalyzers κ ι α :=
  { s.enter i ⟨calls, .idle⟩ with log := s.log ++ [⟨i, call, results⟩] }

/-- One move of an analyzer. It loads the snapshot, then takes the time, then takes a step with one
of the simulations, until all of them are finished. Only the first of these moves looks at the
slot. -/
def work (s : SharedAnalyzers κ ι α) (i : ι) (element : Nat) : SharedAnalyzers κ ι α :=
  match (s.analyzers i).phase, (s.analyzers i).calls with
  | .idle, [] => s
  | .idle, call :: calls => s.enter i ⟨calls, .loaded call s.shared.slot.current⟩
  | .loaded call snapshot, calls =>
    s.enter i ⟨calls, .working call snapshot s.clock (call.sims.map (⟨·, .fresh⟩))⟩
  | .working call snapshot now tasks, calls =>
    match tasks.mapM Assessment.result? with
    | some results => s.answer i calls call results
    | none =>
      s.enter i ⟨calls, .working call snapshot now (tasks.modify element (.advance snapshot now))⟩

/-- The states that one move of an analyzer leads to, each with the reason for it. -/
inductive Works (s : SharedAnalyzers κ ι α) (i : ι) : SharedAnalyzers κ ι α → Prop
  | idle : s.analyzers i = ⟨[], .idle⟩ → Works s i s
  | loaded {call calls} : s.analyzers i = ⟨call :: calls, .idle⟩ →
      Works s i (s.enter i ⟨calls, .loaded call s.shared.slot.current⟩)
  | timed {call snapshot calls} : s.analyzers i = ⟨calls, .loaded call snapshot⟩ →
      Works s i
        (s.enter i ⟨calls, .working call snapshot s.clock (call.sims.map (⟨·, .fresh⟩))⟩)
  | advanced {call snapshot now tasks calls} (element : Nat) :
      s.analyzers i = ⟨calls, .working call snapshot now tasks⟩ →
      Works s i (s.enter i
        ⟨calls, .working call snapshot now (tasks.modify element (.advance snapshot now))⟩)
  | answered {call snapshot now tasks calls results} :
      s.analyzers i = ⟨calls, .working call snapshot now tasks⟩ →
      tasks.mapM Assessment.result? = some results → Works s i (s.answer i calls call results)

/-- A move of an analyzer does one of these things and nothing else. -/
theorem works (s : SharedAnalyzers κ ι α) (i : ι) (element : Nat) :
    Works s i (s.work i element) := by
  unfold work
  rcases h : s.analyzers i with ⟨calls, _ | ⟨call, snapshot⟩ | ⟨call, snapshot, now, tasks⟩⟩
  · cases calls with
    | nil => exact .idle h
    | cons call calls => exact .loaded h
  · exact .timed h
  · dsimp only
    cases hresults : tasks.mapM Assessment.result? with
    | none => exact .advanced element h
    | some results => exact .answered h hresults

/-- An analyzer leaves the slot to the clients. -/
theorem Works.shared_eq {s t : SharedAnalyzers κ ι α} {i : ι} (h : Works s i t) :
    t.shared = s.shared := by
  cases h <;> rfl

variable [DecidableEq κ]

/-- One move. -/
def move (s : SharedAnalyzers κ ι α) : Turn κ ι → SharedAnalyzers κ ι α
  | .client c => { s with shared := s.shared.move c }
  | .analyzer i element => s.work i element
  | .clock now => { s with clock := now }

/-- The moves of a schedule, one after the other. -/
def run (s : SharedAnalyzers κ ι α) (schedule : List (Turn κ ι)) : SharedAnalyzers κ ι α :=
  schedule.foldl move s

/-- A run that goes on by one move. -/
theorem run_concat (s : SharedAnalyzers κ ι α) (schedule : List (Turn κ ι)) (turn : Turn κ ι) :
    s.run (schedule ++ [turn]) = (s.run schedule).move turn := by
  unfold run
  rw [List.foldl_concat]

/-- Without the turns of analyzers and clock the clients make the same moves on the slot. -/
theorem shared_run (s : SharedAnalyzers κ ι α) (schedule : List (Turn κ ι)) :
    (s.run schedule).shared = s.shared.run (schedule.filterMap Turn.client?) := by
  induction schedule generalizing s with
  | nil => rfl
  | cons turn schedule ih =>
    show ((s.move turn).run schedule).shared = _
    rw [ih]
    cases turn with
    | client c => rfl
    | clock now => rfl
    | analyzer i element =>
      show (s.work i element).shared.run _ = _
      rw [(s.works i element).shared_eq]
      rfl

/-! ## Where a call got its snapshot and its time -/

/-- In the run along a schedule, analyzer `i` began a call when it had the answers `given` and the
snapshot was in the slot; since then it has not had a turn. -/
def Loaded (s : SharedAnalyzers κ ι α) (schedule : List (Turn κ ι)) (i : ι)
    (given : List (AnalyzerAnswer ι α)) (call : AnalysisCall) (snapshot : Snapshot α) : Prop :=
  ∃ before element since, schedule = before ++ .analyzer i element :: since ∧
    (∀ element, .analyzer i element ∉ since) ∧
    (∃ calls, (s.run before).analyzers i = ⟨call :: calls, .idle⟩) ∧
    answersTo i (s.run before).log = given ∧ (s.run before).shared.slot.current = snapshot

/-- In the run along a schedule, analyzer `i` began a call when it had the answers `given` and the
snapshot was in the slot, and it took the time at its next turn. -/
def Epoch (s : SharedAnalyzers κ ι α) (schedule : List (Turn κ ι)) (i : ι)
    (given : List (AnalyzerAnswer ι α)) (call : AnalysisCall) (snapshot : Snapshot α)
    (now : Timestamp) : Prop :=
  ∃ before element since, schedule = before ++ .analyzer i element :: since ∧
    s.Loaded before i given call snapshot ∧ (s.run before).clock = now

section
variable {s : SharedAnalyzers κ ι α} {schedule : List (Turn κ ι)} {i : ι}
  {given : List (AnalyzerAnswer ι α)} {call : AnalysisCall} {snapshot : Snapshot α}
  {now : Timestamp}

/-- What was loaded stays loaded while others move. -/
theorem Loaded.concat (h : s.Loaded schedule i given call snapshot) {turn : Turn κ ι}
    (hturn : ∀ element, turn ≠ .analyzer i element) :
    s.Loaded (schedule ++ [turn]) i given call snapshot := by
  obtain ⟨before, element, since, rfl, hsince, hloaded⟩ := h
  refine ⟨before, element, since ++ [turn], by simp, fun element hmem => ?_, hloaded⟩
  rcases List.mem_append.1 hmem with hmem | hmem
  · exact hsince element hmem
  · exact hturn element (List.mem_singleton.1 hmem).symm

/-- Whatever happens later, a call has its snapshot and its time. -/
theorem Epoch.concat (h : s.Epoch schedule i given call snapshot now) (turn : Turn κ ι) :
    s.Epoch (schedule ++ [turn]) i given call snapshot now := by
  obtain ⟨before, element, since, rfl, hepoch⟩ := h
  exact ⟨before, element, since ++ [turn], by simp, hepoch⟩

end

/-! ## What every move keeps -/

/-- What an analyzer holds in a phase of its call comes from the turns of the call. -/
def Traced (s : SharedAnalyzers κ ι α) (schedule : List (Turn κ ι)) (i : ι)
    (given : List (AnalyzerAnswer ι α)) : CallPhase α → Prop
  | .idle => True
  | .loaded call snapshot => s.Loaded schedule i given call snapshot
  | .working call snapshot now tasks =>
    s.Epoch schedule i given call snapshot now ∧ tasks.map Assessment.sim = call.sims ∧
      ∀ task ∈ tasks, task.Of snapshot now

/-- What analyzers hold stays traced while others move. -/
theorem Traced.concat {s : SharedAnalyzers κ ι α} {schedule : List (Turn κ ι)} {i : ι}
    {given : List (AnalyzerAnswer ι α)} {phase : CallPhase α}
    (h : s.Traced schedule i given phase) {turn : Turn κ ι}
    (hturn : ∀ element, turn ≠ .analyzer i element) :
    s.Traced (schedule ++ [turn]) i given phase := by
  cases phase with
  | idle => exact h
  | loaded call snapshot => exact Loaded.concat h hturn
  | working call snapshot now tasks => exact ⟨h.1.concat turn, h.2⟩

/-- The calls of an analyzer that a log answers. -/
def answeredCalls (i : ι) (log : List (AnalyzerAnswer ι α)) : List AnalysisCall :=
  (answersTo i log).map AnalyzerAnswer.call

/-- What holds behind every schedule of a run that starts with idle analyzers. -/
structure Inv (s : SharedAnalyzers κ ι α) (calls : ι → List AnalysisCall)
    (schedule : List (Turn κ ι)) : Prop where
  traced : ∀ i, s.Traced schedule i (answersTo i (s.run schedule).log)
    ((s.run schedule).analyzers i).phase
  /-- Every answer is that of an undisturbed slot, for the snapshot and the time of its call. -/
  answers : ∀ earlier answer, earlier ++ [answer] <+: (s.run schedule).log →
    ∃ snapshot now, s.Epoch schedule answer.analyzer (answersTo answer.analyzer earlier)
      answer.call snapshot now ∧ answer.results = answer.call.answer ⟨snapshot⟩ now
  /-- Every call of an analyzer is answered once and in its turn. -/
  transcript : ∀ i, answeredCalls i (s.run schedule).log ++
    ((s.run schedule).analyzers i).phase.call?.toList ++ ((s.run schedule).analyzers i).calls =
      calls i

section
variable {s : SharedAnalyzers κ ι α} {calls : ι → List AnalysisCall} {schedule : List (Turn κ ι)}

/-- A move that no analyzer makes keeps everything. -/
theorem Inv.concat_other (h : Inv s calls schedule) {turn : Turn κ ι}
    (hturn : ∀ i element, turn ≠ .analyzer i element)
    (hanalyzers : (s.run (schedule ++ [turn])).analyzers = (s.run schedule).analyzers)
    (hlog : (s.run (schedule ++ [turn])).log = (s.run schedule).log) :
    Inv s calls (schedule ++ [turn]) where
  traced i := by
    rw [hanalyzers, hlog]
    exact (h.traced i).concat (hturn i)
  answers earlier answer hp := by
    rw [hlog] at hp
    obtain ⟨snapshot, now, hepoch, hresults⟩ := h.answers earlier answer hp
    exact ⟨snapshot, now, hepoch.concat turn, hresults⟩
  transcript i := by
    rw [hanalyzers, hlog]
    exact h.transcript i

/-- An analyzer that goes on to another phase of the same call, or begins the next one, keeps
everything if what it holds now is traced. -/
theorem Inv.enter (h : Inv s calls schedule) {i : ι} {element : Nat} {analyzer : Analyzer α}
    (hrun : (s.run schedule).work i element = (s.run schedule).enter i analyzer)
    (hcalls : analyzer.phase.call?.toList ++ analyzer.calls =
      ((s.run schedule).analyzers i).phase.call?.toList ++ ((s.run schedule).analyzers i).calls)
    (htraced : s.Traced (schedule ++ [.analyzer i element]) i
      (answersTo i (s.run schedule).log) analyzer.phase) :
    Inv s calls (schedule ++ [.analyzer i element]) := by
  have hnext : s.run (schedule ++ [.analyzer i element]) = (s.run schedule).enter i analyzer := by
    rw [run_concat]
    exact hrun
  refine ⟨fun j => ?_, fun earlier answer hp => ?_, fun j => ?_⟩
  · rw [hnext]
    by_cases hji : j = i
    · subst hji
      simpa [SharedAnalyzers.enter] using htraced
    · simpa [SharedAnalyzers.enter, hji] using
        (h.traced j).concat fun e he => hji (by cases he; rfl)
  · rw [hnext] at hp
    obtain ⟨snapshot, now, hepoch, hresults⟩ := h.answers earlier answer hp
    exact ⟨snapshot, now, hepoch.concat _, hresults⟩
  · rw [hnext, ← h.transcript j]
    by_cases hji : j = i
    · subst hji
      simp [SharedAnalyzers.enter, hcalls]
    · simp [SharedAnalyzers.enter, hji]

/-- An answer of an undisturbed slot, for the snapshot and the time of the call, keeps all that. -/
theorem Inv.answer (h : Inv s calls schedule) {i : ι} {element : Nat} {later : List AnalysisCall}
    {call : AnalysisCall} {snapshot : Snapshot α} {now : Timestamp} {tasks : List (Assessment α)}
    (hi : (s.run schedule).analyzers i = ⟨later, .working call snapshot now tasks⟩)
    (hrun : (s.run schedule).work i element =
      (s.run schedule).answer i later call (call.answer ⟨snapshot⟩ now)) :
    Inv s calls (schedule ++ [.analyzer i element]) := by
  have hnext : s.run (schedule ++ [.analyzer i element]) =
      (s.run schedule).answer i later call (call.answer ⟨snapshot⟩ now) := by
    rw [run_concat]
    exact hrun
  have hepoch : s.Epoch schedule i (answersTo i (s.run schedule).log) call snapshot now := by
    have htraced := h.traced i
    rw [hi] at htraced
    exact htraced.1
  refine ⟨fun j => ?_, fun earlier answer hp => ?_, fun j => ?_⟩
  · rw [hnext]
    by_cases hji : j = i
    · subst hji
      simp [SharedAnalyzers.answer, SharedAnalyzers.enter, Traced]
    · -- Another analyzer does not see the answer, so what it holds is traced to the same turns.
      have hlog : answersTo j ((s.run schedule).log ++ [⟨i, call, call.answer ⟨snapshot⟩ now⟩]) =
          answersTo j (s.run schedule).log := by
        simp [answersTo, Ne.symm hji]
      have hother : ∀ e, (.analyzer i element : Turn κ ι) ≠ .analyzer j e :=
        fun e he => hji (by cases he; rfl)
      have htraced := (h.traced j).concat hother
      simpa [SharedAnalyzers.answer, SharedAnalyzers.enter, hji, hlog] using htraced
  · rw [hnext] at hp
    rcases List.prefix_concat_iff.1 hp with heq | hp
    · obtain ⟨rfl, hlast⟩ := List.append_inj' heq rfl
      cases List.singleton_inj.1 hlast
      exact ⟨snapshot, now, hepoch.concat _, rfl⟩
    · obtain ⟨snapshot', now', hepoch', hresults⟩ := h.answers earlier answer hp
      exact ⟨snapshot', now', hepoch'.concat _, hresults⟩
  · rw [hnext, ← h.transcript j]
    by_cases hji : j = i
    · subst hji
      simp [SharedAnalyzers.answer, SharedAnalyzers.enter, answeredCalls, answersTo, hi,
        CallPhase.call?]
    · simp [SharedAnalyzers.answer, SharedAnalyzers.enter, answeredCalls, answersTo, hji,
        Ne.symm hji]

/-- A move of an analyzer keeps everything. -/
theorem Inv.works (h : Inv s calls schedule) {i : ι} {element : Nat} {t : SharedAnalyzers κ ι α}
    (hrun : (s.run schedule).work i element = t) (hw : Works (s.run schedule) i t) :
    Inv s calls (schedule ++ [.analyzer i element]) := by
  have htraced := h.traced i
  cases hw with
  | idle hi =>
    -- Nothing happens, which is the same as going on to the state that the analyzer is in.
    have hidle : (s.run schedule).work i element =
        (s.run schedule).enter i ((s.run schedule).analyzers i) := by
      rw [hrun]
      unfold SharedAnalyzers.enter
      rw [Function.update_eq_self]
    refine h.enter hidle rfl ?_
    rw [hi]
    trivial
  | @loaded call later hi =>
    refine h.enter hrun ?_ ⟨schedule, element, [], rfl, nofun, ⟨later, hi⟩, rfl, rfl⟩
    rw [hi]
    rfl
  | @timed call snapshot later hi =>
    rw [hi] at htraced
    refine h.enter hrun ?_ ⟨⟨schedule, element, [], rfl, htraced, rfl⟩, ?_, fun task htask => ?_⟩
    · rw [hi]
      rfl
    · rw [List.map_map]
      exact List.map_id _
    · obtain ⟨sim, -, rfl⟩ := List.mem_map.1 htask
      trivial
  | @advanced call snapshot now tasks later e hi =>
    rw [hi] at htraced
    obtain ⟨hepoch, hsims, htasks⟩ := htraced
    refine h.enter hrun ?_ ⟨hepoch.concat _, ?_, ?_⟩
    · rw [hi]
      rfl
    · rw [Assessment.map_sim_modify, hsims]
    · exact Assessment.of_modify htasks e
  | @answered call snapshot now tasks later results hi hresults =>
    rw [hi] at htraced
    obtain ⟨-, hsims, htasks⟩ := htraced
    have hanswer : results = call.answer ⟨snapshot⟩ now := by
      rw [Assessment.results_eq htasks hresults, hsims, AnalysisCall.answer_eq]
    rw [hanswer] at hrun
    exact h.answer hi hrun

/-- Every move keeps everything. -/
theorem Inv.concat (h : Inv s calls schedule) (turn : Turn κ ι) :
    Inv s calls (schedule ++ [turn]) := by
  cases turn with
  | client c => exact h.concat_other nofun (by rw [run_concat]; rfl) (by rw [run_concat]; rfl)
  | analyzer i element => exact h.works rfl ((s.run schedule).works i element)
  | clock now => exact h.concat_other nofun (by rw [run_concat]; rfl) (by rw [run_concat]; rfl)

end

/-- Idle analyzers without answers keep everything. -/
theorem Inv.start (slot : SnapshotSlot α) (clock : Timestamp)
    (replacements : κ → List (SlotCall α)) (calls : ι → List AnalysisCall) :
    Inv (SharedAnalyzers.start slot clock replacements calls) calls [] where
  traced _ := trivial
  answers earlier answer hp := by
    have := List.prefix_nil.1 hp
    simp at this
  transcript _ := rfl

/-- Everything is kept along every schedule. -/
theorem Inv.run (slot : SnapshotSlot α) (clock : Timestamp)
    (replacements : κ → List (SlotCall α)) (calls : ι → List AnalysisCall)
    (schedule : List (Turn κ ι)) :
    Inv (SharedAnalyzers.start slot clock replacements calls) calls schedule := by
  -- From the end: what is kept speaks of the whole schedule up to the present move.
  induction schedule using List.reverseRecOn with
  | nil => exact .start slot clock replacements calls
  | append_singleton schedule turn ih => exact ih.concat turn

end SharedAnalyzers

end

end ResourceMeter
