import ResourceMeter.Proofs.AnalysisFaults
import ResourceMeter.Proofs.CommandRuns
import ResourceMeter.Proofs.LawfulRecords
import ResourceMeter.Proofs.SnapshotRules

/-!
# When analysing simulation files fails

`Command.FailsWith` lists the reasons for a failure in the order in which they count, with the
messages that report them: the snapshot, the first file that holds no simulation, analyses that
fail, and safety violations where they are asked to be failures. `Command.exit_decision` says that
the command succeeds exactly if none of them applies (`Command.Succeeds`), and otherwise fails with
the first one that does and reports it with these messages.
-/

namespace ResourceMeter.Command

/-! ## Reasons -/

/-- All simulations can be analysed. -/
def Analysed (snapshot : Snapshot Float) (now : Timestamp) (sims : List Simulation)
    (analyses : List (Analysis Float)) : Prop :=
  List.Forall₂ (fun sim analysis => Analysis.of sim snapshot now = .ok analysis) sims analyses

/-- The number of simulations that cannot be analysed. -/
def failedCount (snapshot : Snapshot Float) (now : Timestamp) (sims : List Simulation) : Nat :=
  sims.countP fun sim => !(Analysis.of sim snapshot now).isOk

/-- The number of safety violations in all analyses. -/
def violationTotal (analyses : List (Analysis Float)) : Nat :=
  (analyses.map (·.safetyViolations.length)).sum

/-- The snapshot is there, every file holds a simulation, every simulation can be analysed, and no
violation has to be a failure. -/
def Succeeds (files : Files) (now : Timestamp) (paths : List String) (config : Option String)
    (failOnViolation : Bool) : Prop :=
  ∃ snapshot sims analyses, SnapshotUsed files config snapshot ∧
    List.Forall₂ (Holds files) paths sims ∧ Analysed snapshot now sims analyses ∧
    (failOnViolation = true → ∀ analysis ∈ analyses, analysis.safetyViolations = [])

/-- All files in front of one in the list hold simulations. -/
def HoldBefore (files : Files) (paths : List String) (path : String) : Prop :=
  ∃ before behind, paths = before ++ path :: behind ∧
    ∀ earlier ∈ before, ∃ sim, Holds files earlier sim

/-- The reasons for a failure, each with the messages that report it; for each one, those before it
do not apply. -/
inductive FailsWith (files : Files) (now : Timestamp) (paths : List String)
    (config : Option String) (failOnViolation : Bool) : Failure → List String → Prop
  /-- The file of the configuration cannot be read. -/
  | unreadConfig {path cause} : config = some path → files path = .error cause →
      FailsWith files now paths config failOnViolation
        (.fault (.configuration (.unreadFile path cause)))
        ["invalid configuration: " ++
          ("failed to read config snapshot " ++ path ++ ": " ++ cause.message)]
  /-- The text of the configuration is refused. -/
  | refusedConfig {path text cause} : config = some path → files path = .ok text →
      Snapshot.ofText text = .error (.configuration cause) →
      FailsWith files now paths config failOnViolation (.fault (.configuration cause))
        ["invalid configuration: " ++ cause.detail]
  | unreadSimulation {snapshot path cause} : SnapshotUsed files config snapshot →
      HoldBefore files paths path → files path = .error cause →
      FailsWith files now paths config failOnViolation (.unreadSimulation path cause)
        ["Failed to read simulation file: " ++ path, cause.message]
  /-- The text of a file holds no simulation. -/
  | malformedSimulation {snapshot path text cause} : SnapshotUsed files config snapshot →
      HoldBefore files paths path → files path = .ok text →
      (Simulation.ofText text : Except (Fault Float) _) = .error (.input (.unreadable cause)) →
      FailsWith files now paths config failOnViolation
        (.invalidSimulation path (.input (.unreadable cause)))
        ["Invalid simulation file: " ++ path,
          "invalid input: " ++ ("failed to parse simulation result: " ++ cause.message)]
  /-- The only simulation cannot be analysed. -/
  | onlyAnalysis {snapshot path sim cause} : SnapshotUsed files config snapshot →
      paths = [path] → Holds files path sim → Analysis.of sim snapshot now = .error cause →
      FailsWith files now paths config failOnViolation (.analysisFailed path cause)
        ["Failed to analyze " ++ path, cause.message]
  /-- Of several simulations at least one cannot be analysed. -/
  | someAnalyses {snapshot sims} : SnapshotUsed files config snapshot → paths.length ≠ 1 →
      List.Forall₂ (Holds files) paths sims → 0 < failedCount snapshot now sims →
      FailsWith files now paths config failOnViolation
        (.someFailed (failedCount snapshot now sims) paths.length)
        [toString (failedCount snapshot now sims) ++ " of " ++ toString paths.length ++
          " simulation(s) could not be analyzed"]
  | violations {snapshot sims analyses} : SnapshotUsed files config snapshot →
      List.Forall₂ (Holds files) paths sims → Analysed snapshot now sims analyses →
      failOnViolation = true → 0 < violationTotal analyses →
      FailsWith files now paths config failOnViolation (.violationsFound (violationTotal analyses))
        [toString (violationTotal analyses) ++ " safety-margin violation(s) found"]

/-! ## Analyses that fail and violations -/

section
variable {snapshot : Snapshot Float} {now : Timestamp} {sims : List Simulation}

/-- The failures in a batch are the simulations that cannot be analysed. -/
theorem countP_isFailure (snapshot : Snapshot Float) (now : Timestamp) (sims : List Simulation) :
    ((⟨snapshot⟩ : SnapshotSlot Float).analyzeBatch now sims).countP isFailure =
      failedCount snapshot now sims := by
  have hfailure : (isFailure ∘ fun sim => Analysis.of sim snapshot now) =
      fun sim => !(Analysis.of sim snapshot now).isOk := by
    funext sim
    show isFailure (Analysis.of sim snapshot now) = _
    cases Analysis.of sim snapshot now <;> rfl
  unfold SnapshotSlot.analyzeBatch failedCount
  rw [List.countP_map, hfailure]

/-- All simulations can be analysed, or some of them count as failed. -/
theorem analysed_or_failed (snapshot : Snapshot Float) (now : Timestamp)
    (sims : List Simulation) :
    (∃ analyses, Analysed snapshot now sims analyses) ∨ 0 < failedCount snapshot now sims := by
  induction sims with
  | nil => exact .inl ⟨[], .nil⟩
  | cons sim sims ih =>
    unfold failedCount
    cases hof : Analysis.of sim snapshot now with
    | error fault =>
      refine .inr ?_
      rw [List.countP_cons_of_pos (by rw [hof]; rfl)]
      exact Nat.succ_pos _
    | ok analysis =>
      rw [List.countP_cons_of_neg (by rw [hof]; exact Bool.false_ne_true)]
      rcases ih with ⟨analyses, hanalyses⟩ | hfailed
      · exact .inl ⟨analysis :: analyses, .cons hof hanalyses⟩
      · exact .inr hfailed

/-- What the batch gives when all simulations can be analysed. -/
theorem Analysed.analyzeBatch_eq {analyses : List (Analysis Float)}
    (h : Analysed snapshot now sims analyses) :
    (⟨snapshot⟩ : SnapshotSlot Float).analyzeBatch now sims = analyses.map .ok := by
  unfold SnapshotSlot.analyzeBatch
  induction h with
  | nil => rfl
  | cons hof _ ih => rw [List.map_cons, List.map_cons, hof, ih]

/-- No simulation counts as failed when all can be analysed. -/
theorem Analysed.failedCount_eq {analyses : List (Analysis Float)}
    (h : Analysed snapshot now sims analyses) : failedCount snapshot now sims = 0 := by
  rw [← countP_isFailure, h.analyzeBatch_eq, List.countP_map, List.countP_eq_zero]
  exact fun _ _ => Bool.false_ne_true

/-- The tally of the violations is their number in all analyses. -/
theorem foldl_violationCount (analyses : List (Analysis Float)) :
    ((analyses.map Except.ok).map violationCount).foldl (· + ·) 0 = violationTotal analyses := by
  rw [List.map_map, ← List.sum_eq_foldl]
  rfl

/-- There are no violations exactly if no analysis has one. -/
theorem violationTotal_eq_zero_iff {analyses : List (Analysis Float)} :
    violationTotal analyses = 0 ↔ ∀ analysis ∈ analyses, analysis.safetyViolations = [] := by
  unfold violationTotal
  simp only [List.sum_eq_zero_iff, List.forall_mem_map, List.length_eq_zero_iff]

end

/-- The command succeeds exactly if the snapshot is there, and every file holds a simulation that
can be analysed without a violation that has to be a failure. -/
theorem succeeds_iff {files : Files} {now : Timestamp} {paths : List String}
    {config : Option String} {failOnViolation : Bool} :
    Succeeds files now paths config failOnViolation ↔ ∃ snapshot,
      SnapshotUsed files config snapshot ∧ ∀ path ∈ paths, ∃ sim analysis, Holds files path sim ∧
        Analysis.of sim snapshot now = .ok analysis ∧
        (failOnViolation = true → analysis.safetyViolations = []) := by
  constructor
  · rintro ⟨snapshot, sims, analyses, hused, hsims, hanalyses, hviolations⟩
    refine ⟨snapshot, hused, ?_⟩
    induction hsims generalizing analyses with
    | nil => exact nofun
    | cons hsim _ ih =>
      cases hanalyses with
      | @cons _ analysis _ analyses hof hanalyses =>
      have hlater := ih _ hanalyses fun hflag => (List.forall_mem_cons.1 (hviolations hflag)).2
      exact List.forall_mem_cons.2 ⟨⟨_, analysis, hsim, hof,
        fun hflag => (List.forall_mem_cons.1 (hviolations hflag)).1⟩, hlater⟩
  · rintro ⟨snapshot, hused, hpaths⟩
    have hlists : ∃ sims analyses, List.Forall₂ (Holds files) paths sims ∧
        Analysed snapshot now sims analyses ∧
        (failOnViolation = true → ∀ analysis ∈ analyses, analysis.safetyViolations = []) := by
      induction paths with
      | nil => exact ⟨[], [], .nil, .nil, fun _ => nofun⟩
      | cons path paths ih =>
        rw [List.forall_mem_cons] at hpaths
        obtain ⟨⟨sim, analysis, hsim, hof, hviolations⟩, hlater⟩ := hpaths
        obtain ⟨sims, analyses, hsims, hanalyses, hrest⟩ := ih hlater
        exact ⟨sim :: sims, analysis :: analyses, .cons hsim hsims, .cons hof hanalyses,
          fun hflag => List.forall_mem_cons.2 ⟨hviolations hflag, hrest hflag⟩⟩
    obtain ⟨sims, analyses, hanalysed⟩ := hlists
    exact ⟨snapshot, sims, analyses, hused, hanalysed⟩

/-! ## Failures of runs -/

section
variable {files : Files} {config : Option String} {snapshot : Snapshot Float} {now : Timestamp}
  {style : Style} {failOnViolation : Bool} {paths : List String} {sims : List Simulation}

/-- When all simulations can be analysed, violations are all that can make the command fail. -/
theorem failure_of_analysed (hused : SnapshotUsed files config snapshot)
    (hsims : List.Forall₂ (Holds files) paths sims) {analyses : List (Analysis Float)}
    (hanalyses : Analysed snapshot now sims analyses) :
    (run files now style (.analyze paths config failOnViolation)).failure =
      violationFailure failOnViolation (violationTotal analyses) := by
  by_cases hlength : paths.length = 1
  · obtain ⟨path, rfl⟩ := List.length_eq_one_iff.1 hlength
    cases hsims with
    | @cons _ sim _ _ hsim hrest =>
    cases hrest
    cases hanalyses with
    | @cons _ analysis _ _ hof hrest =>
    cases hrest
    have htotal : violationTotal [analysis] = analysis.safetyViolations.length := Nat.add_zero _
    rw [run_of_one hused hsim, htotal]
    unfold analyzeOne SnapshotSlot.analyze
    rw [hof]
  · rw [run_of_several hused hsims hlength]
    unfold analyzeSeveral
    dsimp only
    rw [countP_isFailure, hanalyses.failedCount_eq, if_neg (Nat.lt_irrefl 0),
      hanalyses.analyzeBatch_eq, foldl_violationCount]

/-- When the only simulation cannot be analysed, nothing is printed and this is the reason. -/
theorem run_of_only_failed {path : String} {sim : Simulation} {cause : Fault Float}
    (hused : SnapshotUsed files config snapshot) (hsim : Holds files path sim)
    (hof : Analysis.of sim snapshot now = .error cause) :
    run files now style (.analyze [path] config failOnViolation) =
      ⟨"", some (.analysisFailed path cause)⟩ := by
  rw [run_of_one hused hsim]
  unfold analyzeOne SnapshotSlot.analyze
  rw [hof]

/-- When some of several simulations cannot be analysed, their number is the reason. -/
theorem failure_of_failed (hused : SnapshotUsed files config snapshot)
    (hsims : List.Forall₂ (Holds files) paths sims) (hlength : paths.length ≠ 1)
    (hfailed : 0 < failedCount snapshot now sims) :
    (run files now style (.analyze paths config failOnViolation)).failure =
      some (.someFailed (failedCount snapshot now sims) paths.length) := by
  rw [run_of_several hused hsims hlength, hsims.length_eq]
  unfold analyzeSeveral
  dsimp only
  rw [countP_isFailure, if_pos hfailed]

/-- A command has a reason to fail, or analyses of all its simulations. -/
theorem fails_or_analysed (files : Files) (now : Timestamp) (paths : List String)
    (config : Option String) (failOnViolation : Bool) :
    (∃ failure messages, FailsWith files now paths config failOnViolation failure messages) ∨
      ∃ snapshot sims analyses, SnapshotUsed files config snapshot ∧
        List.Forall₂ (Holds files) paths sims ∧ Analysed snapshot now sims analyses := by
  cases hsnapshot : loadSnapshot files config with
  | error fault =>
    refine .inl ?_
    cases loadSnapshot_eq_error_iff.1 hsnapshot with
    | unread hfile => exact ⟨_, _, .unreadConfig rfl hfile⟩
    | unsound hfile htext =>
      obtain ⟨cause, rfl⟩ := Snapshot.configuration_of_ofText htext
      exact ⟨_, _, .refusedConfig rfl hfile htext⟩
  | ok snapshot =>
    have hused := loadSnapshot_eq_ok_iff.1 hsnapshot
    cases hsims : paths.mapM (loadSimulation files) with
    | error failure =>
      obtain ⟨before, path, behind, hpaths, hbefore, hrefused⟩ :=
        loadSimulations_eq_error_iff.1 hsims
      have hfirst : HoldBefore files paths path := ⟨before, behind, hpaths, hbefore⟩
      refine .inl ?_
      cases hrefused with
      | unread hfile => exact ⟨_, _, .unreadSimulation hused hfirst hfile⟩
      | malformed hfile htext =>
        obtain ⟨cause, rfl⟩ := Simulation.input_of_ofText htext
        exact ⟨_, _, .malformedSimulation hused hfirst hfile htext⟩
    | ok sims =>
      have hholds := loadSimulations_eq_ok_iff.1 hsims
      rcases analysed_or_failed snapshot now sims with ⟨analyses, hanalyses⟩ | hfailed
      · exact .inr ⟨snapshot, sims, analyses, hused, hholds, hanalyses⟩
      -- A single simulation that fails is named, of several only the number is.
      by_cases hlength : paths.length = 1
      · obtain ⟨path, rfl⟩ := List.length_eq_one_iff.1 hlength
        cases hholds with
        | @cons _ sim _ _ hsim hrest =>
        cases hrest
        cases hof : Analysis.of sim snapshot now with
        | error cause => exact .inl ⟨_, _, .onlyAnalysis hused rfl hsim hof⟩
        | ok analysis =>
          exact .inr ⟨snapshot, [sim], [analysis], hused, .cons hsim .nil, .cons hof .nil⟩
      · exact .inl ⟨_, _, .someAnalyses hused hlength hholds hfailed⟩

/-- The first file that is refused is the reason. -/
theorem failure_of_first {path : String} {failure : Failure}
    (hused : SnapshotUsed files config snapshot) (hfirst : HoldBefore files paths path)
    (hrefused : SimulationRefused files path failure) :
    (run files now style (.analyze paths config failOnViolation)).failure = some failure := by
  obtain ⟨before, behind, hpaths, hbefore⟩ := hfirst
  rw [run_of_unread hused
    (loadSimulations_eq_error_iff.2 ⟨before, path, behind, hpaths, hbefore, hrefused⟩)]

/-- A reason that applies is the one for which the command fails. -/
theorem FailsWith.failure_eq {failure : Failure} {messages : List String}
    (h : FailsWith files now paths config failOnViolation failure messages) (style : Style) :
    (run files now style (.analyze paths config failOnViolation)).failure = some failure := by
  cases h with
  | unreadConfig hconfig hfile =>
    subst hconfig
    rw [run_of_refused (.unread hfile)]
  | refusedConfig hconfig hfile htext =>
    subst hconfig
    rw [run_of_refused (.unsound hfile htext)]
  | unreadSimulation hused hfirst hfile => exact failure_of_first hused hfirst (.unread hfile)
  | malformedSimulation hused hfirst hfile htext =>
    exact failure_of_first hused hfirst (.malformed hfile htext)
  | onlyAnalysis hused hpaths hsim hof =>
    subst hpaths
    rw [run_of_only_failed hused hsim hof]
  | someAnalyses hused hlength hsims hfailed =>
    exact failure_of_failed hused hsims hlength hfailed
  | violations hused hsims hanalyses hflag htotal =>
    rw [failure_of_analysed hused hsims hanalyses]
    exact if_pos ⟨hflag, htotal⟩

/-- A reason is reported with its messages. -/
theorem FailsWith.messages_eq {failure : Failure} {messages : List String}
    (h : FailsWith files now paths config failOnViolation failure messages) :
    failure.messages = messages := by
  cases h with
  | unreadConfig => rfl
  | refusedConfig => rfl
  | unreadSimulation => rfl
  | malformedSimulation => rfl
  | onlyAnalysis => rfl
  | someAnalyses => rfl
  | violations => rfl

/-- A command that succeeds reports no failure. -/
theorem Succeeds.failure_eq (h : Succeeds files now paths config failOnViolation)
    (style : Style) :
    (run files now style (.analyze paths config failOnViolation)).failure = none := by
  obtain ⟨snapshot, sims, analyses, hused, hsims, hanalyses, hviolations⟩ := h
  rw [failure_of_analysed hused hsims hanalyses]
  refine if_neg fun ⟨hflag, htotal⟩ => ?_
  rw [violationTotal_eq_zero_iff.2 (hviolations hflag)] at htotal
  exact Nat.lt_irrefl 0 htotal

/-- A command succeeds or has a reason to fail. -/
theorem succeeds_or_fails (files : Files) (now : Timestamp) (paths : List String)
    (config : Option String) (failOnViolation : Bool) :
    Succeeds files now paths config failOnViolation ∨
      ∃ failure messages,
        FailsWith files now paths config failOnViolation failure messages := by
  rcases fails_or_analysed files now paths config failOnViolation with
    hfails | ⟨snapshot, sims, analyses, hused, hsims, hanalyses⟩
  · exact .inr hfails
  by_cases hviolations : failOnViolation = true ∧ 0 < violationTotal analyses
  · exact .inr ⟨_, _, .violations hused hsims hanalyses hviolations.1 hviolations.2⟩
  · refine .inl ⟨snapshot, sims, analyses, hused, hsims, hanalyses, fun hflag => ?_⟩
    refine violationTotal_eq_zero_iff.1 (Nat.eq_zero_of_not_pos fun htotal => ?_)
    exact hviolations ⟨hflag, htotal⟩

end

/-! ## Texts that fail -/

/-- The text of a simulation that names a key twice. -/
def clashingText : String :=
  "[7, 0, \x7b\"footprint\": [[\"k\", \"k\"]], \"instructions\": 7, \"readBytes\": 0, " ++
    "\"writeBytes\": 0\x7d, 9]"

/-- A simulation that names a key twice. -/
def clashing : Simulation where
  instructions := 7
  memoryBytes := 0
  resources := ⟨⟨["k", "k"], []⟩, 7, 0, 0⟩
  transactionSizeBytes := 9

/-- The text is read as that simulation. -/
theorem ofText_clashingText :
    (Simulation.ofText clashingText : Except (Fault Float) _) = .ok clashing :=
  toOption_eq_some_iff.1 (by decide +kernel)

/-- A file with the text holds that simulation. -/
theorem holds_clashing {files : Files} {path : String} (hfile : files path = .ok clashingText) :
    Holds files path clashing :=
  ⟨clashingText, hfile, ofText_clashingText⟩

/-- A simulation that names a key twice cannot be analysed. -/
theorem clashing_fails (snapshot : Snapshot Float) (now : Timestamp) :
    ∃ fault, Analysis.of clashing snapshot now = .error fault := by
  have hconflict : clashing.resources.footprint.conflict? ≠ none := by
    simp [clashing, Footprint.conflict?, Footprint.collectWritten, Footprint.readConflict?]
  exact Analysis.exists_error_of_conflict hconflict snapshot now

/-- A text with a negative count is malformed. -/
theorem ofText_negative :
    (Simulation.ofText "[7, -5]" : Except (Fault Float) Simulation) =
      .error (.input (.unreadable (.wrongValue (.integer (-5)) "u64"))) :=
  Simulation.ofText_eq_error (by decide +kernel)

/-! ## The decision -/

/-- No failure is reported exactly if the command succeeds. -/
theorem failure_eq_none_iff {files : Files} {now : Timestamp} {style : Style}
    {paths : List String} {config : Option String} {failOnViolation : Bool} :
    (run files now style (.analyze paths config failOnViolation)).failure = none ↔
      Succeeds files now paths config failOnViolation := by
  refine ⟨fun h => ?_, fun h => h.failure_eq style⟩
  rcases succeeds_or_fails files now paths config failOnViolation with
    hsucceeds | ⟨_, _, hfails⟩
  · exact hsucceeds
  · cases h.symm.trans (hfails.failure_eq style)

/-- In whatever style it prints, the command succeeds exactly if there is nothing against it, and
otherwise fails with the first reason that applies, which it reports with the messages of that
reason. The check that a slot makes of the snapshot is never the reason. -/
theorem exit_decision (files : Files) (now : Timestamp) (style : Style) (paths : List String)
    (config : Option String) (failOnViolation : Bool) :
    let failure? := (run files now style (.analyze paths config failOnViolation)).failure
    (failure? = none ↔ Succeeds files now paths config failOnViolation) ∧
    (∀ failure messages, failure? = some failure ∧ failure.messages = messages ↔
      FailsWith files now paths config failOnViolation failure messages) ∧
    ∀ snapshot, SnapshotUsed files config snapshot → SnapshotSlot.of snapshot = .ok ⟨snapshot⟩ := by
  intro failure?
  refine ⟨failure_eq_none_iff, fun failure messages => ⟨?_, fun h => ?_⟩, fun _ => slot_of_used⟩
  · rintro ⟨hfailure, rfl⟩
    rcases succeeds_or_fails files now paths config failOnViolation with
      hsucceeds | ⟨_, _, hfails⟩
    · cases hfailure.symm.trans (hsucceeds.failure_eq style)
    · cases hfailure.symm.trans (hfails.failure_eq style)
      rw [hfails.messages_eq]
      exact hfails
  · exact ⟨h.failure_eq style, h.messages_eq⟩

/-- Two simulations with conflicts fail before anything is said of violations; a malformed one is
the reason although the file behind it cannot be read, and a configuration that cannot be read comes
before all. -/
theorem exit_decision_of_conflicts :
    let files : Files := .ofList [("a", .ok clashingText), ("b", .ok clashingText),
      ("c", .ok "[7, -5]"), ("d", .error (.system 13 "Permission denied"))]
    let messages? (paths : List String) (config : Option String) :=
      (run files ⟨0, 0⟩ ⟨true, false⟩ (.analyze paths config true)).failure.map Failure.messages
    messages? ["a", "b"] none = some ["2 of 2 simulation(s) could not be analyzed"] ∧
      messages? ["a", "c", "d"] none = some ["Invalid simulation file: c",
        "invalid input: failed to parse simulation result: " ++
          "invalid value: integer \x60-5\x60, expected u64"] ∧
      messages? ["a", "d", "c"] none =
        some ["Failed to read simulation file: d", "Permission denied (os error 13)"] ∧
      messages? ["d"] (some "e") = some ["invalid configuration: " ++
        "failed to read config snapshot e: No such file or directory (os error 2)"] := by
  intro files messages?
  have hreported {paths : List String} {config : Option String} {failure : Failure}
      {messages : List String}
      (h : FailsWith files ⟨0, 0⟩ paths config true failure messages) :
      messages? paths config = some messages := by
    obtain ⟨hfailure, hmessages⟩ :=
      ((exit_decision files ⟨0, 0⟩ ⟨true, false⟩ paths config true).2.1 failure messages).2 h
    show Option.map _ _ = _
    rw [hfailure, ← hmessages]
    rfl
  have hfailed : failedCount .mainnet ⟨0, 0⟩ [clashing, clashing] = 2 := by
    obtain ⟨fault, hfault⟩ := clashing_fails .mainnet ⟨0, 0⟩
    unfold failedCount
    rw [List.countP_cons, List.countP_cons, hfault]
    rfl
  have hfirst (path : String) (behind : List String) :
      HoldBefore files ("a" :: path :: behind) path :=
    ⟨["a"], behind, rfl, List.forall_mem_singleton.2 ⟨clashing, holds_clashing rfl⟩⟩
  refine ⟨?_, ?_, ?_, ?_⟩
  · have hlength : ["a", "b"].length ≠ 1 := by decide
    have hsims : List.Forall₂ (Holds files) ["a", "b"] [clashing, clashing] :=
      .cons (holds_clashing rfl) (.cons (holds_clashing rfl) .nil)
    have hmessages := hreported (.someAnalyses .standard hlength hsims (hfailed ▸ Nat.two_pos))
    rw [hfailed] at hmessages
    exact hmessages
  · exact hreported (.malformedSimulation .standard (hfirst "c" ["d"]) rfl ofText_negative)
  · exact hreported (.unreadSimulation .standard (hfirst "d" ["c"]) rfl)
  · have hconfig : files "e" = .error .notFound := rfl
    exact (hreported (.unreadConfig rfl hconfig)).trans (by decide +kernel)

end ResourceMeter.Command
