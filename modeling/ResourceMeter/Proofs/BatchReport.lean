import ResourceMeter.Proofs.ExitDecision

/-!
# Several files and each file alone

What the command prints for several simulation files is put together from what it does with each
file alone (`Command.Item` for JSON, `Command.Section` for reports), and it succeeds exactly if it
succeeds with each of them: `Command.several_agree_with_alone`.

That holds of files that all hold simulations. A file that holds none ends the command before
anything is printed, so each file has its entry exactly if none of them is malformed:
`Command.entry_for_each_unless_malformed`.
-/

namespace ResourceMeter.Command

/-! ## What is printed for a file -/

/-- The item for a file in an array, beside what the command does with this file alone. It has the
JSON value that is printed then, or the reason why the simulation cannot be analysed, and not
both. -/
inductive Item (path : String) (alone : Outcome) : Json → Prop
  | analysis {value : Json} : alone.printed = value.pretty ++ "\n" →
      Item path alone (.object [("sim", .string path), ("analysis", value)])
  | error {cause : Fault Float} : alone = ⟨"", some (.analysisFailed path cause)⟩ →
      Item path alone (.object [("sim", .string path), ("error", .string cause.message)])

/-- The section for a file in a report, beside what the command does with this file alone: a
heading, then what is printed then or the line for the failure, and an empty line. -/
inductive Section (path : String) (alone : Outcome) : String → Prop
  | analysis : (∀ cause, alone.failure ≠ some (.analysisFailed path cause)) →
      Section path alone ("== " ++ path ++ "\n" ++ alone.printed ++ "\n")
  | error {cause : Fault Float} : alone = ⟨"", some (.analysisFailed path cause)⟩ →
      Section path alone ("== " ++ path ++ "\n" ++ (Report.failure cause.message ++ "\n") ++ "\n")

section
variable {files : Files} {config : Option String} {snapshot : Snapshot Float} {now : Timestamp}
  {style : Style} {failOnViolation : Bool} {path : String} {sim : Simulation}

/-- What the command does with one file whose simulation can be analysed. -/
theorem run_of_only_analysed (hused : SnapshotUsed files config snapshot)
    (hsim : Holds files path sim) {analysis : Analysis Float}
    (hof : Analysis.of sim snapshot now = .ok analysis) :
    run files now style (.analyze [path] config failOnViolation) =
      ⟨analysisText style snapshot.tuning.thresholds analysis,
        violationFailure failOnViolation analysis.safetyViolations.length⟩ := by
  rw [run_of_one hused hsim]
  unfold analyzeOne SnapshotSlot.analyze
  rw [hof]

/-- Violations are not an analysis that failed. -/
theorem violationFailure_ne_analysisFailed (violations : Nat) (cause : Fault Float) :
    violationFailure failOnViolation violations ≠ some (.analysisFailed path cause) := by
  unfold violationFailure
  split <;> exact nofun

/-- The entry for a file agrees with what the command does with it alone. -/
theorem item_entry (hused : SnapshotUsed files config snapshot) (hsim : Holds files path sim)
    (hjson : style.json = true) :
    Item path (run files now style (.analyze [path] config failOnViolation))
      (entry path (Analysis.of sim snapshot now)) := by
  cases hof : Analysis.of sim snapshot now with
  | error cause => exact .error (run_of_only_failed hused hsim hof)
  | ok analysis =>
    refine .analysis ?_
    rw [run_of_only_analysed hused hsim hof]
    exact if_pos hjson

/-- The section for a file agrees with what the command does with it alone. -/
theorem section_sectionText (hused : SnapshotUsed files config snapshot)
    (hsim : Holds files path sim) (htext : style.json = false) :
    Section path (run files now style (.analyze [path] config failOnViolation))
      (sectionText style snapshot.tuning.thresholds path (Analysis.of sim snapshot now)) := by
  cases hof : Analysis.of sim snapshot now with
  | error cause => exact .error (run_of_only_failed hused hsim hof)
  | ok analysis =>
    have hprinted : analysisText style snapshot.tuning.thresholds analysis =
        Report.analysis analysis snapshot.tuning.thresholds style.verbose :=
      if_neg (by rw [htext]; exact Bool.false_ne_true)
    unfold sectionText
    dsimp only
    rw [run_of_only_analysed hused hsim hof, ← hprinted]
    exact .analysis fun cause => violationFailure_ne_analysisFailed _ cause

end

/-! ## Several files -/

/-- What is made of each file of a list in turn. -/
theorem forall₂_map_zip {α β γ δ : Type} {P : α → β → Prop} {R : α → δ → Prop} {f : β → γ}
    {g : α → γ → δ} (h : ∀ x y, P x y → R x (g x (f y))) {xs : List α} {ys : List β}
    (hxs : List.Forall₂ P xs ys) :
    List.Forall₂ R xs ((xs.zip (ys.map f)).map fun p => g p.1 p.2) := by
  induction hxs with
  | nil => exact .nil
  | cons hxy _ ih => exact .cons (h _ _ hxy) ih

/-- What is printed for several files agrees with what the command does with each file alone. -/
structure PrintedAsAlone (style : Style) (paths : List String) (alone : String → Outcome)
    (printed : String) : Prop where
  /-- As JSON it is one array, with one item for each file in their order. -/
  json : style.json = true → ∃ items : List Json, printed = (Json.list items).pretty ++ "\n" ∧
    List.Forall₂ (fun path => Item path (alone path)) paths items
  /-- As a report it is one section for each file in their order. -/
  report : style.json = false → ∃ sections : List String, printed = String.join sections ∧
    List.Forall₂ (fun path => Section path (alone path)) paths sections

/-- What is printed for files that all hold simulations. -/
theorem printedAsAlone {files : Files} {config : Option String} {snapshot : Snapshot Float}
    (hused : SnapshotUsed files config snapshot) {paths : List String} {sims : List Simulation}
    (hsims : List.Forall₂ (Holds files) paths sims) (hlength : paths.length ≠ 1)
    (now : Timestamp) (style : Style) (failOnViolation : Bool) :
    PrintedAsAlone style paths
      (fun path => run files now style (.analyze [path] config failOnViolation))
      (run files now style (.analyze paths config failOnViolation)).printed := by
  rw [run_of_several hused hsims hlength]
  unfold analyzeSeveral batchText SnapshotSlot.analyzeBatch
  refine ⟨fun hjson => ?_, fun htext => ?_⟩
  · refine ⟨_, if_pos hjson, ?_⟩
    exact forall₂_map_zip (g := entry) (fun _ _ hsim => item_entry hused hsim hjson) hsims
  · refine ⟨_, if_neg (by rw [htext]; exact Bool.false_ne_true), ?_⟩
    exact forall₂_map_zip (fun _ _ hsim => section_sectionText hused hsim htext) hsims

/-- Several files succeed exactly if each of them does. -/
theorem succeeds_iff_each {files : Files} {now : Timestamp} {paths : List String}
    {config : Option String} {failOnViolation : Bool} (hpaths : paths ≠ []) :
    Succeeds files now paths config failOnViolation ↔
      ∀ path ∈ paths, Succeeds files now [path] config failOnViolation := by
  simp only [succeeds_iff, List.forall_mem_singleton]
  constructor
  · rintro ⟨snapshot, hused, heach⟩ path hpath
    exact ⟨snapshot, hused, heach path hpath⟩
  · intro heach
    obtain ⟨first, hfirst⟩ := List.exists_mem_of_ne_nil paths hpaths
    obtain ⟨snapshot, hused, -⟩ := heach first hfirst
    refine ⟨snapshot, hused, fun path hpath => ?_⟩
    -- Each file comes with a snapshot of its own, but the configuration has only one.
    obtain ⟨other, hother, hanalysed⟩ := heach path hpath
    rw [hused.unique hother]
    exact hanalysed

/-- The text of a simulation that names no keys. -/
def keylessText : String :=
  "[7, 0, [[], 7, 0, 0], 9]"

/-- A file with the text holds a simulation. -/
theorem exists_holds_keyless {files : Files} {path : String}
    (hfile : files path = .ok keylessText) : ∃ sim, Holds files path sim := by
  have hread : (Simulation.ofText keylessText : Except (Fault Float) _).toOption =
      some ⟨7, 0, ⟨⟨[], []⟩, 7, 0, 0⟩, 9⟩ := by decide +kernel
  exact ⟨_, keylessText, hfile, toOption_eq_some_iff.1 hread⟩

/-- Two files that hold simulations, of which the first cannot be analysed. -/
def mixedFiles : Files :=
  .ofList [("a", .ok clashingText), ("b", .ok keylessText)]

/-- Both of them hold one. -/
theorem holds_mixedFiles : ∀ path ∈ ["a", "b"], ∃ sim, Holds mixedFiles path sim :=
  List.forall_mem_cons.2 ⟨⟨clashing, holds_clashing rfl⟩,
    List.forall_mem_singleton.2 (exists_holds_keyless rfl)⟩

/-- Files that all hold simulations are reported together as each of them is alone, and the command
succeeds with all of them exactly if it succeeds with each. Without a snapshot it fails in the same
way, whichever files are named. -/
theorem several_agree_with_alone {files : Files} {paths : List String}
    (hholds : ∀ path ∈ paths, ∃ sim, Holds files path sim) (hlength : 2 ≤ paths.length)
    (now : Timestamp) (style : Style) (config : Option String) (failOnViolation : Bool) :
    let batch := run files now style (.analyze paths config failOnViolation)
    let alone path := run files now style (.analyze [path] config failOnViolation)
    (∀ snapshot, SnapshotUsed files config snapshot →
      PrintedAsAlone style paths alone batch.printed) ∧
    (∀ fault, SnapshotRefused files config fault →
      batch = ⟨"", some (.fault fault)⟩ ∧ ∀ path, alone path = ⟨"", some (.fault fault)⟩) ∧
    (batch.failure = none ↔ ∀ path ∈ paths, (alone path).failure = none) := by
  intro batch alone
  obtain ⟨sims, hsims⟩ := exists_forall₂_iff.2 hholds
  refine ⟨fun snapshot hused => ?_, fun fault hrefused => ?_, ?_⟩
  · exact printedAsAlone hused hsims (Nat.ne_of_gt hlength) now style failOnViolation
  · exact ⟨run_of_refused hrefused, fun _ => run_of_refused hrefused⟩
  · have hpaths : paths ≠ [] := List.ne_nil_of_length_pos (Nat.lt_of_lt_of_le Nat.two_pos hlength)
    simp only [batch, alone, failure_eq_none_iff]
    exact succeeds_iff_each hpaths

/-- A file that cannot be analysed fails together with a sound one as it does alone. -/
theorem several_agree_with_alone_of_mixed :
    let batch := run mixedFiles ⟨0, 0⟩ ⟨true, false⟩ (.analyze ["a", "b"] none false)
    let alone path := run mixedFiles ⟨0, 0⟩ ⟨true, false⟩ (.analyze [path] none false)
    PrintedAsAlone ⟨true, false⟩ ["a", "b"] alone batch.printed ∧ batch.failure ≠ none := by
  intro batch alone
  obtain ⟨hprinted, -, hfailure⟩ := several_agree_with_alone holds_mixedFiles (Nat.le_refl 2)
    ⟨0, 0⟩ ⟨true, false⟩ none false
  refine ⟨hprinted .mainnet .standard, fun hnone => ?_⟩
  obtain ⟨fault, hfault⟩ := clashing_fails .mainnet ⟨0, 0⟩
  have halone : (alone "a").failure = none := hfailure.1 hnone "a" (List.mem_cons_self ..)
  have hreason : alone "a" = ⟨"", some (.analysisFailed "a" fault)⟩ :=
    run_of_only_failed .standard (holds_clashing rfl) hfault
  rw [hreason] at halone
  cases halone

/-! ## Files that hold no simulation -/

/-- What becomes of the text of a file: an analysis, or why there is none. -/
def assess (snapshot : Snapshot Float) (now : Timestamp) (text : String) :
    Except (Fault Float) (Analysis Float) :=
  (Simulation.ofText text).bind fun sim => Analysis.of sim snapshot now

/-- The first file whose text holds no simulation. -/
def FirstMalformed (files : Files) (paths : List String) (path : String) (cause : Fault Float) :
    Prop :=
  ∃ before behind, paths = before ++ path :: behind ∧
    (∀ earlier ∈ before, ∃ sim, Holds files earlier sim) ∧
    SimulationRefused files path (.invalidSimulation path cause)

/-- Something is printed for several files. -/
theorem batchText_ne_empty {results : List (String × Except (Fault Float) (Analysis Float))}
    (hresults : results ≠ []) (style : Style) (thresholds : Thresholds Float) :
    batchText style thresholds results ≠ "" := by
  intro hempty
  unfold batchText at hempty
  split at hempty
  · have hnewline := (String.append_eq_empty_iff.1 hempty).2
    exact absurd hnewline (by decide)
  · cases results with
    | nil => exact hresults rfl
    | cons result results =>
      rw [List.map_cons, String.join_cons] at hempty
      have hnewline := (String.append_eq_empty_iff.1 (String.append_eq_empty_iff.1 hempty).1).2
      exact absurd hnewline (by decide)

/-- When several simulations come to no failure, none of their results is one. -/
theorem isFailure_of_analyzeSeveral {slot : SnapshotSlot Float} {now : Timestamp} {style : Style}
    {failOnViolation : Bool} {paths : List String} {sims : List Simulation}
    (h : (analyzeSeveral slot now style failOnViolation paths sims).failure = none) :
    ∀ result ∈ slot.analyzeBatch now sims, isFailure result = false := by
  have hnone : ¬ 0 < (slot.analyzeBatch now sims).countP isFailure := by
    intro hfailed
    unfold analyzeSeveral at h
    dsimp only at h
    rw [if_pos hfailed] at h
    cases h
  have hzero := List.countP_eq_zero.1 (Nat.eq_zero_of_not_pos hnone)
  exact fun result hresult => Bool.eq_false_iff.2 (hzero result hresult)

/-- What becomes of a text that holds a simulation is its analysis. -/
theorem assess_eq {text : String} {sim : Simulation}
    (h : (Simulation.ofText text : Except (Fault Float) _) = .ok sim) (snapshot : Snapshot Float)
    (now : Timestamp) :
    assess snapshot now text = Analysis.of sim snapshot now := by
  unfold assess
  rw [h]
  rfl

section
variable {files : Files} {paths texts : List String} {config : Option String}
  {snapshot : Snapshot Float}

/-- What becomes of the texts of files that hold simulations. -/
theorem map_assess {sims : List Simulation}
    (htexts : List.Forall₂ (fun path text => files path = .ok text) paths texts)
    (hsims : List.Forall₂ (Holds files) paths sims) (snapshot : Snapshot Float) (now : Timestamp) :
    texts.map (assess snapshot now) =
      (⟨snapshot⟩ : SnapshotSlot Float).analyzeBatch now sims := by
  unfold SnapshotSlot.analyzeBatch
  induction htexts generalizing sims with
  | nil =>
    cases hsims
    rfl
  | cons htext _ ih =>
    cases hsims with
    | cons hsim hsims =>
    obtain ⟨text, hfile, hread⟩ := hsim
    cases htext.symm.trans hfile
    rw [List.map_cons, List.map_cons, ih hsims, assess_eq hread]

/-- Files that are all there hold simulations, or one of them is the first that is malformed. -/
theorem holds_or_firstMalformed
    (htexts : List.Forall₂ (fun path text => files path = .ok text) paths texts) :
    (∃ sims, List.Forall₂ (Holds files) paths sims) ∨
      ∃ path cause, FirstMalformed files paths path cause := by
  cases hload : paths.mapM (loadSimulation files) with
  | ok sims => exact .inl ⟨sims, loadSimulations_eq_ok_iff.1 hload⟩
  | error failure =>
    obtain ⟨before, path, behind, hpaths, hbefore, hrefused⟩ :=
      loadSimulations_eq_error_iff.1 hload
    cases hrefused with
    | unread hunread =>
      have hpath : path ∈ paths := hpaths ▸ List.mem_append_cons_self
      obtain ⟨text, hfile⟩ := exists_forall₂_iff.1 ⟨texts, htexts⟩ path hpath
      cases hunread.symm.trans hfile
    | @malformed _ cause hfile hread =>
      exact .inr ⟨path, cause, before, behind, hpaths, hbefore, .malformed hfile hread⟩

/-- A malformed file ends the command before anything is printed. -/
theorem FirstMalformed.run_eq {path : String} {cause : Fault Float}
    (h : FirstMalformed files paths path cause) (hused : SnapshotUsed files config snapshot)
    (now : Timestamp) (style : Style) (failOnViolation : Bool) :
    run files now style (.analyze paths config failOnViolation) =
      ⟨"", some (.invalidSimulation path cause)⟩ := by
  obtain ⟨before, behind, hpaths, hbefore, hrefused⟩ := h
  exact run_of_unread hused
    (loadSimulations_eq_error_iff.2 ⟨before, path, behind, hpaths, hbefore, hrefused⟩)

/-- A malformed file holds no simulation. -/
theorem FirstMalformed.not_holds {path : String} {cause : Fault Float}
    (h : FirstMalformed files paths path cause) : path ∈ paths ∧ ∀ sim, ¬ Holds files path sim := by
  obtain ⟨before, behind, hpaths, -, hrefused⟩ := h
  refine ⟨hpaths ▸ List.mem_append_cons_self, fun sim hsim => ?_⟩
  cases (loadSimulation_eq_ok_iff.2 hsim).symm.trans (loadSimulation_eq_error_iff.2 hrefused)

end

/-- Each of several files has its entry exactly if all of them hold simulations. If one does not,
nothing is printed and the first such file is the reason. No file that fails goes unnoticed. -/
theorem entry_for_each_unless_malformed {files : Files} {paths texts : List String}
    (htexts : List.Forall₂ (fun path text => files path = .ok text) paths texts)
    (hlength : 2 ≤ paths.length) {config : Option String} {snapshot : Snapshot Float}
    (hused : SnapshotUsed files config snapshot) (now : Timestamp) (style : Style)
    (failOnViolation : Bool) :
    let batch := run files now style (.analyze paths config failOnViolation)
    let results := texts.map (assess snapshot now)
    (batch.printed = batchText style snapshot.tuning.thresholds (paths.zip results) ↔
      ∀ path ∈ paths, ∃ sim, Holds files path sim) ∧
    ((∃ path ∈ paths, ∀ sim, ¬ Holds files path sim) → ∃ path cause,
      FirstMalformed files paths path cause ∧ batch = ⟨"", some (.invalidSimulation path cause)⟩) ∧
    (batch.failure = none → ∀ result ∈ results, isFailure result = false) := by
  intro batch results
  rcases holds_or_firstMalformed htexts with ⟨sims, hsims⟩ | ⟨path, cause, hmalformed⟩
  · have hholds : ∀ path ∈ paths, ∃ sim, Holds files path sim := exists_forall₂_iff.1 ⟨sims, hsims⟩
    have hresults : results = (⟨snapshot⟩ : SnapshotSlot Float).analyzeBatch now sims :=
      map_assess htexts hsims snapshot now
    have hbatch : batch = analyzeSeveral ⟨snapshot⟩ now style failOnViolation paths sims :=
      run_of_several hused hsims (Nat.ne_of_gt hlength)
    refine ⟨⟨fun _ => hholds, fun _ => ?_⟩, ?_, fun hsucceeds => ?_⟩
    · rw [hbatch, hresults]
      rfl
    · rintro ⟨path, hpath, hnone⟩
      obtain ⟨sim, hsim⟩ := hholds path hpath
      exact absurd hsim (hnone sim)
    · rw [hbatch] at hsucceeds
      rw [hresults]
      exact isFailure_of_analyzeSeveral hsucceeds
  · have hbatch : batch = ⟨"", some (.invalidSimulation path cause)⟩ :=
      hmalformed.run_eq hused now style failOnViolation
    obtain ⟨hpath, hnone⟩ := hmalformed.not_holds
    refine ⟨⟨fun hprinted => ?_, fun hholds => ?_⟩, fun _ => ⟨path, cause, hmalformed, hbatch⟩,
      fun hsucceeds => ?_⟩
    · -- Nothing is printed here, but entries would be something.
      rw [hbatch] at hprinted
      have hresults : paths.zip results ≠ [] := by
        refine List.ne_nil_of_length_pos ?_
        rw [List.length_zip, List.length_map, ← htexts.length_eq, Nat.min_self]
        exact Nat.lt_of_lt_of_le Nat.two_pos hlength
      exact absurd hprinted.symm (batchText_ne_empty hresults _ _)
    · obtain ⟨sim, hsim⟩ := hholds path hpath
      exact absurd hsim (hnone sim)
    · rw [hbatch] at hsucceeds
      cases hsucceeds

/-- A file that cannot be analysed and a sound one both have their entry, and the command fails. -/
theorem entry_for_each_unless_malformed_of_mixed :
    let batch := run mixedFiles ⟨0, 0⟩ ⟨false, false⟩ (.analyze ["a", "b"] none false)
    batch.printed = batchText ⟨false, false⟩ (Snapshot.mainnet : Snapshot Float).tuning.thresholds
        [("a", assess .mainnet ⟨0, 0⟩ clashingText), ("b", assess .mainnet ⟨0, 0⟩ keylessText)] ∧
      batch.failure ≠ none := by
  intro batch
  have htexts : List.Forall₂ (fun path text => mixedFiles path = .ok text) ["a", "b"]
      [clashingText, keylessText] := .cons rfl (.cons rfl .nil)
  obtain ⟨hprinted, -, hfailure⟩ := entry_for_each_unless_malformed htexts (Nat.le_refl 2) .standard
    ⟨0, 0⟩ ⟨false, false⟩ false
  refine ⟨hprinted.2 holds_mixedFiles, fun hnone => ?_⟩
  obtain ⟨fault, hfault⟩ := clashing_fails .mainnet ⟨0, 0⟩
  have hfirst := hfailure hnone _ (List.mem_cons_self ..)
  rw [assess_eq ofText_clashingText, hfault] at hfirst
  cases hfirst

/-- A malformed file takes the entry of a sound one with it. -/
theorem malformed_file_hides_sound_file :
    let files : Files := .ofList [("a", .ok "[7, -5]"), ("b", .ok keylessText)]
    let batch := run files ⟨0, 0⟩ ⟨false, false⟩ (.analyze ["a", "b"] none false)
    (∃ sim, Holds files "b" sim) ∧ batch.printed = "" ∧
      batch.printed ≠
        batchText ⟨false, false⟩ (Snapshot.mainnet : Snapshot Float).tuning.thresholds
          [("a", assess .mainnet ⟨0, 0⟩ "[7, -5]"), ("b", assess .mainnet ⟨0, 0⟩ keylessText)] := by
  intro files batch
  have hmalformed : FirstMalformed files ["a", "b"] "a" _ :=
    ⟨[], ["b"], rfl, nofun, .malformed rfl ofText_negative⟩
  have hbatch : batch = ⟨"", some (.invalidSimulation "a" _)⟩ :=
    hmalformed.run_eq .standard ⟨0, 0⟩ ⟨false, false⟩ false
  rw [hbatch]
  exact ⟨exists_holds_keyless rfl, rfl, (batchText_ne_empty (List.cons_ne_nil _ _) _ _).symm⟩

end ResourceMeter.Command
