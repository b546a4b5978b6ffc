/-
Module: CodeGauge.Proofs.Command.Threshold
Purpose: The program ends with the status of an exceeded threshold exactly if some function of the project
  is more complex than allowed.
Main exports:
  HasFunctionAbove, lt_maxComplexity_iff, Analyser.Summarises, Command.exists_of_prepare,
  Command.root_eq_of_prepare, Command.Completes, Command.threshold_exceeded_iff
-/
import CodeGauge.Command.Run
import CodeGauge.Proofs.Analysis.Accounting
import CodeGauge.Proofs.Report.Totals
import CodeGauge.Proofs.Text.Utf8

namespace CodeGauge

open CodeGauge.Analysis

/-!
The threshold is compared with one number of the report, the largest complexity of the project, which is
the largest one of the files' largest ones.  So the verdict hangs on two maxima, and neither on the ranking
nor on anything that is only shown.
-/

/-! ### The largest complexity -/

/-- Some function of some file is more complex than a limit. -/
def HasFunctionAbove (limit : Int) (files : List FileEntry) : Prop :=
  ∃ file ∈ files, ∃ function ∈ file.functionList, limit < function.complexity.toInt

theorem lt_complexityMax_iff {limit : Int} (nonneg : 0 ≤ limit) {entry : FileEntry}
    (summedUp : entry.IsSummedUp) :
    limit < entry.summary.complexityMax.toInt ↔
      ∃ function ∈ entry.functionList, limit < function.complexity.toInt := by
  rw [summedUp, FileSummary.ofFunctions, lt_largest_map_iff nonneg]

theorem lt_maxComplexity_iff {limit : Int} (nonneg : 0 ≤ limit) {files : List FileEntry}
    (summedUp : ∀ entry ∈ files, entry.IsSummedUp) :
    limit < (ProjectTotals.ofFiles files).maxComplexity.toInt ↔ HasFunctionAbove limit files := by
  rw [ProjectTotals.ofFiles, lt_largest_map_iff nonneg, HasFunctionAbove]
  exact exists_congr fun entry => and_congr_right fun member =>
    lt_complexityMax_iff nonneg (summedUp entry member)

/-! ### Entries of analysers -/

namespace Analysis

/-- The entries that an analyser makes are summed up as their functions say. -/
def Analyser.Summarises (analyser : Analyser) : Prop :=
  ∀ path content entry, analyser.measure path content = .ok entry → entry.IsSummedUp

theorem Analyser.summarises_ofExtensions (supported : Extension.Supported) :
    (ofExtensions supported).Summarises := by
  intro path content entry measured
  cases content with
  | ok source =>
      cases measured
      rfl
  | error cause => cases measured

variable {analysers : List Analyser} {read : String → Reading}

theorem Measures.isSummedUp (summarises : ∀ analyser ∈ analysers, analyser.Summarises) {path : String}
    {entry : FileEntry} (measures : Measures analysers read path entry) : entry.IsSummedUp := by
  obtain ⟨⟨-, before, after, rfl, -⟩, -, made⟩ := measures
  exact summarises _ (by simp) path _ entry made

/-- The entries of a list of paths are those of its measured paths. -/
theorem mem_files_ofPaths_iff {paths : List String} {entry : FileEntry} :
    entry ∈ (Findings.ofPaths analysers read paths).files ↔
      ∃ path ∈ paths, Measures analysers read path entry := by
  rw [files_ofPaths, Findings.byPath, List.mem_mergeSort, List.mem_filterMap]
  simp only [entryOf?, measured?_eq_some_iff]

/-- A report that an analysis returns has been saved. -/
theorem exists_saved_of_analyse {σ : Type} {w : Workspace σ} {occasion : Occasion} {request : Request}
    {state : σ} {report : Report} (returned : (analyse w analysers occasion request state).result = .ok report) :
    ∃ before, w.save before request.root report =
      (.ok (), (analyse w analysers occasion request state).state) := by
  rcases analyse_cases w analysers occasion request state with
    ⟨fault, -, result, -⟩ | ⟨paths, -, result, after⟩
  · rw [result] at returned
    cases returned
  rw [result] at returned
  rw [after]
  simp only [keep] at returned ⊢
  split at returned
  · next saved =>
    obtain rfl := Except.ok.inj returned
    exact ⟨_, saved⟩
  · cases returned

end Analysis

namespace Command

/-- Surroundings without environment. -/
def bare : Surroundings := ⟨[], "/", [], ⟨"one", default, 4, false⟩⟩

variable {σ : Type}

section Prepared

variable {around : Surroundings} {reading? reading?' : String → Option Reading} {command : Command}
  {arguments : List String} {session session' : Session}

/-- A command that can be prepared works with what is around it, with its arguments, with the root directory
that these name, and with the settings file of this directory. -/
theorem exists_of_prepare (prepared : prepare around reading? command arguments = .ok session) :
    ∃ given file, readArguments command.flags arguments = .ok given ∧
      around.readSettings reading? (around.root given) = .ok file ∧
      session = ⟨around, given, around.root given, file.map Prod.fst, (file.map Prod.snd).getD []⟩ := by
  unfold prepare at prepared
  split at prepared
  · cases prepared
  · next given reads =>
    dsimp only at prepared
    split at prepared
    · cases prepared
    · next file found => exact ⟨given, file, reads, found, (Except.ok.inj prepared).symm⟩

theorem settled_of_prepare (prepared : prepare around reading? command arguments = .ok session) :
    session.around = around ∧ session.root = around.root session.arguments := by
  obtain ⟨given, file, -, -, rfl⟩ := exists_of_prepare prepared
  exact ⟨rfl, rfl⟩

/-- Whatever settings files there are, a command works in the same root directory. -/
theorem root_eq_of_prepare (prepared : prepare around reading? command arguments = .ok session)
    (prepared' : prepare around reading?' command arguments = .ok session') : session.root = session'.root := by
  obtain ⟨given, file, reads, -, rfl⟩ := exists_of_prepare prepared
  obtain ⟨given', file', reads', -, rfl⟩ := exists_of_prepare prepared'
  rw [Except.ok.inj (reads.symm.trans reads')]

/-- A settings file that names another directory is read for its other entries, and the root stays. -/
example :
    (prepare bare
      (fun path => if path = ".cqa.json" then
        some (.content "\x7b\"path\": \"other\", \"top\": 2\x7d".toUTF8.toList) else none)
      .analyze []).toOption.map
      (fun session => (session.root, session.text .path, session.whole .top)) = some (".", "other", 2) := by
  decide +kernel

end Prepared

/-- The analysis of a session returns a report, and the report can be shown. -/
structure Completes (w : Workspace σ) (session : Session) (state : σ) (report : Report) (text : String) :
    Prop where
  logs : ∃ level, Log.Level.parse (session.bytes .logLevel) = .ok level
  returned :
    (analyse w session.analysers session.around.occasion session.request state).result = .ok report
  shown : Render.report session.isColoured (some report) (session.text .format) = .ok text

theorem Completes.analyzeProject_eq {w : Workspace σ} {session : Session} {state : σ} {report : Report}
    {text : String} (completes : Completes w session state report text) : ∃ messages,
    analyzeProject w session state =
      ⟨(analyse w session.analysers session.around.occasion session.request state).state, text, messages,
        overThreshold? (session.whole .failOver) report⟩ := by
  obtain ⟨⟨level, logs⟩, returned, shown⟩ := completes
  unfold analyzeProject
  rw [logs]
  simp only [returned, shown]
  exact ⟨_, rfl⟩

theorem summarises_of_session {session : Session}
    (summarises : ∀ analyser ∈ session.around.analysers, analyser.Summarises) :
    ∀ analyser ∈ session.analysers, analyser.Summarises := by
  unfold Session.analysers
  split
  · intro analyser member
    rw [List.mem_singleton.mp member]
    exact Analyser.summarises_ofExtensions _
  · exact summarises

/-- The limit is positive, and the largest complexity of a report is above it. -/
def Exceeds (limit : Int) (report : Report) : Prop :=
  0 < limit ∧ limit < report.project.maxComplexity.toInt

theorem overThreshold?_of_exceeds {limit : Int} {report : Report} (exceeds : Exceeds limit report) :
    overThreshold? limit report = some (.overThreshold report.project.maxComplexity.toInt limit) :=
  if_pos exceeds

theorem overThreshold?_of_not_exceeds {limit : Int} {report : Report} (within : ¬ Exceeds limit report) :
    overThreshold? limit report = none :=
  if_neg within

theorem run_analyze_eq {w : Workspace σ} {around : Surroundings} {arguments : List String} {state : σ}
    {session : Session} (prepared : prepare around (w.reading? state) .analyze arguments = .ok session) :
    run w around .analyze arguments state = analyzeProject w session state := by
  simp only [run, reduceCtorEq, if_false, prepared, perform]

/-- The files of a returned report are the measured ones among those of the search, and its largest
complexity is above a limit exactly if that of a function of some file is. -/
theorem files_of_analyse {w : Workspace σ} {analysers : List Analyser}
    (summarises : ∀ analyser ∈ analysers, analyser.Summarises) {occasion : Occasion} {request : Request}
    {state : σ} {report : Report}
    (returned : (analyse w analysers occasion request state).result = .ok report) :
    (∃ paths, w.scan state request.root request.extensions = .ok paths ∧
      ∀ file, file ∈ report.files.getD [] ↔ ∃ path ∈ paths, Measures analysers (w.read state) path file) ∧
    ∀ limit, 0 ≤ limit →
      (limit < report.project.maxComplexity.toInt ↔ HasFunctionAbove limit (report.files.getD [])) := by
  obtain ⟨paths, told, admitted, -, rfl⟩ := exists_draft_of_analyse returned
  have files : (givenList (Findings.ofPaths analysers (w.read state) paths).files).getD [] =
      (Findings.ofPaths analysers (w.read state) paths).files := getD_givenList _
  simp only [draft, Report.assemble, files]
  refine ⟨⟨paths, admitted.found, fun file => mem_files_ofPaths_iff⟩, fun limit nonneg => ?_⟩
  refine lt_maxComplexity_iff nonneg fun entry member => ?_
  obtain ⟨path, -, measures⟩ := mem_files_ofPaths_iff.mp member
  exact measures.isSummedUp summarises

/-- Where the analysis and the showing of its report succeed, the command faults, and the program ends with
status two, exactly if the limit is positive and some function of some file of the report is more complex;
else the program ends with status zero.  The files of the report are the measured ones among those of the
search in the root directory that the arguments name, whatever is ranked or shown; and whatever the verdict,
the report has been shown and saved. -/
theorem threshold_exceeded_iff (w : Workspace σ) {around : Surroundings}
    (summarises : ∀ analyser ∈ around.analysers, analyser.Summarises) {arguments : List String} {state : σ}
    {session : Session} {report : Report} {text : String}
    (prepared : prepare around (w.reading? state) .analyze arguments = .ok session)
    (completes : Completes w session state report text) :
    ((∃ highest, (run w around .analyze arguments state).fault =
        some (.overThreshold highest (session.whole .failOver))) ↔
      0 < session.whole .failOver ∧ HasFunctionAbove (session.whole .failOver) (report.files.getD [])) ∧
    ((Program.run w around ("analyze" :: arguments) state).status = 2 ↔
      0 < session.whole .failOver ∧ HasFunctionAbove (session.whole .failOver) (report.files.getD [])) ∧
    ((Program.run w around ("analyze" :: arguments) state).status = 0 ↔
      ¬ (0 < session.whole .failOver ∧
        HasFunctionAbove (session.whole .failOver) (report.files.getD []))) ∧
    session.root = around.root session.arguments ∧
    (∃ paths, w.scan state session.root session.request.extensions = .ok paths ∧
      ∀ file, file ∈ report.files.getD [] ↔
        ∃ path ∈ paths, Measures session.analysers (w.read state) path file) ∧
    (Program.run w around ("analyze" :: arguments) state).output = text ∧
    ∃ before, w.save before session.root report =
      (.ok (), (Program.run w around ("analyze" :: arguments) state).state) := by
  obtain ⟨rfl, rooted⟩ := settled_of_prepare prepared
  have ran := run_analyze_eq prepared
  obtain ⟨messages, analyzed⟩ := completes.analyzeProject_eq
  have ended : Program.run w session.around ("analyze" :: arguments) state =
      .ofOutcome (analyzeProject w session state) := by
    rw [← ran]
    rfl
  obtain ⟨files, above⟩ := files_of_analyse (summarises_of_session summarises) completes.returned
  have exceeds_iff : Exceeds (session.whole .failOver) report ↔
      0 < session.whole .failOver ∧ HasFunctionAbove (session.whole .failOver) (report.files.getD []) :=
    and_congr_right fun positive => above _ (Int.le_of_lt positive)
  obtain ⟨before, saved⟩ := exists_saved_of_analyse completes.returned
  rw [ran, ended, analyzed, ← exceeds_iff]
  by_cases exceeds : Exceeds (session.whole .failOver) report
  · rw [overThreshold?_of_exceeds exceeds]
    exact ⟨iff_of_true ⟨_, rfl⟩ exceeds, iff_of_true rfl exceeds,
      iff_of_false (by simp [Program.Exit.ofOutcome, Program.statusAfter, Fault.cause]) (not_not_intro exceeds),
      rooted, files, rfl, before, saved⟩
  · rw [overThreshold?_of_not_exceeds exceeds]
    exact ⟨iff_of_false (by simp) exceeds, iff_of_false (by simp [Program.Exit.ofOutcome]) exceeds,
      iff_of_true rfl exceeds, rooted, files, rfl, before, saved⟩

/-- Two files, each with one function of complexity two. -/
def twoBranching : Memory where
  files := [("a.c", .content "int f() { if (x) { } while (y) { } }".toUTF8.toList),
    ("b.c", .content "int g() { if (x) { } while (y) { } }".toUTF8.toList)]
  reports := []
  runs := []
  failures := ⟨none, none, none, none⟩

/-- The session in which at most complexity one is allowed and one function is ranked. -/
def strict : Session := ⟨bare, ⟨[("fail-over", .whole 1), ("top", .whole 1)], ["p"]⟩, "p", none, []⟩

/-- The report on the two files. -/
def branchingReport : Report :=
  draft strict.analysers (Memory.workspace.read twoBranching) bare.occasion strict.request ["a.c", "b.c"]

theorem completes_branchingReport :
    Completes Memory.workspace strict twoBranching branchingReport (branchingReport.text true) where
  logs := by
    have bytes : strict.bytes .logLevel = Text.Utf8.encode "warn" := by decide +kernel
    rw [bytes, Log.Level.parse, Text.Utf8.decodeText_encode]
    exact ⟨_, rfl⟩
  returned := rfl
  shown := by
    have name : Render.normalFormat (strict.text .format) = "text" := by decide +kernel
    have found : Render.standard.get? "text" = some ("text", .text) := by decide +kernel
    rw [Render.report, name, found]
    rfl

/-- The function of the second file is not ranked, and yet it counts. -/
theorem threshold_exceeded_by_unranked :
    (Program.run Memory.workspace bare ["analyze", "--fail-over", "1", "--top", "1", "p"] twoBranching).status =
      2 := by
  have prepared : prepare bare (Memory.workspace.reading? twoBranching) .analyze
      ["--fail-over", "1", "--top", "1", "p"] = .ok strict := rfl
  have summarises : ∀ analyser ∈ bare.analysers, analyser.Summarises := by
    intro analyser member
    exact nomatch member
  obtain ⟨-, exits, -, -, ⟨paths, found, files⟩, -⟩ :=
    threshold_exceeded_iff Memory.workspace summarises prepared completes_branchingReport
  obtain rfl : ["a.c", "b.c"] = paths := Except.ok.inj found
  have second : ∃ file, Measures strict.analysers (Memory.workspace.read twoBranching) "b.c" file ∧
      ∃ function ∈ file.functionList, (1 : Int) < function.complexity.toInt :=
    ⟨_, .entry ⟨rfl, [], [], rfl, nofun⟩ (.whole _) rfl, by decide +kernel⟩
  obtain ⟨file, measures, above⟩ := second
  exact exits.mpr ⟨by decide, file, (files file).mpr ⟨"b.c", by decide, measures⟩, above⟩

end Command

end CodeGauge
