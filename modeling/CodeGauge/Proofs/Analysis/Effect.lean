/-
Module: CodeGauge.Proofs.Analysis.Effect
Purpose: What analyses leave in the stores of saved reports and of recorded runs, whatever fails.
Main exports:
  analyse_cases, Call, Call.run_cases, Call.Contract, effects_of_calls, runs_of_failed_calls
-/
import CodeGauge.Analysis.Run
import CodeGauge.Workspace.Memory
import CodeGauge.Workspace.Query

namespace CodeGauge.Analysis

/-!
An analysis ends in one of three ways.  It is refused before it has touched a store; or its run has been
offered to the history and its report cannot be saved; or the report is saved and returned.  The history
comes first, since a history that cannot be written is told in the report that is saved.
-/

/-! ### How an analysis ends -/

section Ends

variable {σ : Type}

/-- Why an analysis is refused before it has touched a store. -/
inductive Refused (w : Workspace σ) (occasion : Occasion) (request : Request) (state : σ) :
    Fault → Prop where
  | noRoot (empty : request.root.isEmpty = true) :
      Refused w occasion request state (.other "root path is required")
  | noSearch {fault : Fault} (broken : w.scan state request.root request.extensions = .error fault) :
      Refused w occasion request state (.within "scan source files" fault)
  | noFiles (found : w.scan state request.root request.extensions = .ok []) :
      Refused w occasion request state (.noSourceFiles request.root)
  | stopped (cancelled : occasion.cancelled = true) : Refused w occasion request state .cancelled

/-- An analysis that has a root and has not been told to stop finds some paths. -/
structure Admitted (w : Workspace σ) (occasion : Occasion) (request : Request) (state : σ)
    (paths : List String) : Prop where
  rooted : request.root.isEmpty = false
  found : w.scan state request.root request.extensions = .ok paths
  someFile : paths ≠ []
  going : occasion.cancelled = false

theorem Admitted.not_refused {w : Workspace σ} {occasion : Occasion} {request : Request} {state : σ}
    {paths : List String} {fault : Fault} (admitted : Admitted w occasion request state paths) :
    ¬ Refused w occasion request state fault := by
  intro refused
  cases refused with
  | noRoot empty => simp [admitted.rooted] at empty
  | noSearch broken => simp [admitted.found] at broken
  | noFiles found =>
      rw [admitted.found, Except.ok.injEq] at found
      exact admitted.someFile found
  | stopped cancelled => simp [admitted.going] at cancelled

/-- An analysis is refused and leaves everything as it was, or the report on the paths it finds is kept. -/
theorem analyse_cases (w : Workspace σ) (analysers : List Analyser) (occasion : Occasion)
    (request : Request) (state : σ) :
    (∃ fault, Refused w occasion request state fault ∧
      (analyse w analysers occasion request state).result = .error fault ∧
      (analyse w analysers occasion request state).state = state) ∨
    ∃ paths, Admitted w occasion request state paths ∧
      (analyse w analysers occasion request state).result =
        (keep w request state (draft analysers (w.read state) occasion request paths)).result ∧
      (analyse w analysers occasion request state).state =
        (keep w request state (draft analysers (w.read state) occasion request paths)).state := by
  unfold analyse
  by_cases empty : request.root.isEmpty = true
  · rw [if_pos empty]
    exact Or.inl ⟨_, .noRoot empty, rfl, rfl⟩
  rw [if_neg empty]
  cases found : w.scan state request.root request.extensions with
  | error fault => exact Or.inl ⟨_, .noSearch found, rfl, rfl⟩
  | ok paths =>
      cases paths with
      | nil => exact Or.inl ⟨_, .noFiles found, rfl, rfl⟩
      | cons path paths =>
          dsimp only
          unfold analysePaths
          by_cases cancelled : occasion.cancelled = true
          · rw [if_pos cancelled]
            exact Or.inl ⟨_, .stopped cancelled, rfl, rfl⟩
          · rw [if_neg cancelled]
            exact Or.inr ⟨path :: paths,
              ⟨by simpa using empty, found, by simp, by simpa using cancelled⟩, rfl, rfl⟩

end Ends

/-! ### Calls -/

/-- One analysis in a memory: the files it finds there, the services that fail, and what is asked. -/
structure Call where
  files : List (String × Reading)
  failures : Failures
  /-- Whether there is a history to add to. -/
  hasHistory : Bool
  analysers : List Analyser
  occasion : Occasion
  request : Request

namespace Call

/-- The memory that the analysis finds: the stores as they were left, with the files and failures of the
call. -/
def enter (call : Call) (m : Memory) : Memory := { m with files := call.files, failures := call.failures }

/-- The services that the analysis is given. -/
def workspace (call : Call) : Workspace Memory :=
  if call.hasHistory then Memory.workspace else Memory.workspace.withoutHistory

/-- The analysis. -/
def run (call : Call) (m : Memory) : Execution Memory :=
  analyse call.workspace call.analysers call.occasion call.request (call.enter m)

/-- Whether the history is asked to record the run. -/
def offersRun (call : Call) : Bool := call.hasHistory && !call.request.skipHistory

/-- The paths that the search lists. -/
def paths (call : Call) : List String := call.files.map Prod.fst

/-- What a path gives. -/
def read (call : Call) : String → Reading := (call.enter default).read

/-- The warnings on files, in order. -/
def fileWarnings (call : Call) : List String :=
  Findings.inOrder
    ((arrivals call.analysers call.read call.paths).filterMap fun a => a.2.warning? a.1)

/-- The report before the history has its say. -/
def drafted (call : Call) : Report :=
  draft call.analysers call.read call.occasion call.request call.paths

/-- The warning on a history that was asked to record the run and could not. -/
def historyWarning (call : Call) : List String :=
  if call.offersRun then (call.failures.history.map ("history: " ++ ·)).toList else []

/-- A report after the history has had its say. -/
def finish (call : Call) (report : Report) : Report :=
  { report with warnings := report.warnings ++ call.historyWarning }

/-- The run was offered to the history, and the history has taken it. -/
def IsRecorded (call : Call) : Prop := call.offersRun = true ∧ call.failures.history = none

instance (call : Call) : Decidable call.IsRecorded := inferInstanceAs (Decidable (_ ∧ _))

/-- The rows that the history gains from a report. -/
def rows (call : Call) (report : Report) : List Run := if call.IsRecorded then [report.toRun] else []

/-- Nothing stops the analysis before it gets as far as the stores. -/
def Reaches (call : Call) : Prop :=
  call.request.root.isEmpty = false ∧ call.failures.scan = none ∧ call.files ≠ [] ∧
    call.occasion.cancelled = false

instance (call : Call) : Decidable call.Reaches :=
  inferInstanceAs (Decidable (_ ∧ _ ∧ _ ∧ _))

theorem scan_workspace (call : Call) (m : Memory) (root : String) (extensions : List String) :
    call.workspace.scan (call.enter m) root extensions =
      Memory.attempt call.failures.scan call.paths := by
  unfold workspace
  split <;> rfl

theorem read_workspace (call : Call) (m : Memory) : call.workspace.read (call.enter m) = call.read := by
  unfold workspace
  split <;> rfl

theorem save_workspace (call : Call) : call.workspace.save = Memory.save := by
  unfold workspace
  split <;> rfl

theorem finish_of_no_warning {call : Call} (none : call.historyWarning = []) (report : Report) :
    call.finish report = report := by
  rw [finish, none, List.append_nil]

theorem record_of_ok {call : Call} (works : call.failures.history = none) (m : Memory) (root : String)
    (run : Run) :
    Memory.record (call.enter m) root run = (.ok (), { call.enter m with runs := m.runs ++ [run] }) := by
  simp only [Memory.record, enter, works]

theorem record_of_failure {call : Call} {text : String} (fails : call.failures.history = some text)
    (m : Memory) (root : String) (run : Run) :
    Memory.record (call.enter m) root run = (.error (.other text), call.enter m) := by
  simp only [Memory.record, enter, fails]

/-- What the history makes of a report and of itself. -/
theorem recordRun_eq (call : Call) (m : Memory) (report : Report) : ∃ events,
    recordRun call.workspace call.request (call.enter m) report =
      (call.finish report, { call.enter m with runs := m.runs ++ call.rows report }, events) := by
  have record : call.workspace.record = if call.hasHistory then some Memory.record else none := by
    unfold workspace
    split <;> rfl
  have noRows : call.enter m = { call.enter m with runs := m.runs ++ [] } := by
    rw [List.append_nil]
    rfl
  have untouched : call.offersRun = false →
      (report, call.enter m, ([] : List Log.Event)) =
        (call.finish report, { call.enter m with runs := m.runs ++ call.rows report }, []) := by
    intro notOffered
    have notRecorded : ¬ call.IsRecorded := fun recorded => by simp [IsRecorded, notOffered] at recorded
    rw [finish_of_no_warning (by rw [historyWarning, notOffered]; rfl), rows, if_neg notRecorded, ← noRows]
  unfold recordRun
  rw [record]
  cases has : call.hasHistory with
  | false => exact ⟨[], untouched (by simp [offersRun, has])⟩
  | true =>
      cases skips : call.request.skipHistory with
      | true => exact ⟨[], untouched (by simp [offersRun, skips])⟩
      | false =>
          have offered : call.offersRun = true := by simp [offersRun, has, skips]
          simp only [if_true, Bool.false_eq_true, if_false]
          cases failure : call.failures.history with
          | none =>
              have recorded : call.IsRecorded := ⟨offered, failure⟩
              rw [finish_of_no_warning (by rw [historyWarning, offered, failure]; rfl), rows,
                if_pos recorded, record_of_ok failure]
              exact ⟨[], rfl⟩
          | some text =>
              have notRecorded : ¬ call.IsRecorded := fun recorded => by simp [recorded.2] at failure
              rw [rows, if_neg notRecorded, ← noRows, record_of_failure failure, finish, historyWarning,
                offered, failure]
              exact ⟨_, rfl⟩

/-- The three ways in which an analysis in a memory can end. -/
theorem run_cases (call : Call) (m : Memory) :
    (¬ call.Reaches ∧ (∃ fault, (call.run m).result = .error fault) ∧
      (call.run m).state = call.enter m) ∨
    (call.Reaches ∧ ∃ text, call.failures.save = some text ∧
      (call.run m).result = .error (.within "save report" (.other text)) ∧
      (call.run m).state = { call.enter m with runs := m.runs ++ call.rows call.drafted }) ∨
    (call.Reaches ∧ call.failures.save = none ∧ (call.run m).result = .ok (call.finish call.drafted) ∧
      (call.run m).state = { call.enter m with
        runs := m.runs ++ call.rows call.drafted
        reports := (call.request.root, call.finish call.drafted) ::
          m.reports.filter (fun r => r.1 != call.request.root) }) := by
  have scan := call.scan_workspace m call.request.root call.request.extensions
  unfold run
  rcases analyse_cases call.workspace call.analysers call.occasion call.request (call.enter m) with
    ⟨fault, refused, result, state⟩ | ⟨paths, admitted, result, state⟩
  · refine Or.inl ⟨?_, ⟨fault, result⟩, state⟩
    rintro ⟨rooted, searches, someFile, going⟩
    rw [searches] at scan
    have admitted : Admitted call.workspace call.occasion call.request (call.enter m) call.paths :=
      ⟨rooted, scan, by simpa [Call.paths] using someFile, going⟩
    exact admitted.not_refused refused
  · have found := scan.symm.trans admitted.found
    have reaches : call.Reaches ∧ paths = call.paths := by
      cases searches : call.failures.scan with
      | some text => simp [Memory.attempt, searches] at found
      | none =>
          rw [searches, Memory.attempt, Except.ok.injEq] at found
          have someFile := admitted.someFile
          rw [← found] at someFile
          exact ⟨⟨admitted.rooted, searches, by simpa [Call.paths] using someFile, admitted.going⟩,
            found.symm⟩
    obtain ⟨reaches, rfl⟩ := reaches
    obtain ⟨events, recorded⟩ := call.recordRun_eq m call.drafted
    rw [result, state, call.read_workspace m]
    unfold keep
    rw [show draft call.analysers call.read call.occasion call.request call.paths = call.drafted from rfl,
      recorded, call.save_workspace]
    cases failure : call.failures.save with
    | some text =>
        refine Or.inr (Or.inl ⟨reaches, text, rfl, ?_⟩)
        simp [Memory.save, enter, failure]
    | none =>
        refine Or.inr (Or.inr ⟨reaches, rfl, ?_⟩)
        simp [Memory.save, enter, failure]

/-! ### What one call leaves behind -/

theorem report?_of_saved {m : Memory} {root : String} {report : Report} {kept : List (String × Report)}
    (saved : m.reports = (root, report) :: kept.filter (fun r => r.1 != root)) :
    m.report? root = some report ∧
      ∀ other, other ≠ root →
        m.report? other = (kept.find? (fun r => r.1 == other)).map Prod.snd := by
  unfold Memory.report?
  rw [saved]
  refine ⟨by simp, ?_⟩
  intro other different
  rw [List.find?_cons_of_neg (by simpa using different.symm), List.find?_filter]
  congr 2
  funext r
  by_cases same : r.1 = other
  · simp [same, different]
  · simp [same]

/-- What an analysis that returns a report has done to the stores.  The report is the one saved for its
root, and all other reports are as before.  The history has one row more exactly if it was asked and could
record the run.  The warnings are those on files, in order, and behind them one on the history exactly if
it was asked and failed. -/
structure Keeps (call : Call) (before after : Memory) (report : Report) : Prop where
  saved : after.report? call.request.root = some report
  othersKept : ∀ root, root ≠ call.request.root → after.report? root = before.report? root
  recorded : call.IsRecorded → after.runs = before.runs ++ [report.toRun]
  unrecorded : ¬ call.IsRecorded → after.runs = before.runs
  warned : ∀ text, report.warnings = call.fileWarnings ++ ["history: " ++ text] ↔
    call.offersRun = true ∧ call.failures.history = some text
  unwarned : report.warnings = call.fileWarnings ↔
    ¬ (call.offersRun = true ∧ call.failures.history.isSome)

/-- What an analysis does to the stores: nothing to the reports if it returns a fault. -/
structure Contract (call : Call) (m : Memory) : Prop where
  faultKeeps : ∀ fault, (call.run m).result = .error fault →
    ∀ root, (call.run m).state.report? root = m.report? root
  reportKept : ∀ report, (call.run m).result = .ok report → call.Keeps m (call.run m).state report

theorem historyWarning_of_recorded {call : Call} (recorded : call.IsRecorded) :
    call.historyWarning = [] := by
  rw [historyWarning, recorded.1, recorded.2]
  rfl

theorem historyWarning_eq_singleton_iff (call : Call) (text : String) :
    call.historyWarning = ["history: " ++ text] ↔
      call.offersRun = true ∧ call.failures.history = some text := by
  unfold historyWarning
  cases call.offersRun with
  | false => simp
  | true => cases call.failures.history <;> simp

theorem historyWarning_eq_nil_iff (call : Call) :
    call.historyWarning = [] ↔ ¬ (call.offersRun = true ∧ call.failures.history.isSome) := by
  unfold historyWarning
  cases call.offersRun with
  | false => simp
  | true => cases call.failures.history <;> simp

theorem warnings_finish (call : Call) :
    (call.finish call.drafted).warnings = call.fileWarnings ++ call.historyWarning := rfl

/-- A report that is saved is kept as it should be. -/
theorem keeps_of_saved {call : Call} {m after : Memory} (runs : after.runs = m.runs ++ call.rows call.drafted)
    (reports : after.reports = (call.request.root, call.finish call.drafted) ::
      m.reports.filter (fun r => r.1 != call.request.root)) :
    call.Keeps m after (call.finish call.drafted) where
  saved := (report?_of_saved reports).1
  othersKept := (report?_of_saved reports).2
  recorded := by
    intro recorded
    rw [runs, finish_of_no_warning (historyWarning_of_recorded recorded), rows, if_pos recorded]
  unrecorded := by
    intro notRecorded
    rw [runs, rows, if_neg notRecorded, List.append_nil]
  warned := by
    intro text
    rw [warnings_finish, List.append_cancel_left_eq, historyWarning_eq_singleton_iff]
  unwarned := by
    rw [warnings_finish, List.append_right_eq_self, historyWarning_eq_nil_iff]

theorem contract (call : Call) (m : Memory) : call.Contract m := by
  rcases call.run_cases m with ⟨-, ⟨fault, result⟩, state⟩ | ⟨-, text, -, result, state⟩ |
    ⟨-, -, result, state⟩
  · refine ⟨?_, fun report returned => by simp [result] at returned⟩
    intro _ _ root
    rw [state]
    rfl
  · refine ⟨?_, fun report returned => by simp [result] at returned⟩
    intro _ _ root
    rw [state]
    rfl
  · refine ⟨fun fault returned => by simp [result] at returned, ?_⟩
    intro report returned
    rw [result, Except.ok.injEq] at returned
    rw [← returned, state]
    exact keeps_of_saved rfl rfl

/-! ### Sequences of calls -/

/-- The calls of a sequence, each with the memory that the calls before it have left. -/
def stages (m : Memory) : List Call → List (Memory × Call)
  | [] => []
  | call :: calls => (m, call) :: stages (call.run m).state calls

/-- The memory that a sequence of calls leaves. -/
def runAll (m : Memory) : List Call → Memory
  | [] => m
  | call :: calls => runAll (call.run m).state calls

/-- The report that a call has returned for a root, if it has. -/
def returned? (root : String) (stage : Memory × Call) : Option Report :=
  if stage.2.request.root = root then (stage.2.run stage.1).result.toOption else none

/-- The report of the last call that has returned one for a root. -/
def lastReport? (root : String) (stages : List (Memory × Call)) : Option Report :=
  stages.reverse.findSome? (returned? root)

theorem report?_run (call : Call) (m : Memory) (root : String) :
    (call.run m).state.report? root = (returned? root (m, call)).or (m.report? root) := by
  have contract := call.contract m
  cases result : (call.run m).result with
  | error fault =>
      rw [contract.faultKeeps fault result]
      simp [returned?, result, Except.toOption]
  | ok report =>
      have keeps := contract.reportKept report result
      by_cases same : call.request.root = root
      · subst same
        simp [returned?, result, Except.toOption, keeps.saved]
      · simp [returned?, same, keeps.othersKept root (Ne.symm same)]

theorem report?_runAll (calls : List Call) (m : Memory) (root : String) :
    (runAll m calls).report? root = (lastReport? root (stages m calls)).or (m.report? root) := by
  induction calls generalizing m with
  | nil => rfl
  | cons call calls ih =>
      have last : lastReport? root (stages m (call :: calls)) =
          (lastReport? root (stages (call.run m).state calls)).or (returned? root (m, call)) := by
        simp [lastReport?, stages, List.findSome?_append]
      rw [runAll, ih, report?_run, last, Option.or_assoc]

theorem renderSaved_of_report? {m : Memory} {root : String} {report : Report}
    (kept : m.report? root = some report) (loads : m.failures.load = none) (colour : Bool)
    (format : String) :
    Memory.workspace.renderSaved colour root format m =
      Workspace.ofRendering (Render.report colour (some report) format) := by
  simp only [Workspace.renderSaved, Memory.workspace, Memory.load, loads, kept]

/-- A call that returns a fault has left a row exactly if the history had taken the run. -/
theorem runs_of_fault {call : Call} {m : Memory} {fault : Fault}
    (failed : (call.run m).result = .error fault) :
    (call.Reaches ∧ call.IsRecorded →
      (∃ text, call.failures.save = some text ∧ fault = .within "save report" (.other text)) ∧
      (call.run m).state.runs = m.runs ++ [call.drafted.toRun]) ∧
    (¬ (call.Reaches ∧ call.IsRecorded) → (call.run m).state.runs = m.runs) := by
  rcases call.run_cases m with ⟨notReached, -, state⟩ | ⟨reaches, text, saveFails, result, state⟩ |
    ⟨-, -, result, -⟩
  · refine ⟨fun recorded => absurd recorded.1 notReached, fun _ => ?_⟩
    rw [state]
    rfl
  · rw [result, Except.error.injEq] at failed
    rw [state]
    constructor
    · rintro ⟨-, recorded⟩
      exact ⟨⟨text, saveFails, failed.symm⟩, by simp only [rows, if_pos recorded]⟩
    · intro notRecorded
      simp only [rows, if_neg fun recorded => notRecorded ⟨reaches, recorded⟩, List.append_nil]
  · rw [result] at failed
    exact nomatch failed

/-- The run is the one of a report that the call returned, or of one that it could not save. -/
def Accounts (stage : Memory × Call) (run : Run) : Prop :=
  (∃ report, (stage.2.run stage.1).result = .ok report ∧ run = report.toRun) ∨
    ∃ text, stage.2.failures.save = some text ∧
      (stage.2.run stage.1).result = .error (.within "save report" (.other text)) ∧
      run = stage.2.drafted.toRun

theorem accounts_of_mem_runs {call : Call} {m : Memory} {run : Run}
    (member : run ∈ (call.run m).state.runs) : run ∈ m.runs ∨ Accounts (m, call) run := by
  have fromRows : run ∈ m.runs ++ call.rows call.drafted →
      run ∈ m.runs ∨ call.IsRecorded ∧ run = call.drafted.toRun := by
    intro member
    rcases List.mem_append.1 member with old | new
    · exact Or.inl old
    · by_cases recorded : call.IsRecorded
      · rw [rows, if_pos recorded, List.mem_singleton] at new
        exact Or.inr ⟨recorded, new⟩
      · rw [rows, if_neg recorded] at new
        exact nomatch new
  rcases call.run_cases m with ⟨-, -, state⟩ | ⟨-, text, saveFails, result, state⟩ |
    ⟨-, -, result, state⟩
  · rw [state] at member
    exact Or.inl member
  · rw [state] at member
    rcases fromRows member with old | ⟨-, same⟩
    · exact Or.inl old
    · exact Or.inr (Or.inr ⟨text, saveFails, result, same⟩)
  · rw [state] at member
    rcases fromRows member with old | ⟨recorded, same⟩
    · exact Or.inl old
    · rw [finish_of_no_warning (historyWarning_of_recorded recorded)] at result
      exact Or.inr (Or.inl ⟨call.drafted, result, same⟩)

theorem accounts_of_mem_runAll (calls : List Call) (m : Memory) {run : Run}
    (member : run ∈ (runAll m calls).runs) :
    run ∈ m.runs ∨ ∃ stage ∈ stages m calls, Accounts stage run := by
  induction calls generalizing m with
  | nil => exact Or.inl member
  | cons call calls ih =>
      rcases ih (call.run m).state member with earlier | ⟨stage, later, accounts⟩
      · rcases accounts_of_mem_runs earlier with old | accounts
        · exact Or.inl old
        · exact Or.inr ⟨(m, call), List.mem_cons_self, accounts⟩
      · exact Or.inr ⟨stage, List.mem_cons_of_mem _ later, accounts⟩

end Call

/-- Every call of a sequence keeps its contract, whatever fails in it.  Each root therefore has the report
of the last call that returned one for it, and the one it had before if there is none; and that report is
what is shown of the root as soon as reports can be loaded, in every format. -/
theorem effects_of_calls (calls : List Call) (m : Memory) :
    (∀ stage ∈ Call.stages m calls, stage.2.Contract stage.1) ∧
    (∀ root, (Call.runAll m calls).report? root =
      (Call.lastReport? root (Call.stages m calls)).or (m.report? root)) ∧
    ∀ root report, Call.lastReport? root (Call.stages m calls) = some report →
      ∀ later : Memory, later.reports = (Call.runAll m calls).reports → later.failures.load = none →
        ∀ colour format, Memory.workspace.renderSaved colour root format later =
          Workspace.ofRendering (Render.report colour (some report) format) := by
  refine ⟨fun stage _ => stage.2.contract stage.1, Call.report?_runAll calls m, ?_⟩
  intro root report last later same loads colour format
  have kept : later.report? root = some report := by
    have final := Call.report?_runAll calls m root
    rw [last, Option.some_or] at final
    rw [← final, Memory.report?, Memory.report?, same]
  exact Call.renderSaved_of_report? kept loads colour format

/-- A call on one source file, in which some services may fail. -/
def Call.onOneFile (reading : Reading) (failures : Failures) (cancelled : Bool) : Call where
  files := [("a.c", reading)]
  failures := failures
  hasHistory := true
  analysers := [.ofExtensions ⟨[".c"]⟩]
  occasion := ⟨"one", default, 1, cancelled⟩
  request := ⟨"p", [], 3, false, 1⟩

/-- The history fails in the first call, saving in the second one, and the third one is told to stop: the
report of the first one is shown, with its two warnings. -/
theorem effects_of_three_calls :
    let first := Call.onOneFile (.notOpened "locked") ⟨none, none, none, some "disk full"⟩ false
    let second := Call.onOneFile (.content []) ⟨none, some "disk full", none, none⟩ false
    let third := Call.onOneFile (.content []) ⟨none, none, none, none⟩ true
    (first.finish first.drafted).warnings = ["read a.c: locked", "history: disk full"] ∧
    ∀ colour format, Memory.workspace.renderSaved colour "p" format
        (Call.runAll default [first, second, third]) =
      Workspace.ofRendering (Render.report colour (some (first.finish first.drafted)) format) := by
  intro first second third
  have last : Call.lastReport? "p" (Call.stages default [first, second, third]) =
      some (first.finish first.drafted) := rfl
  refine ⟨by decide +kernel, ?_⟩
  exact (effects_of_calls [first, second, third] default).2.2 "p" _ last _ rfl rfl

/-- A call that returns a fault leaves the history as it was, unless the history had taken the run before
the report could not be saved: then the row of that report is there, and no other one.  So every run of
the history was there before, or is the one of a report that was returned, or of one that could not be
saved. -/
theorem runs_of_failed_calls (calls : List Call) (m : Memory) :
    (∀ stage ∈ Call.stages m calls, ∀ fault, (stage.2.run stage.1).result = .error fault →
      (stage.2.Reaches ∧ stage.2.IsRecorded →
        (∃ text, stage.2.failures.save = some text ∧ fault = .within "save report" (.other text)) ∧
        (stage.2.run stage.1).state.runs = stage.1.runs ++ [stage.2.drafted.toRun]) ∧
      (¬ (stage.2.Reaches ∧ stage.2.IsRecorded) →
        (stage.2.run stage.1).state.runs = stage.1.runs)) ∧
    ∀ run ∈ (Call.runAll m calls).runs,
      run ∈ m.runs ∨ ∃ stage ∈ Call.stages m calls, Call.Accounts stage run :=
  ⟨fun _ _ _ failed => Call.runs_of_fault failed, fun _ => Call.accounts_of_mem_runAll calls m⟩

/-- A report that cannot be saved has left its run in the history. -/
theorem failed_call_leaves_run :
    let call := Call.onOneFile (.content []) ⟨none, some "disk full", none, none⟩ false
    (call.run default).result = .error (.within "save report" (.other "disk full")) ∧
      (call.run default).state.runs ≠ (default : Memory).runs :=
  ⟨rfl, by decide +kernel⟩

/-- The same call, and one behind it that is told to stop: one row is left, and it is accounted for. -/
theorem runs_of_two_failed_calls :
    let first := Call.onOneFile (.content []) ⟨none, some "disk full", none, none⟩ false
    let second := Call.onOneFile (.content []) ⟨none, none, none, none⟩ true
    (first.run default).state.runs = [first.drafted.toRun] ∧
      (second.run (first.run default).state).state.runs = (first.run default).state.runs ∧
      ∃ stage ∈ Call.stages default [first, second], Call.Accounts stage first.drafted.toRun := by
  intro first second
  obtain ⟨faults, rows⟩ := runs_of_failed_calls [first, second] default
  have recorded : first.Reaches ∧ first.IsRecorded := by decide
  have stopped : ¬ (second.Reaches ∧ second.IsRecorded) := by decide
  have left := ((faults (default, first) (by simp [Call.stages]) _ rfl).1 recorded).2
  have kept := (faults ((first.run default).state, second) (by simp [Call.stages]) _ rfl).2 stopped
  refine ⟨left, kept, (rows first.drafted.toRun ?_).resolve_left List.not_mem_nil⟩
  rw [Call.runAll, Call.runAll, Call.runAll, kept, left]
  exact List.mem_singleton_self _

end CodeGauge.Analysis
