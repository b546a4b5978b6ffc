/-
Module: CodeGauge.Analysis.Run
Purpose: The analysis of a project, from the search for files to the saved report.
Main exports:
  Request, Occasion, Execution, analyse
-/
import CodeGauge.Analysis.Findings
import CodeGauge.Report.Assemble
import CodeGauge.Workspace

namespace CodeGauge.Analysis

open CodeGauge.Time

/-!
An analysis searches a root for files, measures them, adds a line to the run history and saves the
report.  A history that cannot be written costs a warning at the end of the report, and the line that
would have been added says nothing of that warning.  Everything else that fails ends the analysis
before anything is saved.
-/

/-- What is asked of an analysis. -/
structure Request where
  root : String
  extensions : List String
  /-- How many functions to rank; three if not positive. -/
  top : Int
  skipHistory : Bool
  /-- How many files to measure at once; one for each processor if not positive. -/
  workers : Int
deriving DecidableEq, Repr, Inhabited

/-- What an analysis finds around it. -/
structure Occasion where
  runId : String
  now : Timestamp
  processors : Nat
  /-- Whether the analysis has been told to stop. -/
  cancelled : Bool
deriving DecidableEq, Repr, Inhabited

/-- What an analysis leaves: its report or why there is none, the state of the workspace, and what was
logged. -/
structure Execution (σ : Type) where
  result : Except Fault Report
  state : σ
  events : List Log.Event

/-- The number of workers that a request leads to. -/
def workerCount (request : Request) (occasion : Occasion) : Int :=
  if request.workers ≤ 0 then max 1 occasion.processors else request.workers

/-- What is logged once the files are known. -/
def scanEvent (request : Request) (occasion : Occasion) (paths : List String) : Log.Event :=
  ⟨.info, "scanning files",
    [("root", request.root), ("files", toString paths.length),
     ("workers", toString (workerCount request occasion))]⟩

/-- What is logged once the report is made. -/
def completeEvent (report : Report) : Log.Event :=
  ⟨.info, "analysis complete",
    [("run", report.runId), ("files", toString report.project.totalFiles.toInt),
     ("functions", toString report.project.totalFunctions.toInt)]⟩

/-- The report that an analysis of some paths makes, before the history has its say. -/
def draft (analysers : List Analyser) (read : String → Reading) (occasion : Occasion)
    (request : Request) (paths : List String) : Report :=
  let findings := Findings.ofPaths analysers read paths
  .assemble occasion.runId occasion.now request.root findings.files findings.warnings request.top

variable {σ : Type}

/-- A report after its run has been offered to the history: the report itself, or with a warning if
the history could not be written. -/
def recordRun (w : Workspace σ) (request : Request) (state : σ) (report : Report) :
    Report × σ × List Log.Event :=
  match w.record with
  | none => (report, state, [])
  | some record =>
    if request.skipHistory then (report, state, [])
    else
      match record state request.root report.toRun with
      | (.ok _, state) => (report, state, [])
      | (.error fault, state) =>
        ({ report with warnings := report.warnings ++ ["history: " ++ fault.message] }, state,
          [⟨.warn, "history disabled for this run", [("err", fault.message)]⟩])

/-- Record the run of a report and save the report. -/
def keep (w : Workspace σ) (request : Request) (state : σ) (report : Report) : Execution σ :=
  let (report, state, events) := recordRun w request state report
  match w.save state request.root report with
  | (.ok _, state) => ⟨.ok report, state, events⟩
  | (.error fault, state) => ⟨.error (.within "save report" fault), state, events⟩

/-- The analysis of the paths that a search has found. -/
def analysePaths (w : Workspace σ) (analysers : List Analyser) (occasion : Occasion)
    (request : Request) (state : σ) (paths : List String) : Execution σ :=
  let found := [scanEvent request occasion paths]
  if occasion.cancelled then ⟨.error .cancelled, state, found⟩
  else
    let measured := (arrivals analysers (w.read state) paths).flatMap (fun a => a.2.events a.1)
    let report := draft analysers (w.read state) occasion request paths
    let kept := keep w request state report
    { kept with events := found ++ measured ++ completeEvent report :: kept.events }

/-- The analysis of a project. -/
def analyse (w : Workspace σ) (analysers : List Analyser) (occasion : Occasion) (request : Request)
    (state : σ) : Execution σ :=
  if request.root.isEmpty then ⟨.error (.other "root path is required"), state, []⟩
  else
    match w.scan state request.root request.extensions with
    | .error fault => ⟨.error (.within "scan source files" fault), state, []⟩
    | .ok [] => ⟨.error (.noSourceFiles request.root), state, []⟩
    | .ok (path :: paths) => analysePaths w analysers occasion request state (path :: paths)

end CodeGauge.Analysis
