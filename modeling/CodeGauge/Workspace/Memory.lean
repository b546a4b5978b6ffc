/-
Module: CodeGauge.Workspace.Memory
Purpose: A workspace that is kept in memory and whose services can be told to fail.
Main exports:
  Memory, Memory.workspace
-/
import CodeGauge.Workspace

namespace CodeGauge

open CodeGauge.Analysis

/-!
The files are listed as they stand, whatever root and extensions are asked for.  One report is kept
for each root; the runs of all roots are in one history.  The analysis can be tried against every
combination of failures in this workspace.
-/

/-- The services that fail, with their reasons. -/
structure Failures where
  scan : Option String
  save : Option String
  load : Option String
  history : Option String
deriving DecidableEq, Repr, Inhabited

/-- A workspace in memory. -/
structure Memory where
  files : List (String × Reading)
  /-- The saved reports with their roots. -/
  reports : List (String × Report)
  /-- The recorded runs, the first one first. -/
  runs : List Run
  failures : Failures
deriving DecidableEq, Repr, Inhabited

namespace Memory

/-- Fail for a reason, if there is one. -/
def attempt {α : Type} (reason : Option String) (value : α) : Except Fault α :=
  match reason with
  | some text => .error (.other text)
  | none => .ok value

/-- Whether there is a file with a path. -/
def isFile (m : Memory) (path : String) : Bool := m.files.any fun f => f.1 == path

/-- What a path gives; the first file of that path counts. -/
def read (m : Memory) (path : String) : Reading :=
  match m.files.find? (fun f => f.1 == path) with
  | some (_, reading) => reading
  | none => .notOpened "file does not exist"

/-- The report saved for a root. -/
def report? (m : Memory) (root : String) : Option Report :=
  (m.reports.find? (fun r => r.1 == root)).map Prod.snd

/-- Keep a report for a root in place of the one kept before. -/
def save (m : Memory) (root : String) (report : Report) : Except Fault Unit × Memory :=
  match m.failures.save with
  | some text => (.error (.other text), m)
  | none => (.ok (), { m with reports := (root, report) :: m.reports.filter (fun r => r.1 != root) })

/-- The report kept for a root. -/
def load (m : Memory) (root : String) : Except Fault Report :=
  match m.failures.load with
  | some text => .error (.other text)
  | none =>
    match m.report? root with
    | some report => .ok report
    | none => .error (.other "nothing saved")

/-- Add a run to the history. -/
def record (m : Memory) (_root : String) (run : Run) : Except Fault Unit × Memory :=
  match m.failures.history with
  | some text => (.error (.other text), m)
  | none => (.ok (), { m with runs := m.runs ++ [run] })

/-- The last runs, as many as asked for, or all if the number is not positive. -/
def lastRuns (m : Memory) (limit : Int) : List Run :=
  if limit ≤ 0 then m.runs.reverse else m.runs.reverse.take limit.toNat

/-- The workspace. -/
def workspace : Workspace Memory where
  scan m _ _ := attempt m.failures.scan (m.files.map Prod.fst)
  isFile := isFile
  read := read
  save := save
  load := load
  record := some record
  list m _ limit := (attempt m.failures.history (m.lastRuns limit), m)

end Memory

end CodeGauge
