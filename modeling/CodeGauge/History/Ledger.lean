/-
Module: CodeGauge.History.Ledger
Purpose: The run history of one root directory.
Main exports:
  Ledger, Ledger.record, Ledger.list
-/
import CodeGauge.Fault
import CodeGauge.Report.Basic
import CodeGauge.Text.Quoted

namespace CodeGauge

open CodeGauge.Number CodeGauge.Time CodeGauge.Text

/-!
A ledger has one row for each recorded run.  A row keeps its time as a text of fixed width in
universal time, and rows are listed by that text, the greatest one first; of equal times the row
recorded last comes first.  A row without an average or a percentage is refused, and so is a second
row of the same run.
-/

/-- One row: a run whose time is written as a text. -/
structure Row where
  id : String
  rootPath : String
  time : String
  files : Int64
  functions : Int64
  maxComplexity : Int64
  avgComplexity : Binary64
  nonCamelCasePct : Binary64
  warnings : Int64
deriving DecidableEq, Repr, Inhabited

namespace Row

/-- A number as a row keeps it: the two zeros are one. -/
def keptNumber (x : Binary64) : Binary64 := if x.magnitudeBits = 0 then .zero else x

/-- The row of a run. -/
def ofRun (run : Run) : Row where
  id := run.id
  rootPath := run.rootPath
  time := run.generatedAt.sortText
  files := run.files
  functions := run.functions
  maxComplexity := run.maxComplexity
  avgComplexity := keptNumber run.avgComplexity
  nonCamelCasePct := keptNumber run.nonCamelCasePct
  warnings := run.warnings

/-- The run of a row, if its time can be read. -/
def toRun (row : Row) : Except Fault Run :=
  match Timestamp.readSortText? row.time with
  | none =>
      .error (.within ("parse run time " ++ quoted row.time)
        (.malformed ("cannot read " ++ quoted row.time ++ " as a time")))
  | some time => .ok
      { id := row.id
        rootPath := row.rootPath
        generatedAt := time
        files := row.files
        functions := row.functions
        maxComplexity := row.maxComplexity
        avgComplexity := row.avgComplexity
        nonCamelCasePct := row.nonCamelCasePct
        warnings := row.warnings }

end Row

/-- The rows of a history, the first recorded one first. -/
structure Ledger where
  rows : List Row
deriving DecidableEq, Repr, Inhabited

namespace Ledger

/-- A history without runs. -/
def empty : Ledger := ⟨[]⟩

/-- Why a run is refused. -/
inductive Refusal where
  /-- The run has no average complexity. -/
  | noAverage
  /-- The run has no percentage. -/
  | noPercentage
  /-- A run of the same identifier has a row. -/
  | repeated
deriving DecidableEq, Repr, Inhabited

/-- A refusal in words. -/
def Refusal.message : Refusal → String
  | .noAverage => "constraint failed: NOT NULL constraint failed: runs.avg_complexity (1299)"
  | .noPercentage => "constraint failed: NOT NULL constraint failed: runs.non_camel_case_pct (1299)"
  | .repeated => "constraint failed: UNIQUE constraint failed: runs.id (1555)"

/-- Why a ledger refuses a run, if it does. -/
def refusal? (ledger : Ledger) (run : Run) : Option Refusal :=
  if run.avgComplexity.isNaN then some .noAverage
  else if run.nonCamelCasePct.isNaN then some .noPercentage
  else if ledger.rows.any (fun row => row.id == run.id) then some .repeated
  else none

/-- Add a run. -/
def record (ledger : Ledger) (run : Run) : Except Fault Ledger :=
  match ledger.refusal? run with
  | some refusal => .error (.within ("record run " ++ run.id) (.other refusal.message))
  | none => .ok ⟨ledger.rows ++ [Row.ofRun run]⟩

/-- How many runs are listed if no number is given. -/
def defaultLimit : Int := 20

/-- The rows in the order of the list. -/
def newestFirst (ledger : Ledger) : List Row :=
  ledger.rows.reverse.mergeSort (fun r s => decide (s.time ≤ r.time))

/-- The runs of some rows; the first row that cannot be read spoils the list. -/
def readRows : List Row → Except Fault (List Run)
  | [] => .ok []
  | row :: rows =>
    match row.toRun with
    | .error fault => .error fault
    | .ok run =>
      match readRows rows with
      | .error fault => .error fault
      | .ok runs => .ok (run :: runs)

/-- The latest runs, at most `limit` of them, or twenty if `limit` is not positive. -/
def list (ledger : Ledger) (limit : Int) : Except Fault (List Run) :=
  let count := if limit ≤ 0 then defaultLimit else limit
  readRows (ledger.newestFirst.take count.toNat)

end Ledger

end CodeGauge
