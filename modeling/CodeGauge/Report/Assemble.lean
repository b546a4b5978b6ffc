/-
Module: CodeGauge.Report.Assemble
Purpose: Making a report of the entries of a project's files.
Main exports:
  ProjectTotals.ofFiles, ranking, Report.assemble
-/
import CodeGauge.Report.Summary

namespace CodeGauge

open CodeGauge.Number CodeGauge.Time

/-!
Totals are sums of the files' summaries.  The ranking orders all functions by falling complexity and
keeps functions of equal complexity in the order of the files and of their places in them.
-/

/-- The functions of an entry. -/
def FileEntry.functionList (f : FileEntry) : List FunctionEntry := f.functions.getD []

/-- All functions of a project, file by file. -/
def allFunctions (files : List FileEntry) : List FunctionEntry :=
  files.flatMap FileEntry.functionList

namespace ProjectTotals

/-- What files add up to. -/
def ofFiles (files : List FileEntry) : ProjectTotals :=
  let functions := total (files.map (fun f => f.summary.functionsCount))
  let complexity := total (files.map (fun f => f.summary.complexityTotal))
  let unconventional := total (files.map (fun f => f.summary.nonCamelCase))
  { totalFiles := Int64.ofNat files.length
    totalFunctions := functions
    totalComplexity := complexity
    maxComplexity := largest (files.map (fun f => f.summary.complexityMax))
    avgComplexity := if 0 < functions then quotient complexity functions else .zero
    zeroComplexityFunctions := tally (fun f => f.complexity == 0) (allFunctions files)
    nonCamelCaseFunctions := unconventional
    nonCamelCasePct :=
      if 0 < functions then
        ((Binary64.ofInt 100).mul (Binary64.ofInt unconventional.toInt)).div
          (Binary64.ofInt functions.toInt)
      else .zero }

end ProjectTotals

/-- How many functions a report ranks if it is not told. -/
def defaultTop : Int := 3

/-- The functions of highest complexity, at most `top` of them, or three if `top` is not positive. -/
def ranking (top : Int) (functions : List FunctionEntry) : List FunctionEntry :=
  let count := if top ≤ 0 then defaultTop else top
  (functions.mergeSort (fun f g => decide (g.complexity ≤ f.complexity))).take count.toNat

/-- A list that is not given if it is empty. -/
def givenList {α : Type} (items : List α) : Option (List α) :=
  if items.isEmpty then none else some items

/-- The report on the files of a root directory. -/
def Report.assemble (runId : String) (now : Timestamp) (root : String) (files : List FileEntry)
    (warnings : List String) (top : Int) : Report where
  runId
  rootPath := root
  generatedAt := now
  files := givenList files
  project := ProjectTotals.ofFiles files
  topFunctions := givenList (ranking top (allFunctions files))
  metricMetadata := some MetricInfo.all
  warnings

end CodeGauge
