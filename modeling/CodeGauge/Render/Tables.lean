/-
Module: CodeGauge.Render.Tables
Purpose: Reports and run histories as tables.
Main exports:
  Report.tables, runTable
-/
import CodeGauge.Render.Text
import CodeGauge.Table.Layout

namespace CodeGauge

/-- A truth value as a word. -/
def yesNo (b : Bool) : String := if b then "yes" else "no"

namespace Report

/-- The table of totals. -/
def totalsTable (r : Report) : Table where
  headings := ["Metric", "Value"]
  rows :=
    [["Root Directory", r.rootPath],
     ["Files", countText r.project.totalFiles],
     ["Functions", countText r.project.totalFunctions],
     ["Max Complexity", countText r.project.maxComplexity],
     ["Avg Complexity", r.project.avgComplexity.writeFixed 2],
     ["Non-camelCase", percentageText r.project.nonCamelCasePct]]
  wraps := true

/-- The table of ranked functions. -/
def rankingTable (functions : List FunctionEntry) : Table where
  headings := ["#", "Function", "File", "Line", "Complexity", "camelCase"]
  rows := functions.zipIdx.map fun (f, i) =>
    [toString (i + 1), f.name, Path.base f.filePath, countText f.line, countText f.complexity,
     yesNo f.camelCase]
  wraps := true

/-- The table of warnings. -/
def warningTable (warnings : List String) : Table where
  headings := ["Warning"]
  rows := warnings.map fun warning => [warning]
  wraps := false

/-- The report as up to three tables; ranking and warnings are left out if they are empty. -/
def tables (r : Report) : String :=
  let top := r.topFunctions.getD []
  r.totalsTable.render
    ++ (if top.isEmpty then "" else "\n" ++ (rankingTable top).render)
    ++ (if r.warnings.isEmpty then "" else "\n" ++ (warningTable r.warnings).render)

end Report

/-- The table of some runs. -/
def runTable (runs : List Run) : Table where
  headings :=
    ["Run", "Generated At", "Files", "Functions", "Max", "Avg", "Non-camelCase", "Warnings"]
  rows := runs.map fun r =>
    [r.id, r.generatedAt.write, countText r.files, countText r.functions, countText r.maxComplexity,
     r.avgComplexity.writeFixed 2, percentageText r.nonCamelCasePct, countText r.warnings]
  wraps := true

end CodeGauge
