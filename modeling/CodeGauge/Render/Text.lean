/-
Module: CodeGauge.Render.Text
Purpose: A report for reading on a terminal.
Main exports:
  Report.pieces, Report.text
-/
import CodeGauge.Number.Decimal
import CodeGauge.Render.Paint
import CodeGauge.Report.Basic

namespace CodeGauge

open CodeGauge.Number CodeGauge.Render

/-! ### Colours of numbers -/

/-- The colour of a complexity. -/
def scorePaint (score : Int64) : Paint :=
  if score ≤ 5 then .good else if score ≤ 10 then .fair else .poor

/-- The colour of a percentage of functions that break the naming rule. -/
def percentagePaint (percentage : Binary64) : Paint :=
  if percentage.lt (Binary64.ofInt 10) then .good
  else if percentage.lt (Binary64.ofInt 30) then .fair
  else .poor

/-- A percentage with two places. -/
def percentageText (percentage : Binary64) : String := percentage.writeFixed 2 ++ "%"

/-- A whole number. -/
def countText (count : Int64) : String := toString count.toInt

/-! ### Parts -/

/-- A line with a name and a value. -/
def namedLine (name : String) (value : Piece) : List Piece :=
  [painted .label name, bare " ", value, bare "\n"]

/-- The line of a ranked function. -/
def FunctionEntry.pieces (f : FunctionEntry) : List Piece :=
  [bare "Score = ", painted (scorePaint f.complexity) (countText f.complexity),
   bare ", function = ", painted .function f.display, bare "\n"]

/-- The warnings, if there are any. -/
def warningPieces (warnings : List String) : List Piece :=
  if warnings.isEmpty then []
  else
    [bare "\n", painted .title "Warnings:", bare "\n"]
      ++ warnings.flatMap fun warning =>
        [painted .fair "-", bare " ", painted .fair warning, bare "\n"]

namespace Report

/-- The lines about the run as a whole. -/
def headPieces (r : Report) : List Piece :=
  [painted .heading "Code Quality Report", bare "\n"]
    ++ namedLine "Root:" (painted .value r.rootPath)
    ++ (if r.runId.isEmpty then [] else namedLine "Run:" (painted .value r.runId))
    ++ (if r.generatedAt.isZero then []
        else namedLine "Generated at:" (painted .value r.generatedAt.write))
    ++ namedLine "Files:" (painted .value (countText r.project.totalFiles))

/-- The lines about the functions. -/
def functionPieces (r : Report) : List Piece :=
  [painted .title "Highest complexity scores:", bare "\n"]
    ++ (r.topFunctions.getD []).flatMap FunctionEntry.pieces
    ++ (if r.allZero then [painted .label "No function contains a branching keyword.", bare "\n"]
        else [])
    ++ [bare "\n"]
    ++ namedLine "Total functions:" (painted .value (countText r.project.totalFunctions))
    ++ namedLine "Average complexity:" (painted .value (r.project.avgComplexity.writeFixed 2))
    ++ namedLine "Non-camelCase functions:"
      (painted (percentagePaint r.project.nonCamelCasePct) (percentageText r.project.nonCamelCasePct))

/-- The report in pieces. -/
def pieces (r : Report) : List Piece :=
  r.headPieces ++ [bare "\n"]
    ++ (if r.hasFunctions then r.functionPieces
        else [painted .title "No functions found.", bare "\n"])
    ++ warningPieces r.warnings

/-- The report as text, with colours or without. -/
def text (colour : Bool) (r : Report) : String := writePieces colour r.pieces

end Report

end CodeGauge
