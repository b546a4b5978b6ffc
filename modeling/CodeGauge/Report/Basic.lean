/-
Module: CodeGauge.Report.Basic
Purpose: What an analysis reports: functions, files, project totals and the runs kept in the history.
Main exports:
  FunctionEntry, FileSummary, FileEntry, ProjectTotals, MetricInfo, Report, Run
-/
import CodeGauge.Measure.Complexity
import CodeGauge.Number.Binary64
import CodeGauge.Time.Timestamp

namespace CodeGauge

open CodeGauge.Number CodeGauge.Time

/-!
Numbers of things are signed 64-bit words, since a report can be read back from a file that holds any
of them, and their sums wrap.  A list that was never given is told apart from an empty list, because
the two are written differently.
-/

/-- The measures of one function. -/
structure FunctionEntry where
  name : String
  filePath : String
  language : String
  line : Int64
  complexity : Int64
  camelCase : Bool
  parameterTokens : Int64
  bodyTokens : Int64
deriving DecidableEq, Repr, Inhabited

/-- The function's name, file and line for a reader. -/
def FunctionEntry.display (f : FunctionEntry) : String :=
  Measure.displayName f.name f.filePath f.line.toInt

/-- What the functions of one file add up to. -/
structure FileSummary where
  functionsCount : Int64
  complexityTotal : Int64
  complexityMax : Int64
  complexityAvg : Binary64
  nonCamelCase : Int64
deriving DecidableEq, Repr, Inhabited

/-- The measures of one file. -/
structure FileEntry where
  path : String
  language : String
  tokens : Int64
  /-- Candidates whose brackets never close. -/
  unresolvedCandidates : Int64
  summary : FileSummary
  functions : Option (List FunctionEntry)
deriving DecidableEq, Repr, Inhabited

/-- What the files of a project add up to. -/
structure ProjectTotals where
  totalFiles : Int64
  totalFunctions : Int64
  totalComplexity : Int64
  maxComplexity : Int64
  avgComplexity : Binary64
  zeroComplexityFunctions : Int64
  nonCamelCaseFunctions : Int64
  /-- A percentage from 0 to 100. -/
  nonCamelCasePct : Binary64
deriving DecidableEq, Repr, Inhabited

/-- A measure for a reader. -/
structure MetricInfo where
  id : String
  name : String
  description : String
  group : String
deriving DecidableEq, Repr, Inhabited

/-- The result of one analysis. -/
structure Report where
  runId : String
  rootPath : String
  generatedAt : Timestamp
  files : Option (List FileEntry)
  project : ProjectTotals
  topFunctions : Option (List FunctionEntry)
  metricMetadata : Option (List MetricInfo)
  warnings : List String
deriving DecidableEq, Repr, Inhabited

/-- One line of the run history. -/
structure Run where
  id : String
  rootPath : String
  generatedAt : Timestamp
  files : Int64
  functions : Int64
  maxComplexity : Int64
  avgComplexity : Binary64
  nonCamelCasePct : Binary64
  warnings : Int64
deriving DecidableEq, Repr, Inhabited

namespace Report

/-- Whether the project has a function. -/
def hasFunctions (r : Report) : Bool := 0 < r.project.totalFunctions

/-- Whether the project has functions and none of them branches. -/
def allZero (r : Report) : Bool :=
  r.hasFunctions && r.project.zeroComplexityFunctions == r.project.totalFunctions

/-- The line that the report leaves in the run history. -/
def toRun (r : Report) : Run where
  id := r.runId
  rootPath := r.rootPath
  generatedAt := r.generatedAt
  files := r.project.totalFiles
  functions := r.project.totalFunctions
  maxComplexity := r.project.maxComplexity
  avgComplexity := r.project.avgComplexity
  nonCamelCasePct := r.project.nonCamelCasePct
  warnings := Int64.ofNat r.warnings.length

end Report

/-- The measures that every report explains. -/
def MetricInfo.all : List MetricInfo :=
  [⟨"complexity.branching", "Branching Complexity",
      "Count of if/switch/for/while keywords in a function body.", "complexity"⟩,
   ⟨"naming.camel_case", "camelCase Naming",
      "Whether the function name is lowerCamelCase.", "naming"⟩,
   ⟨"size.functions", "Function Count",
      "Functions found by the heuristic extractor.", "size"⟩,
   ⟨"size.parameter_tokens", "Parameter Tokens",
      "Tokens between the parameter-list parentheses.", "size"⟩,
   ⟨"size.body_tokens", "Body Tokens",
      "Tokens between the body braces.", "size"⟩]

end CodeGauge
