/-
Module: CodeGauge.Report.Codec
Purpose: The field names of a report and of a run.
Main exports:
  Report.codec, Run.codec
-/
import CodeGauge.Document.Codec
import CodeGauge.Report.Basic

namespace CodeGauge

open Codec RecordField

/-- The fields of a function. -/
def FunctionEntry.codec : Codec FunctionEntry :=
  .record
    [part "name" text (·.name) (fun r v => { r with name := v }),
     part "filePath" text (·.filePath) (fun r v => { r with filePath := v }),
     part "language" text (·.language) (fun r v => { r with language := v }),
     part "line" int (·.line) (fun r v => { r with line := v }),
     part "complexity" int (·.complexity) (fun r v => { r with complexity := v }),
     part "camelCase" bool (·.camelCase) (fun r v => { r with camelCase := v }),
     part "parameterTokens" int (·.parameterTokens) (fun r v => { r with parameterTokens := v }),
     part "bodyTokens" int (·.bodyTokens) (fun r v => { r with bodyTokens := v })]

/-- The fields of a file's summary. -/
def FileSummary.codec : Codec FileSummary :=
  .record
    [part "functionsCount" int (·.functionsCount) (fun r v => { r with functionsCount := v }),
     part "complexityTotal" int (·.complexityTotal) (fun r v => { r with complexityTotal := v }),
     part "complexityMax" int (·.complexityMax) (fun r v => { r with complexityMax := v }),
     part "complexityAvg" number (·.complexityAvg) (fun r v => { r with complexityAvg := v }),
     part "nonCamelCase" int (·.nonCamelCase) (fun r v => { r with nonCamelCase := v })]

/-- The fields of a file. -/
def FileEntry.codec : Codec FileEntry :=
  .record
    [part "path" text (·.path) (fun r v => { r with path := v }),
     part "language" text (·.language) (fun r v => { r with language := v }),
     part "tokens" int (·.tokens) (fun r v => { r with tokens := v }),
     part "unresolvedCandidates" int (·.unresolvedCandidates)
       (fun r v => { r with unresolvedCandidates := v }),
     part "summary" FileSummary.codec (·.summary) (fun r v => { r with summary := v }),
     part "functions" FunctionEntry.codec.list (·.functions) (fun r v => { r with functions := v })]

/-- The fields of the project's totals. -/
def ProjectTotals.codec : Codec ProjectTotals :=
  .record
    [part "totalFiles" int (·.totalFiles) (fun r v => { r with totalFiles := v }),
     part "totalFunctions" int (·.totalFunctions) (fun r v => { r with totalFunctions := v }),
     part "totalComplexity" int (·.totalComplexity) (fun r v => { r with totalComplexity := v }),
     part "maxComplexity" int (·.maxComplexity) (fun r v => { r with maxComplexity := v }),
     part "avgComplexity" number (·.avgComplexity) (fun r v => { r with avgComplexity := v }),
     part "zeroComplexityFunctions" int (·.zeroComplexityFunctions)
       (fun r v => { r with zeroComplexityFunctions := v }),
     part "nonCamelCaseFunctions" int (·.nonCamelCaseFunctions)
       (fun r v => { r with nonCamelCaseFunctions := v }),
     part "nonCamelCasePct" number (·.nonCamelCasePct) (fun r v => { r with nonCamelCasePct := v })]

/-- The fields of a measure. -/
def MetricInfo.codec : Codec MetricInfo :=
  .record
    [part "id" text (·.id) (fun r v => { r with id := v }),
     part "name" text (·.name) (fun r v => { r with name := v }),
     part "description" text (·.description) (fun r v => { r with description := v }),
     part "group" text (·.group) (fun r v => { r with group := v })]

/-- The fields of a report. -/
def Report.codec : Codec Report :=
  .record
    [part "runId" Codec.text (·.runId) (fun r v => { r with runId := v }),
     part "rootPath" Codec.text (·.rootPath) (fun r v => { r with rootPath := v }),
     part "generatedAt" time (·.generatedAt) (fun r v => { r with generatedAt := v }),
     part "files" FileEntry.codec.list (·.files) (fun r v => { r with files := v }),
     part "project" ProjectTotals.codec (·.project) (fun r v => { r with project := v }),
     part "topFunctions" FunctionEntry.codec.list (·.topFunctions)
       (fun r v => { r with topFunctions := v }),
     part "metricMetadata" MetricInfo.codec.list (·.metricMetadata)
       (fun r v => { r with metricMetadata := v }),
     unlessEmpty "warnings" Codec.text (·.warnings) (fun r v => { r with warnings := v })]

/-- The fields of a run. -/
def Run.codec : Codec Run :=
  .record
    [part "id" text (·.id) (fun r v => { r with id := v }),
     part "rootPath" text (·.rootPath) (fun r v => { r with rootPath := v }),
     part "generatedAt" time (·.generatedAt) (fun r v => { r with generatedAt := v }),
     part "files" int (·.files) (fun r v => { r with files := v }),
     part "functions" int (·.functions) (fun r v => { r with functions := v }),
     part "maxComplexity" int (·.maxComplexity) (fun r v => { r with maxComplexity := v }),
     part "avgComplexity" number (·.avgComplexity) (fun r v => { r with avgComplexity := v }),
     part "nonCamelCasePct" number (·.nonCamelCasePct) (fun r v => { r with nonCamelCasePct := v }),
     part "warnings" int (·.warnings) (fun r v => { r with warnings := v })]

end CodeGauge
