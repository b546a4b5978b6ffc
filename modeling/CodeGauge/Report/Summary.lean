/-
Module: CodeGauge.Report.Summary
Purpose: Measuring a source file: its functions, and what they add up to.
Main exports:
  FunctionEntry.ofDeclaration, FileSummary.ofFunctions, FileEntry.ofSource
-/
import CodeGauge.Declaration.Extract
import CodeGauge.Language
import CodeGauge.Measure.CamelCase
import CodeGauge.Report.Basic

namespace CodeGauge

open CodeGauge.Source CodeGauge.Number CodeGauge.Measure

/-- The entry of a declared function. -/
def FunctionEntry.ofDeclaration (b : Buffer) (d : Declaration) : FunctionEntry where
  name := d.nameText b
  filePath := b.path
  language := (Language.ofPath b.path).name
  line := Int64.ofInt (d.line b)
  complexity := Int64.ofNat (d.complexity b)
  camelCase := isCamelCase (d.nameText b)
  parameterTokens := d.parameters.len
  bodyTokens := d.body.len

/-- The quotient of two whole numbers as a double-precision number. -/
def quotient (total count : Int64) : Binary64 :=
  (Binary64.ofInt total.toInt).div (Binary64.ofInt count.toInt)

/-- The largest of some numbers, and at least zero. -/
def largest (values : List Int64) : Int64 :=
  values.foldl (fun best value => if best < value then value else best) 0

/-- The sum of some numbers, as a word. -/
def total (values : List Int64) : Int64 := values.foldl (· + ·) 0

/-- How many entries of a list have a property, as a word. -/
def tally {α : Type} (p : α → Bool) (entries : List α) : Int64 := Int64.ofNat (entries.countP p)

namespace FileSummary

/-- What functions add up to. -/
def ofFunctions (functions : List FunctionEntry) : FileSummary :=
  let count := Int64.ofNat functions.length
  let sum := total (functions.map FunctionEntry.complexity)
  { functionsCount := count
    complexityTotal := sum
    complexityMax := largest (functions.map FunctionEntry.complexity)
    complexityAvg := if 0 < count then quotient sum count else .zero
    nonCamelCase := tally (fun f => !f.camelCase) functions }

end FileSummary

/-- The entry of a source file. -/
def FileEntry.ofSource (path : String) (source : Text.Bytes) : FileEntry :=
  let buffer := Buffer.ofSource path source
  let functions := (Declaration.extract buffer.tokens).map (FunctionEntry.ofDeclaration buffer)
  { path
    language := (Language.ofPath path).name
    tokens := Int64.ofNat buffer.tokens.length
    unresolvedCandidates := Int64.ofNat (Declaration.statistics buffer.tokens).unresolved
    summary := FileSummary.ofFunctions functions
    functions := some functions }

end CodeGauge
