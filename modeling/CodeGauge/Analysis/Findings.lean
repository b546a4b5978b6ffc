/-
Module: CodeGauge.Analysis.Findings
Purpose: Putting the outcomes of many paths together.
Main exports:
  Findings, Findings.collect, Findings.ofPaths
-/
import CodeGauge.Analysis.Outcome

namespace CodeGauge.Analysis

/-!
Outcomes arrive in any order, so nothing may hang on it: entries are sorted by path and warnings by
their text.
-/

/-- A path and what became of it. -/
abbrev Arrival := String × Outcome

/-- The entries and the warnings of an analysis. -/
structure Findings where
  files : List FileEntry
  warnings : List String
deriving DecidableEq, Repr, Inhabited

namespace Findings

/-- Entries in the order of their paths. -/
def byPath (files : List FileEntry) : List FileEntry :=
  files.mergeSort (fun f g => decide (f.path ≤ g.path))

/-- Warnings in the order of their texts. -/
def inOrder (warnings : List String) : List String :=
  warnings.mergeSort (fun v w => decide (v ≤ w))

/-- What the outcomes amount to that arrived, in whatever order. -/
def collect (arrivals : List Arrival) : Findings where
  files := byPath (arrivals.filterMap (fun a => a.2.measured?))
  warnings := inOrder (arrivals.filterMap (fun a => a.2.warning? a.1))

end Findings

/-- Each path with its outcome. -/
def arrivals (analysers : List Analyser) (read : String → Reading) (paths : List String) :
    List Arrival :=
  paths.map (fun path => (path, outcome analysers read path))

/-- What some paths amount to. -/
def Findings.ofPaths (analysers : List Analyser) (read : String → Reading) (paths : List String) :
    Findings :=
  .collect (arrivals analysers read paths)

end CodeGauge.Analysis
