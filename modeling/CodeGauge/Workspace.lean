/-
Module: CodeGauge.Workspace
Purpose: The services that the commands need of the place where a project lives.
Main exports:
  Workspace, Workspace.reading?, Workspace.withoutHistory
-/
import CodeGauge.Analysis.Outcome
import CodeGauge.Fault

namespace CodeGauge

open CodeGauge.Analysis

/-!
A workspace is told the root directory with each request, so that one workspace serves many projects.
Its state is a value: what changes it returns the new state, also if it fails, since a failure can
leave something behind.
-/

/-- The services of a workspace with states of some type. -/
structure Workspace (σ : Type) where
  /-- The source files under a root that have one of some extensions. -/
  scan : σ → (root : String) → (extensions : List String) → Except Fault (List String)
  /-- Whether a path leads to something that is no folder. -/
  isFile : σ → (path : String) → Bool
  /-- What a path gives when it is opened and read. -/
  read : σ → (path : String) → Reading
  /-- Keep a report as the last one of a root. -/
  save : σ → (root : String) → Report → Except Fault Unit × σ
  /-- The last report of a root. -/
  load : σ → (root : String) → Except Fault Report
  /-- Add a run to the history of a root; a workspace may have no history. -/
  record : Option (σ → (root : String) → Run → Except Fault Unit × σ)
  /-- The latest runs of a root, the last one first. -/
  list : σ → (root : String) → (limit : Int) → Except Fault (List Run) × σ

/-- What a file gives when it is opened and read, if the path leads to one. -/
def Workspace.reading? {σ : Type} (w : Workspace σ) (state : σ) (path : String) : Option Reading :=
  if w.isFile state path then some (w.read state path) else none

/-- The same workspace without a history to add to. -/
def Workspace.withoutHistory {σ : Type} (w : Workspace σ) : Workspace σ := { w with record := none }

end CodeGauge
