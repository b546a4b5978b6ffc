/-
Module: CodeGauge.Workspace.Query
Purpose: What the commands read back from a workspace.
Main exports:
  Workspace.renderSaved, Workspace.pastRuns, Workspace.renderPastRuns
-/
import CodeGauge.Render.Format
import CodeGauge.Workspace

namespace CodeGauge.Workspace

variable {σ : Type}

/-- A rendered text, or the fault of not having one. -/
def ofRendering : Except Render.RenderError String → Except Fault String
  | .ok text => .ok text
  | .error cause => .error (.other cause.message)

/-- The last report of a root in the format of the given name. -/
def renderSaved (w : Workspace σ) (colour : Bool) (root formatName : String) (state : σ) :
    Except Fault String :=
  match w.load state root with
  | .error fault => .error fault
  | .ok report => ofRendering (Render.report colour (some report) formatName)

/-- The latest runs of a root. -/
def pastRuns (w : Workspace σ) (root : String) (limit : Int) (state : σ) :
    Except Fault (List Run) × σ :=
  if root.isEmpty then (.error (.other "root path is required"), state)
  else
    match w.list state root limit with
    | (.error fault, state) => (.error (.within "list history" fault), state)
    | (.ok runs, state) => (.ok runs, state)

/-- The latest runs of a root in the format of the given name. -/
def renderPastRuns (w : Workspace σ) (root : String) (limit : Int) (formatName : Text.Bytes) (state : σ) :
    Except Fault String × σ :=
  match w.pastRuns root limit state with
  | (.error fault, state) => (.error fault, state)
  | (.ok runs, state) => (ofRendering (Render.history runs formatName), state)

end CodeGauge.Workspace
