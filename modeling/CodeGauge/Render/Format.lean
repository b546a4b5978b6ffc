/-
Module: CodeGauge.Render.Format
Purpose: The formats in which reports and run histories are written.
Main exports:
  Format, Render.standard, Render.report, Render.history, RenderError
-/
import CodeGauge.Render.Registry
import CodeGauge.Render.Tables
import CodeGauge.Report.Codec
import CodeGauge.Text.Quoted
import CodeGauge.Yaml.Writer

namespace CodeGauge.Render

open CodeGauge.Text

/-- The formats. -/
inductive Format where
  | text
  | json
  | yaml
  | table
deriving DecidableEq, Repr, Inhabited

/-- The name of a format. -/
def Format.name : Format → String
  | .text => "text"
  | .json => "json"
  | .yaml => "yaml"
  | .table => "table"

/-- All formats, each under its name. -/
def standard : Registry Format :=
  Registry.ofList ([Format.text, .json, .yaml, .table].map fun f => (f.name, f))

/-- Why something cannot be written. -/
inductive RenderError where
  /-- There is no format of that name. -/
  | unknownFormat (name : Bytes)
  /-- JSON cannot hold it; `what` is a report or a history. -/
  | encoding (what : String) (cause : Document.EncodeError)
deriving DecidableEq, Repr, Inhabited

/-- The wording of an error. -/
def RenderError.message : RenderError → String
  | .unknownFormat name => "unknown format " ++ quotedBytes name
  | .encoding what cause => "encode json " ++ what ++ ": " ++ cause.message

/-! ### Reports -/

/-- A report, or its absence, as a document. -/
def reportDocument : Option Report → Document
  | none => .null
  | some report => Report.codec.write report

/-- A report in a format.  A report that is absent can be written in the two formats that have a word
for that; in the others it is written as an empty one. -/
def inFormat (colour : Bool) (report : Option Report) : Format → Except RenderError String
  | .text => .ok ((report.getD default).text colour)
  | .table => .ok (report.getD default).tables
  | .yaml => .ok (reportDocument report).yaml
  | .json =>
    match (reportDocument report).toJson with
    | .ok json => .ok json.render
    | .error cause => .error (.encoding "report" cause)

/-- The format that stands for no format. -/
def defaultFormat : String := Format.text.name

/-- The name of a format as it is looked up: trimmed, in lower case, and text if it is empty. -/
def normalFormat (name : String) : String :=
  let bare := lower (trim name)
  if bare.isEmpty then defaultFormat else bare

/-- A report in the format of the given name. -/
def report (colour : Bool) (report : Option Report) (name : String) : Except RenderError String :=
  match standard.get? (normalFormat name) with
  | some (_, format) => inFormat colour report format
  | none => .error (.unknownFormat (Utf8.encode (normalFormat name)))

/-! ### Run histories -/

/-- The names of the formats for run histories. -/
def historyFormats : List String := ["json", "table", "text", "yaml"]

/-- Runs as a document. -/
def runsDocument (runs : List Run) : Document := .list (runs.map Run.codec.write)

/-- Runs in the format of the given name; text is a table as well. -/
def history (runs : List Run) (name : Bytes) : Except RenderError String :=
  match standard.get? (normalFormat (Utf8.decodeText name)) with
  | some (_, .text) | some (_, .table) =>
      .ok (if runs.isEmpty then "No recorded runs.\n" else (runTable runs).render)
  | some (_, .yaml) => .ok (runsDocument runs).yaml
  | some (_, .json) =>
    match (runsDocument runs).toJson with
    | .ok json => .ok json.render
    | .error cause => .error (.encoding "history" cause)
  | none => .error (.unknownFormat name)

end CodeGauge.Render
