/-
Module: CodeGauge.Command.Run
Purpose: The commands, and the program that they make up.
Main exports:
  Command.Outcome, Command.run, Program.Exit, Program.session?, Program.run
-/
import CodeGauge.Command.Session
import CodeGauge.Log
import CodeGauge.Workspace.Query

namespace CodeGauge

open CodeGauge.Settings CodeGauge.Analysis

namespace Command

variable {σ : Type}

/-- What a command leaves behind. -/
structure Outcome (σ : Type) where
  state : σ
  /-- The report or list that was asked for. -/
  output : String
  /-- What is logged, and help. -/
  messages : String
  fault : Option Fault

/-- An outcome without output. -/
def Outcome.failed (state : σ) (fault : Fault) (messages : String) : Outcome σ :=
  ⟨state, "", messages, some fault⟩

/-- An outcome that is output or a fault. -/
def Outcome.ofText (state : σ) : Except Fault String → Outcome σ
  | .ok text => ⟨state, text, "", none⟩
  | .error fault => .failed state fault ""

/-- Whether text output is coloured. -/
def Session.isColoured (session : Session) : Bool :=
  session.truth .color && (session.around.lookupVariable "NO_COLOR").isNone

/-- Whether the log is coloured: it goes to no terminal, so only if the environment insists on it. -/
def Session.hasColouredLog (session : Session) : Bool :=
  let isForced := ((session.around.lookupVariable "CLICOLOR_FORCE").filter (· != "0")).isSome
  isForced && (session.around.lookupVariable "NO_COLOR").isNone

/-- The analysers of a session. -/
def Session.analysers (session : Session) : List Analyser :=
  if session.around.analysers.isEmpty then
    [.ofExtensions (.ofList (Extension.parseList (session.text .extensions)))]
  else session.around.analysers

/-- What is asked of the analysis of a session. -/
def Session.request (session : Session) : Request where
  root := session.root
  extensions := Extension.parseList (session.text .extensions)
  top := session.whole .top
  skipHistory := !session.truth .history
  workers := session.whole .workers

/-- What is logged about the settings file. -/
def Session.events (session : Session) : List Log.Event :=
  match session.fileName with
  | some path => [⟨.debug, "loaded config file", [("path", path)]⟩]
  | none => []

/-- The fault of a report in which a function is more complex than a positive limit. -/
def overThreshold? (limit : Int) (report : Report) : Option Fault :=
  let highest := report.project.maxComplexity.toInt
  if 0 < limit ∧ limit < highest then some (.overThreshold highest limit) else none

/-- Analyse a project and show the report. -/
def analyzeProject (w : Workspace σ) (session : Session) (state : σ) : Outcome σ :=
  match Log.Level.parse (session.bytes .logLevel) with
  | .error text => .failed state (.other text) ""
  | .ok level =>
    let execution := analyse w session.analysers session.around.occasion session.request state
    let messages := Log.write session.hasColouredLog level (session.events ++ execution.events)
    match execution.result with
    | .error fault => .failed execution.state fault messages
    | .ok result =>
      match Render.report session.isColoured (some result) (session.text .format) with
      | .error cause => .failed execution.state (.other cause.message) messages
      | .ok text => ⟨execution.state, text, messages, overThreshold? (session.whole .failOver) result⟩

/-- The measures for a reader. -/
def metricList : String :=
  let line (m : MetricInfo) : String :=
    "- [" ++ m.group ++ "] " ++ m.name ++ " (" ++ m.id ++ ")\n    " ++ m.description ++ "\n"
  "Supported metrics:\n" ++ String.join (MetricInfo.all.map line)

/-- Carry out a command of a session. -/
def perform (w : Workspace σ) (session : Session) (state : σ) : Command → Outcome σ
  | .analyze => analyzeProject w session state
  | .report =>
      .ofText state (w.renderSaved session.isColoured session.root (session.text .format) state)
  | .history =>
      let (result, state) :=
        w.renderPastRuns session.root (session.whole .limit) (session.bytes .format) state
      .ofText state result
  | .metrics => .ofText state (.ok metricList)

/-- Carry out a command.  The measures are listed without a look at settings. -/
def run (w : Workspace σ) (around : Surroundings) (command : Command) (arguments : List String)
    (state : σ) : Outcome σ :=
  let reading? : String → Option Reading :=
    if command = .metrics then fun _ => none else w.reading? state
  match prepare around reading? command arguments with
  | .ok session => perform w session state command
  | .error fault =>
      .failed state fault (if fault = .helpRequested then command.help else "")

end Command

/-! ### The program -/

namespace Program

variable {σ : Type}

/-- How the program ends. -/
structure Exit (σ : Type) where
  state : σ
  output : String
  messages : String
  status : Nat

/-- A text that ends its line. -/
def asLine (text : String) : String :=
  if text.toList.getLast? = some '\n' then text else text ++ "\n"

/-- The status with which the program ends after a fault. -/
def statusAfter (fault : Fault) : Nat :=
  match fault.cause with
  | .helpRequested => 0
  | .overThreshold _ _ => 2
  | _ => 1

/-- What the program says of a fault at its end. -/
def lastWords (fault : Fault) : String :=
  match fault.cause with
  | .helpRequested => ""
  | .overThreshold _ _ => asLine fault.message
  | _ => asLine ("error: " ++ fault.message)

/-- The end of the program after a command. -/
def Exit.ofOutcome (outcome : Command.Outcome σ) : Exit σ :=
  match outcome.fault with
  | none => ⟨outcome.state, outcome.output, outcome.messages, 0⟩
  | some fault =>
      ⟨outcome.state, outcome.output, outcome.messages ++ lastWords fault, statusAfter fault⟩

/-- The command that the first argument names. -/
def command? (word : String) : Option Command :=
  Command.all.find? (fun command => command.name == word)

/-- What a command of the program works with, if its arguments and its settings file can be read. -/
def session? (around : Command.Surroundings) (reading? : String → Option Reading) :
    List String → Option (Command × Command.Session)
  | [] => none
  | word :: rest => do
    let command ← command? word
    let session ← (Command.prepare around reading? command rest).toOption
    pure (command, session)

/-- Run the program with its arguments. -/
def run (w : Workspace σ) (around : Command.Surroundings) (arguments : List String) (state : σ) :
    Exit σ :=
  match arguments with
  | [] => ⟨state, "", programHelp, 1⟩
  | word :: rest =>
    match command? word with
    | some command => .ofOutcome (command.run w around rest state)
    | none =>
      if ["-h", "--help", "help"].contains word then ⟨state, programHelp, "", 0⟩
      else ⟨state, "", "unknown command " ++ Text.quoted word ++ "\n" ++ programHelp, 1⟩

end Program

end CodeGauge
