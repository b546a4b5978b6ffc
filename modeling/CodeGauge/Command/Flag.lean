/-
Module: CodeGauge.Command.Flag
Purpose: The flags of the commands, and the help that lists them.
Main exports:
  Command, Flag, Command.flags, Command.help, programHelp
-/
import CodeGauge.Settings.Value
import CodeGauge.Text.Quoted

namespace CodeGauge

open CodeGauge.Text CodeGauge.Settings

/-- The commands of the program. -/
inductive Command where
  | analyze
  | report
  | history
  | metrics
deriving DecidableEq, Repr, Inhabited

namespace Command

/-- All commands. -/
def all : List Command := [.analyze, .report, .history, .metrics]

/-- The name of a command. -/
def name : Command → String
  | .analyze => "analyze"
  | .report => "report"
  | .history => "history"
  | .metrics => "metrics"

/-- What a flag takes, with the value that it has if nobody gives one. -/
inductive Kind where
  | text (initial : String)
  | whole (initial : Int)
  /-- A flag that says yes when it is given without a value. -/
  | truth (initial : Bool)
deriving DecidableEq, Repr, Inhabited

/-- A flag. -/
structure Flag where
  name : String
  kind : Kind
  explanation : String
deriving DecidableEq, Repr, Inhabited

namespace Flag

/-- The value of a flag that nobody gives. -/
def initial (flag : Flag) : Value :=
  match flag.kind with
  | .text value => .text value
  | .whole value => .whole value
  | .truth value => .truth value

/-- The root directory. -/
def path : Flag :=
  ⟨"path", .text ".", "Path to project root (can also be given as positional argument)"⟩

/-- The number of files measured at once. -/
def workers : Flag := ⟨"workers", .whole 0, "Number of worker goroutines (0 = use NumCPU)"⟩

/-- The extensions of the files to search for. -/
def extensions : Flag :=
  ⟨"ext", .text ".java,.c,.h,.cpp,.hpp,.cc,.cs,.js,.ts,.kt,.scala,.go",
    "Comma-separated list of file extensions to include"⟩

/-- The format of the output. -/
def format : Flag := ⟨"format", .text "text", "Output format (text|json|yaml|table)"⟩

/-- The number of functions to rank. -/
def top : Flag := ⟨"top", .whole 3, "Number of functions to rank by complexity"⟩

/-- The complexity above which an analysis fails. -/
def failOver : Flag :=
  ⟨"fail-over", .whole 0, "Exit with status 2 when a function scores above this (0 = off)"⟩

/-- Whether the run goes into the history. -/
def history : Flag := ⟨"history", .truth true, "Record this run in .cqa/history.db"⟩

/-- Whether text is coloured. -/
def color : Flag := ⟨"color", .truth true, "Colour text output (NO_COLOR disables it)"⟩

/-- The least level of what is logged. -/
def logLevel : Flag := ⟨"log-level", .text "warn", "Log level (debug|info|warn|error)"⟩

/-- The number of runs to list. -/
def limit : Flag := ⟨"limit", .whole 20, "Maximum number of runs to list"⟩

end Flag

/-- The flags of a command. -/
def flags : Command → List Flag
  | .analyze =>
      [.path, .workers, .extensions, .format, .top, .failOver, .history, .color, .logLevel]
  | .report => [.path, .format, .color]
  | .history => [.path, .limit, .format]
  | .metrics => []

/-! ### Help -/

/-- The name of a flag with the kind of value that it takes. -/
def Flag.label (flag : Flag) : String :=
  "      --" ++ flag.name ++
    match flag.kind with
    | .text _ => " string"
    | .whole _ => " int"
    | .truth _ => ""

/-- What the help says of the value that a flag has if nobody gives one; an empty one is left out. -/
def Flag.initialNote (flag : Flag) : String :=
  match flag.kind with
  | .text value => if value.isEmpty then "" else " (default " ++ quoted value ++ ")"
  | .whole value => if value = 0 then "" else " (default " ++ toString value ++ ")"
  | .truth value => if value then " (default true)" else ""

/-- The lines that explain flags, their explanations below each other. -/
def flagLines (flags : List Flag) : String :=
  let width := (flags.map (fun f => f.label.length)).foldl max 0
  let line (flag : Flag) : String :=
    flag.label ++ String.ofList (List.replicate (width - flag.label.length + 3) ' ')
      ++ flag.explanation ++ flag.initialNote ++ "\n"
  String.join (flags.map line)

/-- The help on a command. -/
def help (command : Command) : String :=
  match command with
  | .metrics => "Usage:\n  cqa metrics\n\nLists the supported metric groups and identifiers.\n"
  | command =>
      "Usage:\n  cqa " ++ command.name ++ " [options] [path]\n\nOptions:\n" ++ flagLines command.flags

end Command

/-- The help on the program. -/
def programHelp : String :=
  String.join (List.map (· ++ "\n")
    ["cqa - function complexity and naming analyzer",
     "",
     "Usage:",
     "  cqa analyze [options] [path]",
     "  cqa report  [options] [path]",
     "  cqa history [options] [path]",
     "  cqa metrics",
     "",
     "Commands:",
     "  analyze   Analyze a source tree and persist a report under .cqa/report.json",
     "  report    Render the last report (text, json, yaml or table)",
     "  history   List previous runs recorded in .cqa/history.db",
     "  metrics   List supported metrics",
     "",
     "Run \"cqa <command> -h\" for command-specific flags."])

end CodeGauge
