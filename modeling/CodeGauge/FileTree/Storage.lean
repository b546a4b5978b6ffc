/-
Module: CodeGauge.FileTree.Storage
Purpose: The saved report and the run history of a root directory as files.
Main exports:
  reportPath, historyPath, FileTree.saveReportUnder, FileTree.saveReport, FileTree.loadReport, FileTree.recordRun,
  FileTree.listRuns, FileTree.workspace
-/
import CodeGauge.FileTree.Database
import CodeGauge.FileTree.Scan
import CodeGauge.Json.Reader
import CodeGauge.Render.Format
import CodeGauge.Workspace

namespace CodeGauge.FileTree

open CodeGauge.Text

/-!
Both files are in a folder of the root that no search looks into.  The report is written under a name
of its own and then moved into place, so that it is replaced as a whole or not at all.  The name has a
number in it that is drawn until the name is free.
-/

/-- The name of the folder for what an analysis leaves behind. -/
def workFolder : String := ".cqa"

/-- The folder for what an analysis of a root leaves behind. -/
def workPath (root : String) : String := Path.join [root, workFolder]

/-- Where the report of a root is saved. -/
def reportPath (root : String) : String := Path.join [root, workFolder, "report.json"]

/-- Where the run history of a root is kept. -/
def historyPath (root : String) : String := Path.join [root, workFolder, "history.db"]

/-- The path of the file that the run history of a root is in, which is another one than the history's
own if the name of the root has options in it. -/
def databasePath (root : String) : String :=
  match Database.Source.ofName (historyPath root) with
  | .ok source => source.path
  | .error _ => historyPath root

/-- What goes on inside another thing. -/
def during {α : Type} (doing : String) : Except Fault α → Except Fault α
  | .ok value => .ok value
  | .error fault => .error (.within doing fault)

/-! ### The report -/

/-- A report as it is saved. -/
def encodeReport (report : Option Report) : Except Fault Bytes :=
  match (Render.reportDocument report).toJson with
  | .ok json => .ok (Utf8.encode json.render)
  | .error cause => .error (.within "encode report" (.other cause.message))

/-- Why a JSON value is no report.  An instant that is wrong is told before all else, and of several
the first one. -/
def mismatch (json : Json) : Fault :=
  let instants := ((Codec.entries? [json]).map (Codec.saying "generatedAt")).getD []
  match instants.find? (fun instant => (Codec.time.decode? instant).isNone) with
  | none | some (.string _) | some (.spelled _) =>
    .malformed "a JSON value does not have the kind that a report needs"
  | some _ => .other "Time.UnmarshalJSON: input is not a JSON string"

/-- The report of a saved text; what follows its first value does not matter. -/
def decodeReport (bytes : Bytes) : Except Fault Report :=
  let text := Utf8.decode bytes
  match Json.readFirst text with
  | .cut => .error (.malformed (if (Json.skip text).isEmpty then "EOF" else "unexpected EOF"))
  | .wrong => .error (.malformed "invalid character in a JSON text")
  | .found json _ =>
    match Report.codec.decode? json with
    | some report => .ok report
    | none => .error (mismatch json)

/-- What can go wrong by itself while a report is saved. -/
inductive Mishap where
  /-- No file can be made. -/
  | notMade (reason : String)
  /-- A file takes only so many bytes. -/
  | notWritten (taken : Nat) (reason : String)
  | notClosed (reason : String)
  | notMoved (reason : String)
deriving DecidableEq, Repr, Inhabited

/-- What saving depends on beside the files: the numbers that are drawn for the name under which a report is
written, and what goes wrong by itself. -/
structure Circumstances where
  draw : Nat → UInt32
  mishap : Option Mishap
deriving Inhabited

/-- Nothing goes wrong by itself, and the numbers have as many digits as most. -/
def Circumstances.usual : Circumstances := ⟨fun drawn => UInt32.ofNat (2147483648 + drawn), none⟩

/-- The name under which a report is written before it is moved into place. -/
def temporaryName (number : UInt32) : String := "report.json." ++ toString number.toNat

/-- The path under which a report is written before it is moved into place. -/
def temporaryPath (root : String) (number : UInt32) : String := workPath root ++ "/" ++ temporaryName number

/-- How many names are tried. -/
def maxTries : Nat := 10000

/-- A file that has been made under a name of its own. -/
structure Temporary where
  path : String
  place : Place
deriving DecidableEq, Repr, Inhabited

/-- Make an empty file under the first name drawn that nothing has. -/
def makeTemporary (circumstances : Circumstances) (tree : FileTree) (root : String) :
    Nat → Nat → Except Fault (Temporary × FileTree)
  | 0, _ => .error (failing "createtemp" (workPath root ++ "/report.json.*") "file already exists")
  | tries + 1, drawn =>
    let path := temporaryPath root (circumstances.draw drawn)
    match tree.resolve false path with
    | .ok (.existing _ _) => makeTemporary circumstances tree root tries (drawn + 1)
    | .error trouble => .error (failing "open" path trouble.message)
    | .ok (.vacant place) =>
      match circumstances.mishap with
      | some (.notMade reason) => .error (failing "open" path reason)
      | _ => .ok (⟨path, place⟩, tree.putAt place (.file (.bytes [])))

/-- Write a report into the file made for it, close it and move it into place. -/
def fillTemporary (circumstances : Circumstances) (tree : FileTree) (root : String) (temporary : Temporary)
    (report : Option Report) : Except Fault Unit × FileTree :=
  match encodeReport report with
  | .error fault => (.error fault, tree)
  | .ok bytes =>
    let written := tree.putAt temporary.place (.file (.bytes bytes))
    match circumstances.mishap with
    | some (.notWritten taken reason) =>
        (.error (.within "encode report" (failing "write" temporary.path reason)),
          tree.putAt temporary.place (.file (.bytes (bytes.take taken))))
    | some (.notClosed reason) =>
        (.error (.within "close report file" (failing "close" temporary.path reason)), written)
    | mishap =>
      let moved : Except String FileTree :=
        match mishap with
        | some (.notMoved reason) => .error reason
        | _ => written.moveFile temporary.path (reportPath root)
      match moved with
      | .error reason =>
          (.error (.within "move report into place"
            (failing ("rename " ++ temporary.path) (reportPath root) reason)), written)
      | .ok moved => (.ok (), moved)

/-- Save a report as the last one of a root.  It is written under a name of its own and moved into place when
it is complete, and whatever then still has that name is taken away.  The folder for the report and those
above it are made first. -/
def saveReportUnder (circumstances : Circumstances) (tree : FileTree) (root : String) (report : Option Report) :
    Except Fault Unit × FileTree :=
  match tree.makeFolders (workPath root) with
  | (.error fault, tree) => (.error (.within "create report dir" fault), tree)
  | (.ok _, prepared) =>
    match makeTemporary circumstances prepared root maxTries 0 with
    | .error fault => (.error (.within "create report file" fault), prepared)
    | .ok (temporary, made) =>
      let (result, left) := fillTemporary circumstances made root temporary report
      (result, left.removeOne temporary.path)

/-- Save a report when nothing goes wrong by itself. -/
def saveReport (tree : FileTree) (root : String) (report : Option Report) : Except Fault Unit × FileTree :=
  saveReportUnder .usual tree root report

/-- The last report of a root. -/
def loadReport (tree : FileTree) (root : String) : Except Fault Report :=
  let path := reportPath root
  match tree.status true path with
  | .error .missing => .error .noReport
  | .error trouble => .error (.within "open report" (failing "open" path trouble.message))
  | .ok (.file (.bytes bytes)) => during "decode report" (decodeReport bytes)
  | .ok (.file _) => .error (.within "decode report" (.malformed "not a JSON text"))
  | .ok _ => .error (.within "decode report" (failing "read" path "is a directory"))

/-! ### The history -/

/-- The history of a root, opened.  Its folder is made first. -/
def openHistory (cancelled : Bool) (tree : FileTree) (root : String) :
    Except Fault Connection × FileTree :=
  match tree.makeFolders (workPath root) with
  | (.error fault, tree) => (.error (.within "create history dir" fault), tree)
  | (.ok _, tree) =>
    let (result, tree) : Except Fault Connection × FileTree :=
      if cancelled then (.error .cancelled, tree)
      else
        match (connect (historyPath root)).on tree with
        | (.ok connection, tree) => (.ok connection, tree)
        | (.error trouble, tree) => (.error (.other trouble.message), tree)
    (during "initialize history database" result, tree)

/-- Add a run to an open history. -/
def Connection.record (connection : Connection) (run : Run) : Except Fault Ledger :=
  if connection.isReadOnly then
    .error (.within ("record run " ++ run.id) (.other Database.Obstacle.readOnly.message))
  else connection.history.record run

/-- Add a run to the history of a root. -/
def recordRun (cancelled : Bool) (tree : FileTree) (root : String) (run : Run) :
    Except Fault Unit × FileTree :=
  match openHistory cancelled tree root with
  | (.error fault, tree) => (.error fault, tree)
  | (.ok connection, tree) =>
    match connection.record run with
    | .error fault => (.error fault, (connection.close.on tree).2)
    | .ok history => (.ok (), ({ connection with history }.close.on tree).2)

/-- The latest runs of a root; there are none if there is no history. -/
def listRuns (cancelled : Bool) (tree : FileTree) (root : String) (limit : Int) :
    Except Fault (List Run) × FileTree :=
  match tree.status true (historyPath root) with
  | .error .missing => (.ok [], tree)
  | _ =>
    match openHistory cancelled tree root with
    | (.error fault, tree) => (.error fault, tree)
    | (.ok connection, tree) => (connection.history.list limit, (connection.close.on tree).2)

/-- The workspace that a file tree is; `cancelled` says whether its services have been told to stop. -/
def workspace (cancelled : Bool) : Workspace FileTree where
  scan := scan cancelled
  isFile := isFile
  read := read
  save tree root report := saveReport tree root (some report)
  load := loadReport
  record := some (recordRun cancelled)
  list := listRuns cancelled

end CodeGauge.FileTree
