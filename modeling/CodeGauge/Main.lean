/-
Module: CodeGauge.Main
Purpose: The program itself: files and environment are read, a command is carried out on what was read,
  and what it has changed is written back.
Main exports:
  main
-/
import CodeGauge.Command.Run
import CodeGauge.FileTree.Storage
import CodeGauge.History.Codec
import CodeGauge.Report.RunId
import Std.Time.DateTime.Timestamp

namespace CodeGauge.Program

open CodeGauge.Analysis CodeGauge.FileTree

/-!
A command is a function of a file tree.  Before it runs, the part of the real tree that it can look at
is read: the settings file, what an earlier analysis left behind, and the sources.  Sources that have
none of the chosen extensions are read as empty, because their names alone are looked at.
-/

/-! ### Surroundings -/

/-- The names of the variables that the program looks at. -/
def variableNames (args : List String) : List String :=
  "NO_COLOR" :: Command.all.flatMap (fun command => command.flags.map Command.Flag.variableName)
    ++ args.flatMap Text.mentions

/-- The variables of the environment that have one of some names. -/
def readVariables (names : List String) : IO (List (String × String)) := do
  let found ← names.mapM fun name => do
    return (← IO.getEnv name).map fun value => (name, value)
  return found.filterMap id

/-- The number of processors, or one if it is not known. -/
def processorCount : IO Nat := do
  try
    let text ← IO.FS.readFile "/proc/cpuinfo"
    let lines := Text.splitText '\n' text
    return max 1 (lines.countP fun line => "processor".toList.isPrefixOf line.toList)
  catch _ => return 1

/-- What a run finds around it. -/
def readSurroundings (args : List String) : IO Command.Surroundings := do
  let direct ← readVariables (variableNames args)
  let indirect ← readVariables (direct.flatMap fun v => Text.mentions v.2)
  let now ← Std.Time.Timestamp.now
  let random ← IO.getRandomBytes 16
  let occasion : Occasion :=
    { runId := RunId.ofBytes random.toList
      now := Time.Timestamp.ofUnix 0 now.toNanosecondsSinceUnixEpoch.toInt
      processors := ← processorCount
      cancelled := false }
  return ⟨direct ++ indirect, toString (← IO.currentDir), [], occasion⟩

/-! ### Reading files -/

/-- How deep folders are searched. -/
def maxDepth : Nat := 200

/-- The place of a path by its names alone; a path that is not rooted starts from a directory. -/
def namedPlace (directory path : String) : Place :=
  let full := if Path.isRooted path then path else Path.join [directory, path]
  (Path.elements full).map String.ofList

/-- The place of a path in a tree, links before its end followed. -/
def placeIn (directory : String) (tree : FileTree) (path : String) : Place :=
  match tree.resolve false path with
  | .ok (.existing place _) | .ok (.vacant place) => place
  | .error _ => namedPlace directory path

/-- What a path leads to, links not followed.  The content of a file is read if `wants` says so, and
folders that no search looks into are taken for empty ones. -/
def readNode (wants : String → Bool) : Nat → String → IO (Option Node)
  | 0, _ => return none
  | depth + 1, path => do
    let here ← IO.currentDir
    let kind ← try pure (some (← (here / path).symlinkMetadata).type) catch _ => pure none
    match kind with
    | none => return none
    | some .file =>
      let bytes ← if wants path then IO.FS.readBinFile path else pure ByteArray.empty
      return some (.file (.bytes bytes.toList))
    | some .dir =>
      let mut entries : Entries := .nil
      for entry in ← (here / path).readDir do
        let name := entry.fileName
        let inner ← if isSkipped name then pure (some (.folder .nil))
          else readNode wants depth (Path.join [path, name])
        if let some node := inner then entries := entries.set name node
      return some (.folder entries)
    | some _ =>
      let target ← try pure (toString (← IO.FS.realPath path)) catch _ => pure ""
      return some (.link target)

/-- The tree with what a path leads to, and with what a link at its end leads to. -/
def readInto (wants : String → Bool) (directory : String) (tree : FileTree) (path : String) :
    IO FileTree := do
  match ← readNode wants maxDepth path with
  | none => return tree
  | some (.link target) =>
    let tree := tree.putAt (placeIn directory tree path) (.link target)
    match ← if target.isEmpty then pure none else readNode wants maxDepth target with
    | some node => return tree.putAt (namedPlace directory target) node
    | none => return tree
  | some node => return tree.putAt (placeIn directory tree path) node

/-- The tree in which a run history that a file holds is one. -/
def withHistory (tree : FileTree) (root : String) : FileTree :=
  match tree.resolve true (databasePath root) with
  | .ok (.existing place (.file (.bytes bytes))) =>
    match Ledger.decode? bytes with
    | some ledger => tree.putAt place (.file (.ledger ledger))
    | none => tree
  | _ => tree

/-- The part of the real file tree that a command can look at. -/
def readTree (around : Command.Surroundings) (args : List String) : IO FileTree := do
  let directory := around.directory
  let bare : FileTree := ⟨.nil, namedPlace directory "."⟩
  match session? around (fun _ => none) args with
  | none => return bare
  | some (command, session) =>
    if command = .metrics then return bare
    let folder := around.settingsFolder session.root
    let settings := Settings.fileNames.map fun file => Path.join [folder, file.1]
    let withSettings ← settings.foldlM (readInto (fun _ => true) directory) bare
    match session? around ((workspace false).reading? withSettings) args with
    | none => return withSettings
    | some (_, session) =>
      let root := session.root
      let wanted := session.request.extensions
      let wants (path : String) : Bool := command = .analyze && Extension.admits wanted path
      let sources ← readInto wants directory bare root
      let kept := [workPath root, reportPath root, historyPath root, databasePath root]
      let all ← (kept ++ settings).foldlM (readInto (fun _ => true) directory) sources
      return withHistory all root

/-! ### Writing files -/

/-- What a file holds, as it is written. -/
def contentBytes : Content → Text.Bytes
  | .bytes bytes => bytes
  | .blank => []
  | .ledger history => history.encode

/-- What the file of a path holds. -/
def content? (tree : FileTree) (path : String) : Option Content :=
  match tree.status true path with
  | .ok (.file content) => some content
  | _ => none

/-- Write the files of a root that differ between two trees.  A file appears as a whole. -/
def writeChanges (root : String) (before after : FileTree) : IO Unit := do
  for path in [reportPath root, databasePath root] do
    if let some content := content? after path then
      if content? before path ≠ some content then
        IO.FS.createDirAll (workPath root)
        let fresh := path ++ ".new"
        IO.FS.writeBinFile fresh ⟨(contentBytes content).toArray⟩
        IO.FS.rename fresh path

/-- Run the program with its arguments; the result is its exit status. -/
def start (args : List String) : IO UInt32 := do
  let around ← readSurroundings args
  let before ← readTree around args
  let ending := run (workspace false) around args before
  if let some (_, session) := session? around ((workspace false).reading? before) args then
    writeChanges session.root before ending.state
  IO.print ending.output
  IO.eprint ending.messages
  return UInt32.ofNat ending.status

end CodeGauge.Program

/-- The program. -/
def main (args : List String) : IO UInt32 := do
  try CodeGauge.Program.start args
  catch cause =>
    IO.eprintln ("error: " ++ toString cause)
    return 1
