/-
Module: CodeGauge.FileTree.Change
Purpose: Reading and changing the files of a tree.
Main exports:
  FileTree.isFile, FileTree.read, FileTree.makeFolders, FileTree.writeFile, FileTree.makeLink, FileTree.moveFile,
  FileTree.removeOne, FileTree.removeAll
-/
import CodeGauge.Analysis.Outcome
import CodeGauge.FileTree.Resolve

namespace CodeGauge.FileTree

open CodeGauge.Text CodeGauge.Analysis

/-- Whether a path leads to a file. -/
def isFile (tree : FileTree) (path : String) : Bool :=
  match tree.status true path with
  | .ok (.file _) => true
  | _ => false

/-- What a path gives when it is opened and read.  The bytes of a database are left out: it reads as an
empty file. -/
def read (tree : FileTree) (path : String) : Reading :=
  match tree.status true path with
  | .error trouble => .notOpened (failing "open" path trouble.message).message
  | .ok (.file (.bytes bytes)) => .content bytes
  | .ok (.file _) => .content []
  | .ok _ => .broken (failing "read" path "is a directory").message

/-- The tree with a node at a place. -/
def putAt (tree : FileTree) (place : Place) (node : Node) : FileTree :=
  { tree with top := tree.top.put node place }

/-- Make the folder of a path, if it is not there; the folder above has to be. -/
def makeFolder (tree : FileTree) (path : String) : Except Fault FileTree :=
  match tree.status true path with
  | .ok (.folder _) => .ok tree
  | .ok _ => .error (failing "mkdir" path "not a directory")
  | .error _ =>
    match tree.resolve false path with
    | .ok (.vacant place) => .ok (tree.putAt place (.folder .nil))
    | .ok (.existing _ _) => .error (failing "mkdir" path "file exists")
    | .error trouble => .error (failing "mkdir" path trouble.message)

/-- The beginnings of a list that are not empty, the shortest one first. -/
def beginnings {α : Type} : List α → List (List α)
  | [] => []
  | a :: rest => [a] :: (beginnings rest).map (a :: ·)

/-- The paths of the folders on the way to a path and the path itself, the shortest one first. -/
def waypoints (path : String) : List String :=
  (beginnings (Path.elements path)).map fun elements =>
    let body := Text.join ['/'] elements
    String.ofList (if Path.isRooted path then '/' :: body else body)

/-- Make folders one after another, up to the first one that cannot be made. -/
def makeEach : FileTree → List String → Except Fault Unit × FileTree
  | tree, [] => (.ok (), tree)
  | tree, path :: paths =>
    match tree.makeFolder path with
    | .error fault => (.error fault, tree)
    | .ok tree => makeEach tree paths

/-- Make the folder of a path and all folders above it that are missing.  If this fails, those that
could be made are there. -/
def makeFolders (tree : FileTree) (path : String) : Except Fault Unit × FileTree :=
  makeEach tree (waypoints path)

/-- Write a file, through a link if the path leads to one; the folder above has to be there. -/
def writeFile (tree : FileTree) (path : String) (content : Content) : Except Fault FileTree :=
  match tree.resolve true path with
  | .ok (.vacant place) => .ok (tree.putAt place (.file content))
  | .ok (.existing place (.file _)) => .ok (tree.putAt place (.file content))
  | .ok (.existing _ _) => .error (failing "open" path "is a directory")
  | .error trouble => .error (failing "open" path trouble.message)

/-- Make a symbolic link at a path at which nothing is. -/
def makeLink (tree : FileTree) (path target : String) : Except Fault FileTree :=
  match tree.resolve false path with
  | .ok (.vacant place) => .ok (tree.putAt place (.link target))
  | .ok (.existing _ _) => .error (failing ("symlink " ++ target) path "file exists")
  | .error trouble => .error (failing ("symlink " ++ target) path trouble.message)

/-- Move a file to another path, or say why it stays.  A folder there is in the way; all else is replaced, a
link itself and not what it leads to. -/
def moveFile (tree : FileTree) (source target : String) : Except String FileTree :=
  match tree.resolve false source with
  | .ok (.existing origin (.file content)) =>
    match tree.resolve false target with
    | .ok (.existing _ (.folder _)) => .error "file exists"
    | .ok (.existing place _) | .ok (.vacant place) =>
        .ok (({ tree with top := tree.top.remove origin } : FileTree).putAt place (.file content))
    | .error trouble => .error trouble.message
  | .ok _ => .error Trouble.missing.message
  | .error trouble => .error trouble.message

/-- Take away the file, the link or the empty folder at a path, if there is one. -/
def removeOne (tree : FileTree) (path : String) : FileTree :=
  match tree.resolve false path with
  | .ok (.existing _ (.folder (.cons ..))) => tree
  | .ok (.existing place _) => { tree with top := tree.top.remove place }
  | _ => tree

/-- Take away what is at a path, and all that is in it.  A folder is not taken away by the point that
stands for it. -/
def removeAll (tree : FileTree) (path : String) : FileTree :=
  if Path.lastElement path.toList = ['.'] then tree
  else
    match tree.resolve false path with
    | .ok (.existing place _) => { tree with top := tree.top.remove place }
    | _ => tree

end CodeGauge.FileTree
