/-
Module: CodeGauge.FileTree.Scan
Purpose: Searching a file tree.
Main exports:
  Leaf, Node.leaves, Entries.leaves, Walk, FileTree.walk, FileTree.search, FileTree.scan, FileTree.listing
-/
import CodeGauge.Extension
import CodeGauge.FileTree.Resolve

namespace CodeGauge.FileTree

/-!
A search walks through the folders below its root and passes over folders with certain names; the
root itself is searched whatever its name is.  Links are neither followed nor found.  A search that
has been told to stop notices it at the first thing it meets that is no folder.

What is met gets the shortest path that its names and the root's path make, and folders are read by
these paths.  So a folder in the root is read where the root's shortest path leads, which is elsewhere
if two points stand behind a link in the root's path; below that, paths lead to what was met.  A walk
ends at the first folder that it cannot read.
-/

/-- Something that is no folder, with its path. -/
structure Leaf where
  path : String
  isRegular : Bool
deriving DecidableEq, Repr, Inhabited

mutual

/-- What a walk meets at a node of the given path. -/
def Node.leaves (skips : String → Bool) (path : String) : Node → List Leaf
  | .file _ => [⟨path, true⟩]
  | .link _ => [⟨path, false⟩]
  | .folder entries => entries.leaves skips path

/-- What a walk meets in a folder of the given path. -/
def Entries.leaves (skips : String → Bool) (path : String) : Entries → List Leaf
  | .nil => []
  | .cons name node rest =>
      (if node.isFolder && skips name then [] else node.leaves skips (Path.join [path, name]))
        ++ rest.leaves skips path

end

/-- What a walk has met, and why it has ended if it has not come to its end. -/
structure Walk where
  leaves : List Leaf
  fault : Option Fault
deriving DecidableEq, Repr, Inhabited

namespace Walk

/-- The walk that meets nothing. -/
def nothing : Walk := ⟨[], none⟩

/-- The walk that ends at a folder which it cannot read. -/
def stopped (path : String) (trouble : Trouble) : Walk :=
  ⟨[], some (failing "open" path trouble.message)⟩

/-- One walk and then another one, unless the first one has ended early. -/
def andThen (first second : Walk) : Walk :=
  match first.fault with
  | some _ => first
  | none => ⟨first.leaves ++ second.leaves, second.fault⟩

end Walk

mutual

/-- The walk through a node of the given path; a folder is read if its path is not too long. -/
def Node.walk (skips : String → Bool) (path : String) : Node → Walk
  | .file _ => ⟨[⟨path, true⟩], none⟩
  | .link _ => ⟨[⟨path, false⟩], none⟩
  | .folder entries =>
      if maxPath < path.utf8ByteSize then .stopped path .nameTooLong else entries.walk skips path

/-- The walk through a folder of the given path. -/
def Entries.walk (skips : String → Bool) (path : String) : Entries → Walk
  | .nil => .nothing
  | .cons name node rest =>
      (if node.isFolder && skips name then .nothing else node.walk skips (Path.join [path, name])).andThen
        (rest.walk skips path)

end

/-- The names of folders that hold no sources of the project. -/
def skippedNames : List String := [".git", ".hg", ".svn", "vendor", "node_modules", ".cqa"]

/-- Whether a search passes over folders of a name. -/
def isSkipped (name : String) : Bool := skippedNames.contains name

/-- The entries of the folder that a path leads to. -/
def folderOf (tree : FileTree) (path : String) : Except Trouble Entries :=
  match tree.status true path with
  | .ok (.folder entries) => .ok entries
  | .ok _ => .error .notFolder
  | .error trouble => .error trouble

/-- Whether the elements of a path lead to the folder of a place. -/
def arrivesAt (tree : FileTree) (path : String) (place : Place) : Bool :=
  let elements := (Path.elements path).map String.ofList
  match follow tree.top true maxLinks (if Path.isRooted path then [] else tree.current) elements with
  | .ok (.existing other (.folder _)) => other == place
  | _ => false

/-- The walk through a root whose shortest path leads elsewhere: its folders are looked for there. -/
def walkElsewhere (tree : FileTree) (root : String) : Entries → Walk
  | .nil => .nothing
  | .cons name node rest =>
      let path := Path.join [root, name]
      let walk : Walk :=
        if !node.isFolder then node.walk isSkipped path
        else if isSkipped name then .nothing
        else
          match tree.folderOf path with
          | .ok entries => entries.walk isSkipped path
          | .error trouble => .stopped path trouble
      walk.andThen (tree.walkElsewhere root rest)

/-- The walk of a search. -/
def walk (tree : FileTree) (root : String) : Except Trouble Walk :=
  match tree.resolve false root with
  | .ok (.existing place (.folder entries)) =>
      .ok (if tree.arrivesAt root place then entries.walk isSkipped root
        else tree.walkElsewhere root entries)
  | .ok (.existing _ node) => .ok (node.walk isSkipped root)
  | .ok (.vacant _) => .error .missing
  | .error trouble => .error trouble

/-- Paths in order. -/
def sorted (paths : List String) : List String := paths.mergeSort (fun p q => decide (p ≤ q))

/-- The paths of the regular files with an admitted extension. -/
def chosen (extensions : List String) (leaves : List Leaf) : List String :=
  (leaves.filter (fun leaf => leaf.isRegular && Extension.admits extensions leaf.path)).map Leaf.path

/-- The files that a search has found under a root when it ends, and why it has failed if it has. -/
def search (cancelled : Bool) (tree : FileTree) (root : String) (extensions : List String) :
    List String × Option Fault :=
  match tree.walk root with
  | .error trouble => ([], some (failing "lstat" root trouble.message))
  | .ok walk =>
    if cancelled && !walk.leaves.isEmpty then ([], some .cancelled)
    else (sorted (chosen extensions walk.leaves), walk.fault)

/-- The files under a root that have one of some extensions, or all files if there are no extensions. -/
def scan (cancelled : Bool) (tree : FileTree) (root : String) (extensions : List String) :
    Except Fault (List String) :=
  match search cancelled tree root extensions with
  | (paths, none) => .ok paths
  | (_, some fault) => .error fault

/-- The paths of everything below a path that is no folder. -/
def listing (tree : FileTree) (path : String) : List String :=
  match tree.status false path with
  | .error _ => []
  | .ok node => sorted ((node.leaves (fun _ => false) path).map Leaf.path)

end CodeGauge.FileTree
