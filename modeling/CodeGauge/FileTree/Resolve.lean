/-
Module: CodeGauge.FileTree.Resolve
Purpose: Where a path leads in a file tree.
Main exports:
  FileTree, Trouble, Destination, FileTree.follow, FileTree.resolve, FileTree.status
-/
import CodeGauge.FileTree.Basic
import CodeGauge.Path

namespace CodeGauge

open CodeGauge.Text CodeGauge.FileTree

/-!
A path is followed element by element: a point stays in the folder, two points go to the folder above,
where the top is its own parent, and a link is replaced by the path that it names, which starts from
the folder of the link unless it is rooted.  At most forty links are followed.  A link at the very end
is followed only on request; a slash behind it counts as a request.

No path has the character of number zero in it.  A whole path and a single name have a greatest length
in bytes; a name that is too long is noticed when it is looked up, a path at once.
-/

/-- A tree of files and the folder from which paths that are not rooted start. -/
structure FileTree where
  top : Entries
  current : Place
deriving Inhabited

namespace FileTree

/-- A tree without files. -/
def empty : FileTree := ⟨.nil, []⟩

/-- Why a path leads nowhere. -/
inductive Trouble where
  | missing
  | notFolder
  | tooManyLinks
  | nameTooLong
  /-- The path has a character that no path has. -/
  | notPath
deriving DecidableEq, Repr, Inhabited

/-- The trouble in words. -/
def Trouble.message : Trouble → String
  | .missing => "no such file or directory"
  | .notFolder => "not a directory"
  | .tooManyLinks => "too many levels of symbolic links"
  | .nameTooLong => "file name too long"
  | .notPath => "invalid argument"

/-- Where a path leads. -/
inductive Destination where
  | existing (place : Place) (node : Node)
  /-- A name that its folder does not have. -/
  | vacant (place : Place)

/-- How many links are followed. -/
def maxLinks : Nat := 40

/-- The greatest length of a name in bytes. -/
def maxName : Nat := 255

/-- The greatest length of a path in bytes. -/
def maxPath : Nat := 4095

/-- Follow path elements from a folder on, up to a link that is to be followed: `onLink` goes on from the
folder at which the link starts with what it names and the rest of the path. -/
def followTo (top : Entries) (finalLink : Bool)
    (onLink : Place → List String → Except Trouble Destination) :
    Place → List String → Except Trouble Destination
  | here, [] =>
    match top.find? here with
    | some node => .ok (.existing here node)
    | none => .error .missing
  | here, element :: way =>
    if element = "" ∨ element = "." then followTo top finalLink onLink here way
    else if element = ".." then followTo top finalLink onLink here.dropLast way
    else if maxName < element.utf8ByteSize then .error .nameTooLong
    else
      let place := here ++ [element]
      match top.find? place with
      | none => if way.isEmpty then .ok (.vacant place) else .error .missing
      | some (.folder _) => followTo top finalLink onLink place way
      | some (.file content) =>
        if way.isEmpty then .ok (.existing place (.file content)) else .error .notFolder
      | some (.link target) =>
        if way.isEmpty && !finalLink then .ok (.existing place (.link target))
        else onLink (if Path.isRooted target then [] else here) (splitText '/' target ++ way)

/-- Follow path elements from a folder on, through at most some number of links. -/
def follow (top : Entries) (finalLink : Bool) : Nat → Place → List String → Except Trouble Destination
  | 0 => followTo top finalLink fun _ _ => .error .tooManyLinks
  | links + 1 => followTo top finalLink (follow top finalLink links)

/-- Where a path leads; a link at its end is followed if `finalLink` says so.  The empty path leads
nowhere. -/
def resolve (tree : FileTree) (finalLink : Bool) (path : String) : Except Trouble Destination :=
  if path.isEmpty then .error .missing
  else if path.toList.contains (Char.ofNat 0) then .error .notPath
  else if maxPath < path.utf8ByteSize then .error .nameTooLong
  else
    follow tree.top finalLink maxLinks (if Path.isRooted path then [] else tree.current)
      (splitText '/' path)

/-- What is at the end of a path. -/
def status (tree : FileTree) (finalLink : Bool) (path : String) : Except Trouble Node :=
  match tree.resolve finalLink path with
  | .ok (.existing _ node) => .ok node
  | .ok (.vacant _) => .error .missing
  | .error trouble => .error trouble

/-- A failed attempt to do something with a path. -/
def failing (doing path reason : String) : Fault := .other (doing ++ " " ++ path ++ ": " ++ reason)

end FileTree

end CodeGauge
