/-
Module: CodeGauge.FileTree.Basic
Purpose: Trees of folders, files and symbolic links.
Main exports:
  Node, Entries, Entries.get?, Entries.find?, Entries.set, Entries.put, Entries.erase, Entries.remove
-/
import CodeGauge.History.Ledger
import CodeGauge.Text.Utf8

namespace CodeGauge.FileTree

open CodeGauge.Text

/-!
A folder lists its entries in the order of their names.  A place in a tree is the list of names that
leads to it from the top, with no link on the way.
-/

/-- What a file holds. -/
inductive Content where
  | bytes (bytes : Bytes)
  /-- A database that has no run history yet. -/
  | blank
  /-- A run history. -/
  | ledger (history : Ledger)
deriving DecidableEq, Repr, Inhabited

mutual

/-- What an entry of a folder is. -/
inductive Node where
  | file (content : Content)
  /-- A symbolic link to the path it names. -/
  | link (target : String)
  | folder (entries : Entries)

/-- The entries of a folder. -/
inductive Entries where
  | nil
  | cons (name : String) (node : Node) (rest : Entries)

end

instance : Inhabited Entries := ⟨.nil⟩

instance : Inhabited Node := ⟨.folder .nil⟩

/-- Names from the top of a tree down. -/
abbrev Place := List String

/-- Whether a node is a folder. -/
def Node.isFolder : Node → Bool
  | .folder _ => true
  | _ => false

namespace Entries

/-- What a name stands for. -/
def get? (name : String) : Entries → Option Node
  | .nil => none
  | .cons other node rest => if name = other then some node else rest.get? name

/-- Let a name stand for a node. -/
def set (name : String) (node : Node) : Entries → Entries
  | .nil => .cons name node .nil
  | .cons other old rest =>
      if name = other then .cons other node rest
      else if name < other then .cons name node (.cons other old rest)
      else .cons other old (rest.set name node)

/-- Let a name stand for nothing. -/
def erase (name : String) : Entries → Entries
  | .nil => .nil
  | .cons other node rest => if name = other then rest.erase name else .cons other node (rest.erase name)

/-- The entries of the folder of a name; there are none if the name is no folder. -/
def folder (name : String) (entries : Entries) : Entries :=
  match entries.get? name with
  | some (.folder inner) => inner
  | _ => .nil

/-- What is at a place. -/
def find? : Place → Entries → Option Node
  | [], entries => some (.folder entries)
  | name :: place, entries =>
    match entries.get? name with
    | some (.folder inner) => inner.find? place
    | some node => if place.isEmpty then some node else none
    | none => none

/-- Put a node at a place; names on the way become folders. -/
def put (node : Node) : Place → Entries → Entries
  | [], entries => entries
  | [name], entries => entries.set name node
  | name :: place, entries => entries.set name (.folder ((entries.folder name).put node place))

/-- Take away what is at a place. -/
def remove : Place → Entries → Entries
  | [], entries => entries
  | [name], entries => entries.erase name
  | name :: place, entries =>
    match entries.get? name with
    | some (.folder inner) => entries.set name (.folder (inner.remove place))
    | _ => entries

end Entries

end CodeGauge.FileTree
