/-
Module: CodeGauge.FileTree.Database
Purpose: Opening and closing the database of run histories among the files around it.
Main exports:
  FileTree.Connection, FileTree.connect, FileTree.Connection.close
-/
import CodeGauge.Database.Source
import CodeGauge.FileTree.Change

namespace CodeGauge.FileTree

open CodeGauge.Text CodeGauge.Database

/-!
Beside a database there may be three files under its name with an ending: a journal from which a broken
change is undone, a log of changes that are not yet in the database, and an index of that log.  A new
database is first written with a journal; from then on changes go through the log.  The log and its
index are made when the database is opened, and removed when it is closed.

What stands under these names already can be in the way.  A journal or a log that belongs to no database
is removed; a folder or a link of such a name cannot be opened for writing.  A folder in the place of
the index can still be opened for reading, and the database with it.
-/

/-- A file beside a database. -/
inductive Companion where
  | journal
  | log
  | index
deriving DecidableEq, Repr, Inhabited

/-- The ending of the name. -/
def Companion.ending : Companion → String
  | .journal => "-journal"
  | .log => "-wal"
  | .index => "-shm"

/-- The place of a companion of the database at a place. -/
def Companion.place (companion : Companion) (database : Place) : Place :=
  database.dropLast ++ [database.getLastD "" ++ companion.ending]

/-- What the name of a companion stands for. -/
inductive Standing where
  | nothing
  | emptyFile
  /-- A file with content that begins with the given byte. -/
  | fullFile (first : UInt8)
  | folder
  /-- A link, and whether it leads to a folder or to a file with content. -/
  | link (full : Bool)
deriving DecidableEq, Repr, Inhabited

/-- The first byte of what a file holds. -/
def Content.first? : Content → Option UInt8
  | .bytes held => held.head?
  | _ => some (ascii 'S')

/-- What a node is as a companion, where links have been followed. -/
def Standing.ofNode : Node → Standing
  | .folder _ => .folder
  | .link _ => .link false
  | .file content => (content.first?.map .fullFile).getD .emptyFile

/-- Whether something is there that counts: files without content do not. -/
def Standing.counts : Standing → Bool
  | .nothing | .emptyFile => false
  | .fullFile _ | .folder => true
  | .link full => full

/-- Whether a file can be opened for writing there. -/
def Standing.isWritable : Standing → Bool
  | .folder | .link _ => false
  | _ => true

/-- What stands at a place. -/
def standing (tree : FileTree) (place : Place) : Standing :=
  match tree.top.find? place with
  | none => .nothing
  | some (.link _) =>
    match follow tree.top true maxLinks [] place with
    | .ok (.existing _ node) => .link (Standing.ofNode node).counts
    | _ => .link false
  | some node => .ofNode node

/-- The tree without what is at a place, unless it is a folder. -/
def unlink (tree : FileTree) (place : Place) : FileTree :=
  if tree.standing place = .folder then tree else { tree with top := tree.top.remove place }

/-! ### Steps -/

/-- Something that is done with a tree, and may fail after having changed it. -/
abbrev Attempt := ExceptT Obstacle (StateM FileTree)

/-- What an attempt comes to, and the tree behind it. -/
def Attempt.on {α : Type} (attempt : Attempt α) (tree : FileTree) : Except Obstacle α × FileTree :=
  (attempt.run.run tree).run

/-- What stands where a companion is. -/
def companion (database : Place) (which : Companion) : Attempt Standing := do
  return (← get).standing (which.place database)

/-- Remove a companion that is no folder. -/
def discard (database : Place) (which : Companion) : Attempt Unit :=
  modify fun tree => tree.unlink (which.place database)

/-- Let a file hold something. -/
def store (place : Place) (content : Content) : Attempt Unit :=
  modify fun tree => tree.putAt place (.file content)

/-! ### Opening -/

/-- What the file of a database holds. -/
inductive Stored where
  /-- Nothing yet. -/
  | fresh
  /-- Something that is no database. -/
  | junk
  /-- A database, with a run history or without it. -/
  | database (history : Option Ledger)
deriving DecidableEq, Repr, Inhabited

/-- What a file holds as a database; a single byte is as good as none. -/
def Content.stored : Content → Stored
  | .ledger history => .database (some history)
  | .blank => .database none
  | .bytes held => if held.length ≤ 1 then .fresh else .junk

/-- A database that has been opened. -/
structure Connection where
  /-- Where its file is, if it has one. -/
  place : Option Place
  history : Ledger
  /-- Whether it cannot be changed. -/
  isReadOnly : Bool
deriving DecidableEq, Repr, Inhabited

/-- The longest path of a database in bytes. -/
def maxDatabasePath : Nat := 504

/-- The length of the path of a place in bytes. -/
def pathSize (place : Place) : Nat := place.foldl (fun size name => size + 1 + name.utf8ByteSize) 0

/-- Find the file of a database and what it holds; a file that is not there may be made. -/
def findFile (source : Source) : Attempt (Place × Stored) := do
  match (← get).resolve true source.path with
  | .ok (.vacant place) =>
    if source.access ≠ .anyFile ∨ maxDatabasePath < pathSize place then throw .noFile
    store place (.bytes [])
    return (place, .fresh)
  | .ok (.existing place (.file content)) =>
    if maxDatabasePath < pathSize place then throw .noFile
    return (place, content.stored)
  | _ => throw .noFile

/-- Remove what belongs to no database from beside a new one. -/
def clear (place : Place) : Attempt Unit := do
  if (← companion place .journal).counts then discard place .journal
  let log ← companion place .log
  if log = .folder then throw .lastingCompanion
  else if log.counts then discard place .log

/-- Write a new database, with a journal that is removed again. -/
def writeFirst (place : Place) : Attempt Unit := do
  if (← companion place .journal).isWritable then
    discard place .journal
    store place .blank
  else throw .noCompanion

/-- Undo the change that a journal is there for, and remove the journal.  A journal that begins with a
zero has been dealt with. -/
def undo (place : Place) : Attempt Unit := do
  match ← companion place .journal with
  | .folder => throw .unreadableCompanion
  | .link true => throw .noCompanion
  | .fullFile first => if first ≠ 0 then discard place .journal
  | _ => pure ()

/-- Open the log and its index; the result says whether they are only for reading. -/
def openLog (place : Place) : Attempt Bool := do
  let log ← companion place .log
  if log.isWritable then
    if log = .nothing then store (Companion.log.place place) (.bytes [])
    match ← companion place .index with
    | .folder => pure true
    | .link _ => throw .noCompanion
    | _ => pure false
  else throw .noCompanion

/-- Remove the log and its index. -/
def closeLog (place : Place) : Attempt Unit := do
  discard place .log
  discard place .index

/-- Give a database a run history, unless it has one or cannot be changed. -/
def withHistory (isReadOnly : Bool) : Option Ledger → Attempt Ledger
  | some history => pure history
  | none => if isReadOnly then throw .readOnly else pure .empty

/-- Open a database that is at a place. -/
def openAt (place : Place) : Stored → Attempt Connection
  | .fresh => do
      clear place
      writeFirst place
      let isReadOnly ← openLog place
      return ⟨some place, ← withHistory isReadOnly none, isReadOnly⟩
  | .junk => do
      undo place
      if (← companion place .log).counts then
        if !(← openLog place) then closeLog place
      throw .notDatabase
  | .database history => do
      undo place
      let isReadOnly ← openLog place
      return ⟨some place, ← withHistory isReadOnly history, isReadOnly⟩

/-- Open a database that is at a place only for reading. -/
def readAt (place : Place) : Stored → Attempt Connection
  | .fresh | .database none => throw .readOnly
  | .junk => throw .notDatabase
  | .database (some history) => pure ⟨some place, history, true⟩

/-- Open the database of a name. -/
def connect (name : String) : Attempt Connection := do
  let source ← Source.ofName name
  if source.access = .memory then
    source.setUp
    return ⟨none, .empty, false⟩
  let (place, stored) ← findFile source
  source.setUp
  if source.access = .reading then readAt place stored else openAt place stored

/-- Close a database, whose run history is then kept in its file. -/
def Connection.close (connection : Connection) : Attempt Unit :=
  match connection.place with
  | none => pure ()
  | some place =>
    if connection.isReadOnly then pure ()
    else do
      store place (.ledger connection.history)
      closeLog place

end CodeGauge.FileTree
