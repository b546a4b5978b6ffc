/-
Module: CodeGauge.Database.Source
Purpose: What the name of a database says: which file it is and how it is opened.
Main exports:
  Database.Access, Database.Source, Database.Source.ofName
-/
import CodeGauge.Database.Pragma
import CodeGauge.Database.Query
import CodeGauge.Path

namespace CodeGauge.Database

open CodeGauge.Text

/-!
The name of a database is a path, behind which options may stand after a question mark.  The path is cut
off at the first question mark that is not the first character of the name.

A name that begins with a scheme is a location.  In its path and its options percent signs and two
hexadecimal digits stand for bytes, of which the byte zero ends its part; a hash sign ends the location.
A location has options of its own, which say how the file is opened.
-/

/-- How a database is opened. -/
inductive Access where
  /-- A file that is made if it is not there. -/
  | anyFile
  /-- A file that has to be there. -/
  | oldFile
  /-- A file that has to be there and is not changed. -/
  | reading
  /-- No file: the database is forgotten when it is closed. -/
  | memory
deriving DecidableEq, Repr, Inhabited

/-- What the name of a database says. -/
structure Source where
  path : String
  access : Access
  /-- The properties that are set when the database has been opened. -/
  properties : List Bytes
  /-- What is found wrong with the options after that. -/
  lateObstacle : Option Obstacle
deriving DecidableEq, Repr, Inhabited

/-! ### Locations -/

/-- The word with which a location begins. -/
def scheme : Bytes := Utf8.encode "file:"

/-- The bytes that a part of a location stands for, up to a byte zero. -/
def decodePart : Bytes → Bytes
  | [] => []
  | b :: rest =>
    match b == ascii '%', rest with
    | true, high :: low :: behind =>
      match hexByte? high low with
      | some byte => if byte = 0 then [] else byte :: decodePart behind
      | none => b :: decodePart (high :: low :: behind)
    | _, rest => b :: decodePart rest
termination_by bytes => bytes.length

/-- The path and the options of what stands behind the scheme. -/
def readLocation (bytes : Bytes) : Bytes × Query :=
  let (path, options) := cutAt '?' (cutAt '#' bytes).1
  let option (part : Bytes) : Bytes × Bytes :=
    let (name, value) := cutAt '=' part
    (decodePart name, decodePart value)
  (decodePart path, ((split (ascii '&') options).map option).filter (fun o => !o.1.isEmpty))

/-- The ways to reach files that there are. -/
def drivers : List String := ["unix", "unix-dotfile", "unix-excl", "unix-none"]

/-- Whether a name is the name of a way to reach files. -/
def isDriver (name : Bytes) : Bool := drivers.contains (Utf8.decodeText name)

/-- How a location says that its file is opened, where the last word counts. -/
def accessOf? (options : Query) : Option Access :=
  let modes := [("ro", Access.reading), ("rw", .oldFile), ("rwc", .anyFile), ("memory", .memory)]
  (options.values "mode").foldlM
    (fun _ value => modes.lookup (Utf8.decodeText value)) .anyFile

/-- Whether a location says in a way that is known how memory is shared. -/
def sharesWell (options : Query) : Bool :=
  (options.values "cache").all fun value => ["shared", "private"].contains (Utf8.decodeText value)

/-! ### Names -/

/-- The one way to reach files that options name; the empty name stands for any. -/
def driverOf (query : Query) : Except Obstacle Bytes :=
  let names := query.values "vfs"
  let named := names.filter (fun name => !name.isEmpty)
  let agree := names.dropWhile List.isEmpty
  if agree.all (fun name => some name == named.head?) then .ok (named.headD [])
  else .error (.severalDrivers names)

/-- What is wrong with the settings of a connection.  A setting of how times are written ends the
search. -/
def settingObstacle? (query : Query) : Option Obstacle :=
  match query.first? "_time_format" with
  | some format =>
      if format = Utf8.encode "sqlite" then none else some (.unknownSetting "_time_format" format)
  | none =>
    match query.first? "_txlock" with
    | some lock =>
        if ["deferred", "immediate", "exclusive"].contains (Pragma.lowerWord lock) then none
        else some (.unknownSetting "_txlock" lock)
    | none => none

/-- A path in its shortest form and how it is opened, where two paths stand for memory. -/
def pathAccess (path : Bytes) (access : Access) : String × Access :=
  let text := Utf8.decodeText path
  if text = "" ∨ text = ":memory:" then (text, .memory) else (Path.clean text, access)

namespace Source

/-- What the name of a database says. -/
def ofName (name : String) : Except Obstacle Source := do
  let bytes := Utf8.encode name
  let (front, behind) := cutAt '?' bytes
  let text := if front.isEmpty then [] else behind
  let query ← Query.read text
  let driver ← driverOf query
  let (path, options) :=
    if scheme.isPrefixOf bytes then readLocation (bytes.drop scheme.length)
    else (if front.isEmpty then bytes else front, [])
  let isReachable :=
    match (options.values "vfs").getLast? with
    | some name => isDriver name
    | none => driver.isEmpty || isDriver driver
  match accessOf? options with
  | none => throw .unknownOption
  | some access =>
    if sharesWell options && isReachable then
      let (path, access) := pathAccess path access
      pure ⟨path, access, query.values "_pragma", settingObstacle? query⟩
    else throw .unknownOption

/-- What is wrong with what is set when the database has been opened. -/
def setUp (source : Source) : Except Obstacle Unit := do
  source.properties.forM Pragma.check
  match source.lateObstacle with
  | some obstacle => throw obstacle
  | none => pure ()

end Source

end CodeGauge.Database
