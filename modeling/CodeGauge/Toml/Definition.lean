/-
Module: CodeGauge.Toml.Definition
Purpose: What the keys of a TOML text are defined to be, and which further definitions may follow.
Main exports:
  Toml.Kind, Toml.Definition, Toml.Definitions.setKey?, Toml.Definitions.openTable?,
  Toml.Definitions.openNext?
-/
import CodeGauge.Toml.Text

namespace CodeGauge.Toml

/-!
A key is set once.  A table is opened by a line of its own, once, or by the keys that lead through it:
the keys of one table may lead through a table as long as no line has opened it and no other table has
been opened since.  The next element of a list of tables starts without any definitions below it.
-/

/-- What a key is. -/
inductive Kind where
  | value
  | table
  /-- A list of tables. -/
  | tables
deriving DecidableEq, Repr, Inhabited

/-- A key that is defined. -/
structure Definition where
  path : KeyPath
  kind : Kind
  /-- Whether no key may lead through it any more. -/
  isClosed : Bool
  /-- Whether a key of the present table leads through it. -/
  isRecent : Bool
deriving DecidableEq, Repr, Inhabited

/-- All keys that are defined, and the table that is open. -/
structure Definitions where
  all : List Definition
  current : KeyPath
deriving DecidableEq, Repr, Inhabited

/-- No definitions; the outermost table is open. -/
def Definitions.none : Definitions := ⟨[], []⟩

/-- The definition of a path. -/
def find? (all : List Definition) (path : KeyPath) : Option Definition :=
  all.find? (fun d => d.path == path)

/-- Whether a path leads through another one to something below it. -/
def isBelow (path outer : KeyPath) : Bool := outer.isPrefixOf path && outer.length < path.length

/-- Lead through tables to a key, and set it. -/
def lead? (all : List Definition) (outer : KeyPath) : KeyPath → Option (List Definition)
  | [] => some all
  | name :: rest =>
    let path := outer ++ [name]
    if rest.isEmpty then
      if (find? all path).isSome then .none else some (⟨path, .value, false, true⟩ :: all)
    else
      match find? all path with
      | .none => lead? (⟨path, .table, false, true⟩ :: all) path rest
      | some d => if d.kind = .table ∧ !d.isClosed then lead? all path rest else .none

/-- Set a key of the open table. -/
def Definitions.setKey? (definitions : Definitions) (path : KeyPath) : Option Definitions :=
  (lead? definitions.all definitions.current path).map fun all => { definitions with all := all }

/-- Close the tables that keys of the open table lead through. -/
def Definitions.closed (definitions : Definitions) : List Definition :=
  definitions.all.map fun d =>
    if d.isRecent && isBelow d.path definitions.current then
      { d with isClosed := true, isRecent := false }
    else d

/-- Define the tables that a path leads through before its last name. -/
def through? (all : List Definition) (outer : KeyPath) : KeyPath → Option (List Definition)
  | [] | [_] => some all
  | name :: rest =>
    let path := outer ++ [name]
    match find? all path with
    | .none => through? (⟨path, .table, false, false⟩ :: all) path rest
    | some d => if d.kind = .value then .none else through? all path rest

/-- Open a table by a line of its own. -/
def Definitions.openTable? (definitions : Definitions) (path : KeyPath) : Option Definitions := do
  let all ← through? definitions.closed [] path
  match find? all path with
  | .none => some ⟨⟨path, .table, true, false⟩ :: all, path⟩
  | some d =>
    if d.kind = .table ∧ !d.isClosed then
      some ⟨all.map fun e => if e.path = path then { e with isClosed := true } else e, path⟩
    else .none

/-- Open the next element of a list of tables. -/
def Definitions.openNext? (definitions : Definitions) (path : KeyPath) : Option Definitions := do
  let all ← through? definitions.closed [] path
  match find? all path with
  | .none => some ⟨⟨path, .tables, true, false⟩ :: all, path⟩
  | some d =>
    if d.kind = .tables then some ⟨all.filter (fun e => !isBelow e.path path), path⟩ else .none

end CodeGauge.Toml
