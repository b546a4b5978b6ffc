/-
Module: CodeGauge.Toml.Document
Purpose: Reading a TOML text.
Main exports:
  Toml.Value, Toml.read?
-/
import CodeGauge.Toml.Definition
import CodeGauge.Toml.Scalar

namespace CodeGauge.Toml

/-!
A TOML text is a list of lines that set keys or open tables.  It is read into the outermost keys with
their values; what is in lists and tables is read, and not kept.
-/

/-- The value of a key. -/
inductive Value where
  | text (value : String)
  | truth (value : Bool)
  | scalar (value : Scalar)
  /-- A list or a table. -/
  | compound
deriving DecidableEq, Repr, Inhabited

/-! ### Values -/

mutual

/-- A value at the front, and what follows it; `fuel` bounds the number of steps. -/
def value? : Nat → List Char → Option (Value × List Char)
  | 0, _ => none
  | fuel + 1, cs =>
    match cs with
    | '"' :: rest => (string? true '"' rest).map fun (text, rest) => (.text text, rest)
    | '\'' :: rest => (string? true '\'' rest).map fun (text, rest) => (.text text, rest)
    | 't' :: 'r' :: 'u' :: 'e' :: rest => some (.truth true, rest)
    | 'f' :: 'a' :: 'l' :: 's' :: 'e' :: rest => some (.truth false, rest)
    | '[' :: rest => list? fuel rest
    | '\x7b' :: rest => table? fuel true .none rest
    | cs => (word? cs).map fun (value, rest) => (.scalar value, rest)

/-- The rest of a list behind its bracket or behind a comma. -/
def list? : Nat → List Char → Option (Value × List Char)
  | 0, _ => none
  | fuel + 1, cs =>
    match skipped cs with
    | ']' :: rest => some (.compound, rest)
    | cs =>
      match value? fuel cs with
      | none => none
      | some (_, rest) =>
        match skipped rest with
        | ',' :: rest => list? fuel rest
        | ']' :: rest => some (.compound, rest)
        | _ => none

/-- The rest of a table on one line, behind its bracket if it is at its start, or behind a comma. -/
def table? : Nat → Bool → Definitions → List Char → Option (Value × List Char)
  | 0, _, _, _ => none
  | fuel + 1, atStart, definitions, cs =>
    match skipGap cs with
    | '\x7d' :: rest => if atStart then some (.compound, rest) else none
    | cs => do
      let (path, rest) ← keyPath? (cs.length + 1) cs
      let definitions ← definitions.setKey? path
      match rest with
      | '=' :: rest =>
        let (_, rest) ← value? fuel (skipGap rest)
        match skipGap rest with
        | ',' :: rest => table? fuel false definitions rest
        | '\x7d' :: rest => some (.compound, rest)
        | _ => none
      | _ => none

end

/-! ### Documents -/

/-- What has been read of a text: its definitions, and the outermost keys with their values, the last
one first. -/
structure Progress where
  definitions : Definitions
  entries : List (String × Value)
deriving Inhabited

/-- Note a key that leads to a value: only if it stands alone at the top is the value its own. -/
def Progress.note (entries : List (String × Value)) (path : KeyPath) (value : Value) :
    List (String × Value) :=
  match path with
  | [] => entries
  | [name] => (name, value) :: entries
  | name :: _ => (name, .compound) :: entries

/-- Set a key of the open table. -/
def Progress.set? (progress : Progress) (path : KeyPath) (value : Value) : Option Progress := do
  let definitions ← progress.definitions.setKey? path
  some ⟨definitions, note progress.entries (definitions.current ++ path) value⟩

/-- Open a table. -/
def Progress.enter (progress : Progress) (definitions : Definitions) : Progress :=
  ⟨definitions, note progress.entries definitions.current .compound⟩

/-- The path between brackets, and what follows the closing ones. -/
def header? (closing : List Char) (cs : List Char) : Option (KeyPath × List Char) := do
  let (path, rest) ← keyPath? (cs.length + 1) (skipGap cs)
  if closing.isPrefixOf rest then some (path, rest.drop closing.length) else none

/-- Read the line at the front, which is not empty; what follows what it sets or opens. -/
def line? (progress : Progress) (cs : List Char) : Option (Progress × List Char) :=
  match cs with
  | '[' :: '[' :: rest => do
    let (path, rest) ← header? [']', ']'] rest
    some (progress.enter (← progress.definitions.openNext? path), rest)
  | '[' :: rest => do
    let (path, rest) ← header? [']'] rest
    some (progress.enter (← progress.definitions.openTable? path), rest)
  | cs => do
    let (path, rest) ← keyPath? (cs.length + 1) cs
    match rest with
    | '=' :: rest =>
      let (value, rest) ← value? (2 * rest.length + 2) (skipGap rest)
      some (← progress.set? path value, rest)
    | _ => none

/-- Read the lines of a text. -/
def lines? : Nat → Progress → List Char → Option Progress
  | 0, _, _ => none
  | fuel + 1, progress, cs =>
    match skipped cs with
    | [] => some progress
    | cs => do
      let (progress, rest) ← line? progress cs
      lines? fuel progress (← endLine? rest)

/-- The outermost keys of a text with their values, or nothing if it is no TOML text. -/
def read? (text : List Char) : Option (List (String × Value)) :=
  if isSound text then
    (lines? (text.length + 1) ⟨.none, []⟩ text).map fun progress => progress.entries.reverse
  else none

end CodeGauge.Toml
