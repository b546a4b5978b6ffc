/-
Module: CodeGauge.Hcl.Value
Purpose: The values of the names in an HCL text.
Main exports:
  Hcl.Value, Hcl.read?
-/
import CodeGauge.Hcl.Object
import CodeGauge.Number.Decimal
import CodeGauge.Text.Blank
import CodeGauge.Text.LowerCase

namespace CodeGauge.Hcl

open CodeGauge.Text CodeGauge.Number

/-!
The first value of a name decides what kind of value it has.  A further value of the name is read as
this kind: a number where a text is wanted is the text that it is written as, a string where a whole
number is wanted has to spell one, and values are added to a list.  If it cannot be read so, the text as
a whole has no meaning.  An object is a list of tables with one element, except as an element of a list.

Of an item with several names, all items that begin with the first of them belong to it, in whatever
letter case.
-/

/-- The value of a name.  What is in lists and tables does not matter beyond its being sound. -/
inductive Value where
  | text (value : Bytes)
  | whole (value : Int)
  | number (value : Binary64)
  | truth (value : Bool)
  /-- A list of values of any kind. -/
  | list
  /-- A list of tables. -/
  | tables
  /-- A table, as an element of a list. -/
  | table
deriving DecidableEq, Repr, Inhabited

/-- Names and their values. -/
abbrev Table := List (Bytes × Value)

/-! ### Literals -/

/-- The whole number that is written so. -/
def wholeOf? (written : List Char) : Option Value :=
  ((Integer.read (String.ofList written)).toOption).map .whole

/-- The finite number that is written so. -/
def numberOf? (written : List Char) : Option Value :=
  ((Binary64.read? (String.ofList written)).filter Binary64.isFinite).map .number

/-- The value of a literal by itself. -/
def Literal.value? : Literal → Option Value
  | .text value => some (.text value)
  | .lines value => some (.text value)
  | .whole written => wholeOf? written
  | .fraction written => numberOf? written
  | .truth value => some (.truth value)

/-- The value of a literal of a name that has a value already. -/
def Literal.valueAfter? : Value → Literal → Option Value
  | .text _, .text value | .text _, .lines value => some (.text value)
  | .text _, .whole written => some (.text (written.flatMap Utf8.encodeChar))
  | .whole _, .whole written => wholeOf? written
  | .whole _, .text value => wholeOf? (Utf8.decode value)
  | .number _, .whole written | .number _, .fraction written => numberOf? written
  | .truth _, .truth value => some (.truth value)
  | _, _ => none

/-! ### Tables -/

/-- What a name is given: a value, or the items of which it is the first name. -/
inductive Content where
  | node (value : Node)
  | items (items : List Item)

/-- Whether two names are the same up to letter case. -/
def isSameName (a b : Bytes) : Bool := lower (Utf8.decodeText a) == lower (Utf8.decodeText b)

/-- The items that begin with a name, without it. -/
def itemsUnder (name : Bytes) (items : List Item) : List Item :=
  items.filterMap fun item =>
    match item.names with
    | first :: names => if isSameName first name then some (.mk names item.value) else none
    | [] => none

/-- The value of a name in a table. -/
def Table.get? (table : Table) (name : Bytes) : Option Value :=
  (table.find? (fun entry => entry.1 == name)).map Prod.snd

/-- A table with a value put in. -/
def Table.put (table : Table) (name : Bytes) (value : Value) : Table :=
  table.filter (fun entry => entry.1 != name) ++ [(name, value)]

mutual

/-- The table of some items; `fuel` bounds the depth.  Items with several names are taken together, at
the first of them. -/
def tableOf? : Nat → List Item → Option Table
  | 0, _ => none
  | fuel + 1, items => do
    let (table, _) ← items.foldlM (fun (state : Table × List Bytes) item =>
      match item.names with
      | [] => none
      | name :: more =>
        if state.2.contains name then some state
        else do
          let content := if more.isEmpty then .node item.value else .items (itemsUnder name items)
          let value ← valueOf? fuel (state.1.get? name) content
          some (state.1.put name value, if more.isEmpty then state.2 else name :: state.2))
      ([], [])
    some table

/-- The value of a name, given the value that it has already. -/
def valueOf? : Nat → Option Value → Content → Option Value
  | 0, _, _ => none
  | _ + 1, before, .node (.literal value) =>
    match before with
    | none => value.value?
    | some kind => value.valueAfter? kind
  | fuel + 1, before, .node (.list nodes) =>
    match before with
    | none | some .list => do
      let _ ← nodes.mapM (elementOf? fuel)
      some .list
    | some .tables => do
      let _ ← nodes.mapM fun node =>
        match node with
        | .object items => tableOf? fuel items
        | _ => none
      some .tables
    | _ => none
  | fuel + 1, before, .node (.object items) =>
    match before with
    | none | some .tables => (tableOf? fuel items).map fun _ => .tables
    | some .list => (tableOf? fuel items).map fun _ => .list
    | _ => none
  | fuel + 1, before, .items items =>
    match before with
    | none | some .tables => do
      let _ ← items.mapM fun item => tableOf? fuel [item]
      some .tables
    | _ => none

/-- The value of an element of a list. -/
def elementOf? : Nat → Node → Option Value
  | 0, _ => none
  | _ + 1, .literal value => value.value?
  | fuel + 1, .list nodes => do
    let _ ← nodes.mapM (elementOf? fuel)
    some .list
  | fuel + 1, .object items => (tableOf? fuel items).map fun _ => .table

end

/-- The names and values of a text, which may be written in either of two ways; or nothing if it has no
meaning. -/
def read? (bytes : Bytes) : Option Table := do
  let items ←
    if (trimFront bytes).head? = some 0x7B then objectItems? bytes
    else
      let (chars, isFaulty) := soundFront bytes
      if isFaulty then none else (tokens? chars).bind items?
  tableOf? (4 * bytes.length + 8) items

end CodeGauge.Hcl
