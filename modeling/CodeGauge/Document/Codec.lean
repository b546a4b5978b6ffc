/-
Module: CodeGauge.Document.Codec
Purpose: How a type is written as a document and read back from JSON.
Main exports:
  Codec, Codec.decode?, Codec.text, Codec.int, Codec.list, Codec.record, RecordField
-/
import CodeGauge.Document

namespace CodeGauge

open CodeGauge.Number CodeGauge.Time

/-!
Reading starts from a value that is there already and changes what the JSON says.  A `null` changes
nothing, except that it takes a list away; a field that is not named stays as it is.  Names are
compared without regard to letter case, and unknown names are passed over.  Reading fails if the JSON
has a value of another kind, or a number that the type does not hold.

A record may name a field more than once, so that several JSON values are read into one value.  A later
list is read into the items of the earlier ones, place by place, also into items that a shorter list in
between has cut off; only a list without items and `null` make it forget them.  This is why a codec
reads all values for one place together: what is read into a place is then a list of its own, whatever
lengths the lists around it have.
-/

/-- How values of a type are written and read. -/
structure Codec (α : Type) where
  write : α → Document
  /-- What a value becomes when JSON values are read into it one after another. -/
  read : α → List Json → Option α

/-- A named part of a record. -/
structure RecordField (ρ : Type) where
  name : String
  /-- The part as a document, unless it is left out. -/
  write : ρ → Option Document
  /-- The record with JSON values read into the part one after another. -/
  read : ρ → List Json → Option ρ

namespace Codec

/-- The value of a JSON value. -/
def decode? {α : Type} [Inhabited α] (codec : Codec α) (json : Json) : Option α :=
  codec.read default [json]

/-- A new value for one that is there, which `null` leaves as it is. -/
def replace {α : Type} (value? : Json → Option α) : α → Json → Option α
  | old, .null => some old
  | _, json => value? json

/-- Values without parts, which are replaced as a whole. -/
def plain {α : Type} (write : α → Document) (value? : Json → Option α) : Codec α where
  write
  read old told := told.foldlM (replace value?) old

/-- Truth values. -/
def bool : Codec Bool :=
  plain .bool fun
    | .bool value => some value
    | _ => none

/-- Texts. -/
def text : Codec String :=
  plain .text fun
    | .string value | .spelled value => some value
    | _ => none

/-- The integer that a number spells, if it has neither a point nor an exponent and fits a word. -/
def word? (literal : String) : Option Int64 :=
  let (negative, digits) :=
    match literal.toList with
    | '-' :: digits => (true, digits)
    | digits => (false, digits)
  if !digits.isEmpty && digits.all Char.isDigit then
    let magnitude : Int := Binary64.digitsValue digits
    let value := if negative then -magnitude else magnitude
    if Int64.minValue.toInt ≤ value ∧ value ≤ Int64.maxValue.toInt then some (Int64.ofInt value) else none
  else none

/-- Whole numbers. -/
def int : Codec Int64 :=
  plain .int fun
    | .number literal => word? literal
    | _ => none

/-- The finite number that a JSON number spells, if there is one. -/
def finite? (literal : String) : Option Binary64 :=
  (Binary64.read? literal).filter Binary64.isFinite

/-- Double-precision numbers. -/
def number : Codec Binary64 :=
  plain .number fun
    | .number literal => finite? literal
    | _ => none

/-- Instants, whose characters have to stand for themselves. -/
def time : Codec Timestamp :=
  plain .time fun
    | .string value => Timestamp.read? value
    | _ => none

/-! ### Lists -/

/-- Lists that are read into one list. -/
structure Rows where
  /-- What is read into each place. -/
  columns : List (List Json)
  /-- The number of items of the last list. -/
  length : Nat
deriving Inhabited

/-- Put each item of a list behind what is read into its place. -/
def addItems : List (List Json) → List Json → List (List Json)
  | columns, [] => columns
  | [], item :: items => [item] :: addItems [] items
  | column :: columns, item :: items => (column ++ [item]) :: addItems columns items

/-- Add a list. -/
def Rows.add (rows : Rows) (items : List Json) : Rows := ⟨addItems rows.columns items, items.length⟩

/-- Read columns into the items that are there; an item that is not there begins as the default one. -/
def readColumns {α : Type} [Inhabited α] (codec : Codec α) :
    List α → List (List Json) → Option (List α)
  | _, [] => some []
  | old, column :: columns => do
      let first ← codec.read (old.head?.getD default) column
      let others ← readColumns codec old.tail columns
      pure (first :: others)

/-- The list that some lists make of one that is there. -/
def readRows {α : Type} [Inhabited α] (codec : Codec α) (old : Option (List α)) (rows : Rows) :
    Option (Option (List α)) :=
  if rows.columns.isEmpty then some old
  else (readColumns codec (old.getD []) rows.columns).map fun items => some (items.take rows.length)

/-- Read JSON values into a list, of which some rows wait to be read. -/
def readLists {α : Type} [Inhabited α] (codec : Codec α) :
    Option (List α) → Rows → List Json → Option (Option (List α))
  | old, rows, [] => readRows codec old rows
  | old, rows, .array (item :: items) :: told =>
      readLists codec old (rows.add (item :: items)) told
  | old, rows, .array [] :: told => do
      let _ ← readRows codec old rows
      readLists codec (some []) default told
  | old, rows, .null :: told => do
      let _ ← readRows codec old rows
      readLists codec none default told
  | _, _, _ :: _ => none

/-- Lists that may not be given. -/
def list {α : Type} [Inhabited α] (codec : Codec α) : Codec (Option (List α)) where
  write
    | none => .noList
    | some items => .list (items.map codec.write)
  read old told := readLists codec old default told

/-! ### Records -/

/-- A character without regard to letter case.  Two letters outside ASCII, the Kelvin sign and the
long s, are taken for the letters they stand for. -/
def foldChar (c : Char) : Char :=
  if 'A' ≤ c && c ≤ 'Z' then Char.ofNat (c.toNat + 32)
  else if c.toNat = 0x212A then 'k'
  else if c.toNat = 0x17F then 's'
  else c

/-- A name without regard to letter case. -/
def foldName (name : String) : List Char := name.toList.map foldChar

/-- All that JSON values say about the fields of a record, if each is an object or `null`. -/
def entries? : List Json → Option (List (List Char × Json))
  | [] => some []
  | .object entries :: told => do
      let others ← entries? told
      pure (entries.map (fun entry => (foldName entry.1, entry.2)) ++ others)
  | .null :: told => entries? told
  | _ :: _ => none

/-- What entries say about a field. -/
def saying (name : String) (entries : List (List Char × Json)) : List Json :=
  let folded := foldName name
  entries.filterMap fun entry => if entry.1 == folded then some entry.2 else none

/-- Records, field by field. -/
def record {ρ : Type} (fields : List (RecordField ρ)) : Codec ρ where
  write r := .record (fields.filterMap fun field => (field.write r).map fun value => (field.name, value))
  read old told := do
    let entries ← entries? told
    fields.foldlM (fun r field => field.read r (saying field.name entries)) old

end Codec

namespace RecordField

/-- A part of a record that is always written. -/
def part {ρ α : Type} (name : String) (codec : Codec α) (get : ρ → α) (set : ρ → α → ρ) :
    RecordField ρ where
  name
  write r := some (codec.write (get r))
  read r told := (codec.read (get r) told).map (set r)

/-- A list in a record that is left out if it is empty. -/
def unlessEmpty {ρ α : Type} [Inhabited α] (name : String) (codec : Codec α) (get : ρ → List α)
    (set : ρ → List α → ρ) : RecordField ρ where
  name
  write r := if (get r).isEmpty then none else some (codec.list.write (some (get r)))
  read r told := (codec.list.read (some (get r)) told).map fun items => set r (items.getD [])

end RecordField

end CodeGauge
