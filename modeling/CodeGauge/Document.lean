/-
Module: CodeGauge.Document
Purpose: Records as trees of named values, between the records and the formats they are written in.
Main exports:
  Document, Document.EncodeError, Document.toJson
-/
import CodeGauge.Json.Basic
import CodeGauge.Number.Decimal
import CodeGauge.Time.Timestamp

namespace CodeGauge

open CodeGauge.Number CodeGauge.Time

/-!
A document is what a record says, without the decisions of a format: every number, time and list is
still what it is in the record.  Two formats write documents.  JSON cannot say everything: a number
without digits and a year of more than four digits are errors, of which the first one in the
document's order is reported.
-/

/-- A tree of named values. -/
inductive Document where
  | null
  | bool (value : Bool)
  | int (value : Int64)
  | number (value : Binary64)
  | text (value : String)
  | time (value : Timestamp)
  /-- A list that was never given. -/
  | noList
  | list (items : List Document)
  | record (fields : List (String × Document))
deriving Repr, Inhabited

namespace Document

/-- Why a document has no JSON text. -/
inductive EncodeError where
  /-- A number has no digits. -/
  | notFinite (value : Binary64)
  /-- A year has no text of four digits. -/
  | yearOutOfRange
  /-- A zone offset has a day or more. -/
  | offsetOutOfRange
deriving DecidableEq, Repr, Inhabited

/-- The wording of an error. -/
def EncodeError.message : EncodeError → String
  | .notFinite value => "json: unsupported value: " ++ value.write Binary64.plainStyle
  | .yearOutOfRange =>
      "json: error calling MarshalJSON for type *time.Time: year outside of range [0,9999]"
  | .offsetOutOfRange =>
      "json: error calling MarshalJSON for type *time.Time: timezone hour outside of range [0,23]"

/-- Numbers are positional from a millionth up to below 10 to the 21st, and elsewhere have an exponent
without leading zeros. -/
def jsonStyle : Binary64.NumberStyle where
  leastPositional := -6
  firstExponential := 21
  exponentWidth := 1
  nanText := "NaN"
  positiveInfinityText := "+Inf"
  negativeInfinityText := "-Inf"

/-- A number as JSON. -/
def numberJson (value : Binary64) : Except EncodeError Json :=
  if value.isFinite then .ok (.number (value.write jsonStyle)) else .error (.notFinite value)

/-- An instant as JSON. -/
def timeJson (value : Timestamp) : Except EncodeError Json :=
  if !value.hasPlainYear then .error .yearOutOfRange
  else if !value.hasPlainOffset then .error .offsetOutOfRange
  else .ok (.string value.writePrecise)

mutual
/-- A document as a JSON value. -/
def toJson : Document → Except EncodeError Json
  | .null => .ok .null
  | .bool value => .ok (.bool value)
  | .int value => .ok (.int value.toInt)
  | .number value => numberJson value
  | .text value => .ok (.string value)
  | .time value => timeJson value
  | .noList => .ok .null
  | .list items => (itemsJson items).map Json.array
  | .record fields => (fieldsJson fields).map Json.object

/-- The items of a list as JSON values. -/
def itemsJson : List Document → Except EncodeError (List Json)
  | [] => .ok []
  | item :: items => do
      let first ← toJson item
      let others ← itemsJson items
      pure (first :: others)

/-- The fields of a record as JSON values. -/
def fieldsJson : List (String × Document) → Except EncodeError (List (String × Json))
  | [] => .ok []
  | (name, value) :: fields => do
      let first ← toJson value
      let others ← fieldsJson fields
      pure ((name, first) :: others)
end

end Document

end CodeGauge
