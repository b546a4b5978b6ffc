/-
Module: CodeGauge.History.Codec
Purpose: The run history as the content of a file.
Main exports:
  Row.codec, Ledger.codec, Ledger.encode, Ledger.decode?
-/
import CodeGauge.Document.Codec
import CodeGauge.History.Ledger
import CodeGauge.Json.Reader
import CodeGauge.Text.Utf8

namespace CodeGauge

open CodeGauge.Number CodeGauge.Text Codec RecordField

/-!
The file holds one record with the list of the rows.  A number is written as its bits, since not all
numbers of a row have a decimal.
-/

/-- Numbers as the words that have the same bits. -/
def Codec.bits : Codec Binary64 where
  write x := Codec.int.write x.bits.toInt64
  read old told := (Codec.int.read old.bits.toInt64 told).map fun word => ⟨word.toUInt64⟩

/-- The fields of a row. -/
def Row.codec : Codec Row :=
  .record
    [part "id" text (·.id) (fun r v => { r with id := v }),
     part "rootPath" text (·.rootPath) (fun r v => { r with rootPath := v }),
     part "time" text (·.time) (fun r v => { r with time := v }),
     part "files" int (·.files) (fun r v => { r with files := v }),
     part "functions" int (·.functions) (fun r v => { r with functions := v }),
     part "maxComplexity" int (·.maxComplexity) (fun r v => { r with maxComplexity := v }),
     part "avgComplexity" bits (·.avgComplexity) (fun r v => { r with avgComplexity := v }),
     part "nonCamelCasePct" bits (·.nonCamelCasePct) (fun r v => { r with nonCamelCasePct := v }),
     part "warnings" int (·.warnings) (fun r v => { r with warnings := v })]

namespace Ledger

/-- The one field of a history. -/
def codec : Codec Ledger :=
  .record [part "runs" Row.codec.list (fun l => some l.rows) (fun _ rows => ⟨rows.getD []⟩)]

/-- A history as the content of a file. -/
def encode (ledger : Ledger) : Bytes :=
  match (codec.write ledger).toJson with
  | .ok json => Utf8.encode json.render
  | .error _ => []

/-- The history that the content of a file is, if it is one. -/
def decode? (bytes : Bytes) : Option Ledger :=
  match Json.readAll? (Utf8.decode bytes) with
  | some (.object fields) => codec.decode? (.object fields)
  | _ => none

end Ledger

end CodeGauge
