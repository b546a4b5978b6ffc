/-
Module: CodeGauge.Yaml.Writer
Purpose: Documents as YAML.
Main exports:
  Document.yaml
-/
import CodeGauge.Document
import CodeGauge.Yaml.Scalar

namespace CodeGauge.Document

open CodeGauge.Number CodeGauge.Yaml

/-!
Fields and items stand on lines of their own, indented by two blanks a level; the items of a list in a
record are indented as well.  The first field of a record in a list stands behind the item's dash.
An empty list, and one that was never given, is a pair of brackets.
-/

/-- Numbers are positional from a ten-thousandth up to below a million, and elsewhere have an exponent
of at least two digits. -/
def yamlStyle : Binary64.NumberStyle where
  leastPositional := -4
  firstExponential := 6
  exponentWidth := 2
  nanText := ".nan"
  positiveInfinityText := ".inf"
  negativeInfinityText := "-.inf"

/-- What ends a line that has not been ended, and the indentation of the next one. -/
def lineStart (ended : Bool) (indent : Nat) : List Char :=
  (if ended then [] else ['\n']) ++ List.replicate indent ' '

/-- Whether a text ends its last line, by a break of any kind. -/
def endsLine (text : List Char) : Bool := text.getLast?.any isBreak

/-- What stands before the first part of a value: a blank behind a dash, a new line behind a colon. -/
def firstLead (behindDash : Bool) (indent : Nat) : List Char :=
  if behindDash then [' '] else lineStart false indent

mutual
/-- A value behind a dash or a colon.  What it belongs to has the given indentation. -/
def valueText (behindDash : Bool) (indent : Nat) : Document → List Char
  | .null => " null".toList
  | .bool true => " true".toList
  | .bool false => " false".toList
  | .int value => ' ' :: (toString value.toInt).toList
  | .number value => ' ' :: (value.write yamlStyle).toList
  | .text value => ' ' :: scalar (indent + indentStep) value
  | .time value => ' ' :: value.writePrecise.toList
  | .noList => " []".toList
  | .list items =>
      if items.isEmpty then " []".toList
      else itemsText (indent + indentStep) (firstLead behindDash (indent + indentStep)) items
  | .record fields =>
      if fields.isEmpty then " \x7b\x7d".toList
      else fieldsText (indent + indentStep) (firstLead behindDash (indent + indentStep)) fields

/-- The fields of a record, each on a line of its own, the first one behind `lead`. -/
def fieldsText (indent : Nat) (lead : List Char) : List (String × Document) → List Char
  | [] => []
  | (name, value) :: fields =>
      let text := valueText false indent value
      lead ++ name.toList ++ ':' :: text
        ++ fieldsText indent (lineStart (endsLine text) indent) fields

/-- The items of a list, each on a line of its own, the first one behind `lead`. -/
def itemsText (indent : Nat) (lead : List Char) : List Document → List Char
  | [] => []
  | item :: items =>
      let text := valueText true indent item
      lead ++ '-' :: text ++ itemsText indent (lineStart (endsLine text) indent) items
end

/-- A document as YAML; the last line is ended. -/
def yaml (document : Document) : String :=
  let text :=
    match document with
    | .record (field :: fields) => fieldsText 0 [] (field :: fields)
    | .list (item :: items) => itemsText 0 [] (item :: items)
    | other => (valueText false 0 other).drop 1
  String.ofList (if endsLine text then text else text ++ ['\n'])

end CodeGauge.Document
