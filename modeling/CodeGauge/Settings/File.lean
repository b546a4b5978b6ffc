/-
Module: CodeGauge.Settings.File
Purpose: The settings file of a root directory, in any of the formats that it may have.
Main exports:
  Settings.Format, Settings.read?, Settings.fileNames
-/
import CodeGauge.Document.Codec
import CodeGauge.Dotenv
import CodeGauge.Hcl.Value
import CodeGauge.Ini
import CodeGauge.Json.Reader
import CodeGauge.Properties
import CodeGauge.Settings.Value
import CodeGauge.Toml.Document
import CodeGauge.Yaml.Value

namespace CodeGauge.Settings

open CodeGauge.Text CodeGauge.Number

/-!
A settings file is a table of names and values.  Its extension tells its format.  A value of nothing
counts as no value.
-/

/-- The formats of settings files. -/
inductive Format where
  | json
  | toml
  | yaml
  /-- Lines of a name and a text. -/
  | properties
  /-- Assignments of literals to names. -/
  | hcl
  /-- Assignments of texts to variables. -/
  | env
  /-- Assignments of texts to names, all of them in sections. -/
  | ini
deriving DecidableEq, Repr, Inhabited

/-- The extensions of settings files with their formats, in the order in which they are looked for. -/
def extensions : List (String × Format) :=
  [("json", .json), ("toml", .toml), ("yaml", .yaml), ("yml", .yaml), ("properties", .properties),
   ("props", .properties), ("prop", .properties), ("hcl", .hcl), ("tfvars", .hcl), ("dotenv", .env),
   ("env", .env), ("ini", .ini)]

/-- The names of settings files with their formats, in the order in which they are looked for. -/
def fileNames : List (String × Format) := extensions.map fun e => (".cqa." ++ e.1, e.2)

/-! ### Trees -/

mutual

/-- Whether every number of a JSON value is in the range of double-precision numbers. -/
def numbersFit : Json → Bool
  | .number literal => (Codec.finite? literal).isSome
  | .array items => itemsFit items
  | .object fields => fieldsFit fields
  | _ => true

/-- Whether every number of a list is in range. -/
def itemsFit : List Json → Bool
  | [] => true
  | item :: items => numbersFit item && itemsFit items

/-- Whether every number of an object is in range. -/
def fieldsFit : List (String × Json) → Bool
  | [] => true
  | (_, value) :: fields => numbersFit value && fieldsFit fields

end

/-- The setting that a JSON value is. -/
def ofJson : Json → Value
  | .null => .nothing
  | .bool value => .truth value
  | .number literal => ((Codec.finite? literal).map .number).getD .nothing
  | .string value | .spelled value => .text value
  | _ => .other ""

/-- The settings of a JSON text. -/
def readJson? (text : List Char) : Option Entries :=
  match Json.readAll? text with
  | some (.object fields) =>
    if numbersFit (.object fields) then
      some (fields.map fun field => (field.1, ofJson field.2))
    else none
  | some .null => some []
  | _ => none

/-- The setting that a YAML value is. -/
def ofYaml : Yaml.Value → Value
  | .atom .null => .nothing
  | .atom (.bool value) => .truth value
  | .atom (.int value) => .whole value
  | .atom (.number value) => .number value
  | .atom (.time value) => .other value.describe
  | .atom (.text value) => .ofBytes value
  | _ => .other ""

/-- The settings of a YAML stream. -/
def readYaml? (bytes : Bytes) : Option Entries :=
  (Yaml.read? bytes).map fun entries =>
    entries.map fun entry => (Utf8.decodeText entry.1, ofYaml entry.2)

/-- The setting that a TOML value is. -/
def ofToml : Toml.Value → Value
  | .text value => .text value
  | .truth value => .truth value
  | .scalar (.whole value) => .whole value
  | .scalar (.number value) => .number value
  | .scalar (.moment shown) => .other shown
  | .scalar (.instant value) => .other value.describe
  | .compound => .other ""

/-- The settings of a TOML text, which is in UTF-8 throughout. -/
def readToml? (bytes : Bytes) : Option Entries :=
  let text := Utf8.decodeText bytes
  if Utf8.encode text = bytes then
    (Toml.read? text.toList).map fun entries => entries.map fun (name, value) => (name, ofToml value)
  else none

/-! ### Other formats -/

/-- A name up to its first point. -/
def beforePoint (name : List Char) : List Char := name.takeWhile (fun c => c != '.')

/-- The settings of lines of a name and a text.  A point in a name divides it, and the part before it
then names a table; names without a point count in lower case. -/
def readProperties? (variableValue : String → Option String) (text : List Char) : Option Entries :=
  (Properties.read? variableValue text).map fun entries => entries.map fun (name, text) =>
    if name.contains '.' then (String.ofList (beforePoint name), .other "")
    else (lower (String.ofList name), .text (String.ofList text))

/-- The setting that an HCL value is. -/
def ofHcl : Hcl.Value → Value
  | .text value => .ofBytes value
  | .whole value => .whole value
  | .number value => .number value
  | .truth value => .truth value
  | _ => .other ""

/-- The settings of an HCL text. -/
def readHcl? (bytes : Bytes) : Option Entries :=
  (Hcl.read? bytes).map fun table => table.map fun (name, value) =>
    (Utf8.decodeText name, ofHcl value)

/-- The settings of assignments to variables. -/
def readVariables? (variableValue : String → Option String) (bytes : Bytes) : Option Entries :=
  (Dotenv.read? variableValue bytes).map fun entries => entries.map fun (name, text) =>
    (Utf8.decodeText name, .ofBytes text)

/-- The settings of assignments in sections: every section is a table, and a point in its name divides
it. -/
def readSections? (bytes : Bytes) : Option Entries :=
  (Ini.sections? bytes).map fun sections => sections.map fun name =>
    (String.ofList (beforePoint (Utf8.decode name)), .other "")

/-! ### All formats -/

/-- The settings of a file of some format, or nothing if the file does not have the format.  Some formats
refer to variables of the environment. -/
def read? (variableValue : String → Option String) (format : Format) (bytes : Bytes) :
    Option Entries :=
  match format with
  | .json => readJson? (Utf8.decode bytes)
  | .toml => readToml? bytes
  | .yaml => readYaml? bytes
  | .properties => readProperties? variableValue (Utf8.decode bytes)
  | .hcl => readHcl? bytes
  | .env => readVariables? variableValue bytes
  | .ini => readSections? bytes

end CodeGauge.Settings
