/-
Module: CodeGauge.Database.Obstacle
Purpose: Why a database cannot be used.
Main exports:
  Database.Obstacle, Database.Obstacle.message
-/
import CodeGauge.Text.Quoted

namespace CodeGauge.Database

open CodeGauge.Text

/-- Why a database cannot be used. -/
inductive Obstacle where
  /-- A percent sign in the options is not followed by two hexadecimal digits. -/
  | badEscape (text : Bytes)
  /-- The options have a semicolon. -/
  | semicolon
  /-- The options name several ways to reach files. -/
  | severalDrivers (names : List Bytes)
  /-- An option that says how the file is opened has a value that is not known. -/
  | unknownOption
  /-- A setting of the connection has a value that is not known. -/
  | unknownSetting (name : String) (value : Bytes)
  /-- A statement cannot be carried out. -/
  | statement (reason : String)
  /-- The file cannot be opened. -/
  | noFile
  /-- A file beside the database cannot be opened. -/
  | noCompanion
  /-- A file beside the database cannot be read. -/
  | unreadableCompanion
  /-- A file beside the database cannot be removed. -/
  | lastingCompanion
  | notDatabase
  | readOnly
deriving DecidableEq, Repr, Inhabited

/-- The wording of an obstacle, most often with the number of its kind. -/
def Obstacle.message : Obstacle → String
  | .badEscape text => "invalid URL escape " ++ quotedBytes text
  | .semicolon => "invalid semicolon separator in query"
  | .severalDrivers names =>
      "conflicting vfs query parameters: [" ++ " ".intercalate (names.map Utf8.decodeText) ++ "]"
  | .unknownOption => "SQL logic error: out of memory (1)"
  | .unknownSetting name value => "unknown " ++ name ++ " " ++ quotedBytes value
  | .statement reason => "SQL logic error: " ++ reason ++ " (1)"
  | .noFile => "unable to open database file: out of memory (14)"
  | .noCompanion => "unable to open database file (14)"
  | .unreadableCompanion => "disk I/O error (266)"
  | .lastingCompanion => "disk I/O error (2570)"
  | .notDatabase => "file is not a database (26)"
  | .readOnly => "attempt to write a readonly database (8)"

end CodeGauge.Database
