/-
Module: CodeGauge.Yaml.Token.Basic
Purpose: The tokens of a YAML stream.
Main exports:
  Yaml.Token
-/

namespace CodeGauge.Yaml

/-!
The structure that a reader sees in brackets, dashes, colons and indentation is made explicit by tokens.
A tag is kept as it is written: a handle and what follows it.
-/

/-- A token. -/
inductive Token where
  | streamStart
  | streamEnd
  /-- The version of the language that a document is written in. -/
  | version (major minor : Nat)
  /-- A handle for tags and what it stands for. -/
  | handle (name meaning : String)
  | documentStart
  | documentEnd
  | blockSequenceStart
  | blockMappingStart
  | blockEnd
  | flowSequenceStart
  | flowSequenceEnd
  | flowMappingStart
  | flowMappingEnd
  | blockEntry
  | flowEntry
  | key
  | value
  /-- A name for what follows. -/
  | anchor (name : String)
  /-- What has been given a name before. -/
  | reference (name : String)
  | tag (handle suffix : String)
  | scalar (text : String) (isPlain : Bool)
deriving DecidableEq, Repr, Inhabited

end CodeGauge.Yaml
