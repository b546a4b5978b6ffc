/-
Module: CodeGauge.Language
Purpose: Programming languages and the file name extensions that tell them.
Main exports:
  Language, Language.name, Language.ofPath
-/
import CodeGauge.Extension

namespace CodeGauge

/-- The languages that a report tells apart. -/
inductive Language where
  | java
  | c
  | cpp
  | csharp
  | javascript
  | typescript
  | kotlin
  | scala
  | go
  | unknown
deriving DecidableEq, Repr, Inhabited

namespace Language

/-- The name by which a report calls a language. -/
def name : Language → String
  | .java => "java"
  | .c => "c"
  | .cpp => "cpp"
  | .csharp => "csharp"
  | .javascript => "javascript"
  | .typescript => "typescript"
  | .kotlin => "kotlin"
  | .scala => "scala"
  | .go => "go"
  | .unknown => "unknown"

/-- The languages that have extensions of their own, with these extensions. -/
def extensions : List (Language × List String) :=
  [(.java, [".java"]),
   (.c, [".c", ".h"]),
   (.cpp, [".cpp", ".hpp", ".cc", ".hh", ".cxx"]),
   (.csharp, [".cs"]),
   (.javascript, [".js", ".mjs", ".cjs", ".jsx"]),
   (.typescript, [".ts", ".tsx"]),
   (.kotlin, [".kt", ".kts"]),
   (.scala, [".scala"]),
   (.go, [".go"])]

/-- The language of a file, told by its extension. -/
def ofPath (path : String) : Language :=
  let extension := Extension.ofPath path
  match extensions.find? (fun entry => entry.2.contains extension) with
  | some (language, _) => language
  | none => .unknown

end Language

end CodeGauge
