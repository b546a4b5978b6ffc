/-
Module: CodeGauge.Extension
Purpose: File name extensions: lists given by the user, and the two filters made from them.
Main exports:
  Extension.ofPath, Extension.parseList, Extension.admits, Extension.Supported
-/
import CodeGauge.Path
import CodeGauge.Text.Blank
import CodeGauge.Text.LowerCase

namespace CodeGauge.Extension

open CodeGauge.Text

/-!
Extensions are compared in lower case.  Two filters are made from a list of them.  The file search
takes its list as it is, apart from letter case, and admits every file if the list is empty.  The
analyser mends its list first: white space is trimmed, a missing point is put in front and empty items
are dropped; without any list it supports a standard set.
-/

/-- The extension of a path in lower case. -/
def ofPath (path : String) : String := lower (Path.extension path)

/-- An extension with a point in front. -/
def withPoint (extension : String) : String :=
  if extension.toList.head? = some '.' then extension else "." ++ extension

/-- The extensions of a comma-separated list. -/
def parseList (raw : String) : List String :=
  ((splitText ',' raw).map trim).filterMap fun item =>
    if item.isEmpty then none else some (lower (withPoint item))

/-- Whether a search for the given extensions takes a file. -/
def admits (wanted : List String) (path : String) : Bool :=
  wanted.isEmpty || (wanted.map lower).contains (ofPath path)

/-- The extensions that an analyser supports. -/
structure Supported where
  extensions : List String
deriving DecidableEq, Repr, Inhabited

/-- The standard set. -/
def standard : List String :=
  [".java", ".c", ".h", ".cpp", ".hpp", ".cc", ".hh", ".cs", ".js", ".ts", ".kt", ".scala", ".go"]

/-- One item of an analyser's list, mended; nothing is left of a blank one. -/
def mend (item : String) : Option String :=
  let bare := lower (trim item)
  if bare.isEmpty then none else some (withPoint bare)

namespace Supported

/-- The set made from a list, or the standard set for the empty list. -/
def ofList (extensions : List String) : Supported :=
  ⟨(if extensions.isEmpty then standard else extensions).filterMap mend⟩

/-- Whether a file has one of the extensions. -/
def supports (s : Supported) (path : String) : Bool :=
  s.extensions.contains (ofPath path)

end Supported

end CodeGauge.Extension
