/-
Module: CodeGauge.Analysis.Outcome
Purpose: What becomes of a path that a search has found.
Main exports:
  Reading, Analyser, Outcome, outcome, Outcome.measured?, Outcome.warning?, Outcome.events
-/
import CodeGauge.Log
import CodeGauge.Report.Summary

namespace CodeGauge.Analysis

open CodeGauge.Text

/-!
A path is given to the first analyser that supports it.  It is then opened and measured, and each of
these steps can fail; a failure turns into a warning and never into an end of the analysis.  A path
that no analyser supports leaves neither an entry nor a warning.
-/

/-- What a path gives when it is opened and read. -/
inductive Reading where
  | content (bytes : Bytes)
  /-- The path cannot be opened. -/
  | notOpened (cause : String)
  /-- The path can be opened, and reading it breaks off. -/
  | broken (cause : String)
deriving DecidableEq, Repr, Inhabited

/-- Why a supported file has no measures. -/
inductive Failure where
  | unreadable (cause : String)
  | rejected (cause : String)
deriving DecidableEq, Repr, Inhabited

/-- What measures source files: the paths it takes, and what it makes of an opened file, whose content
is there or breaks off. -/
structure Analyser where
  supports : String → Bool
  measure : String → Except String Bytes → Except Failure FileEntry

namespace Analyser

/-- The analyser of functions for files with some extensions. -/
def ofExtensions (supported : Extension.Supported) : Analyser where
  supports := supported.supports
  measure path
    | .ok source => .ok (FileEntry.ofSource path source)
    | .error cause => .error (.unreadable cause)

/-- An analyser for the paths with a certain ending that rejects all of them, unread. -/
def refusing (ending cause : String) : Analyser where
  supports path := ending.toList.isSuffixOf path.toList
  measure _ _ := .error (.rejected cause)

end Analyser

/-- What becomes of a path. -/
inductive Outcome where
  | unsupported
  | measured (entry : FileEntry)
  | failed (failure : Failure)
deriving DecidableEq, Repr, Inhabited

/-- The outcome of what an analyser makes of a file. -/
def Outcome.ofResult : Except Failure FileEntry → Outcome
  | .ok entry => .measured entry
  | .error failure => .failed failure

/-- The outcome of a path: its first analyser measures what the path gives. -/
def outcome (analysers : List Analyser) (read : String → Reading) (path : String) : Outcome :=
  match analysers.find? (fun a => a.supports path) with
  | none => .unsupported
  | some analyser =>
    match read path with
    | .notOpened cause => .failed (.unreadable cause)
    | .broken cause => .ofResult (analyser.measure path (.error cause))
    | .content bytes => .ofResult (analyser.measure path (.ok bytes))

/-- What a warning says of a failure. -/
def Failure.warning (path : String) : Failure → String
  | .unreadable cause => "read " ++ path ++ ": " ++ cause
  | .rejected cause => "parse " ++ path ++ ": " ++ cause

namespace Outcome

/-- The entry of a measured file. -/
def measured? : Outcome → Option FileEntry
  | .measured entry => some entry
  | _ => none

/-- The warning on a file that could not be measured. -/
def warning? (path : String) : Outcome → Option String
  | .failed failure => some (failure.warning path)
  | _ => none

/-- What the log says of a path. -/
def events (path : String) : Outcome → List Log.Event
  | .unsupported => [⟨.debug, "no parser for file", [("path", path)]⟩]
  | .measured entry =>
      if 0 < entry.unresolvedCandidates then
        [⟨.debug, "unbalanced brackets",
          [("path", path), ("kind", "MalformedStructure"),
           ("candidates", toString entry.unresolvedCandidates.toInt)]⟩]
      else []
  | .failed (.unreadable cause) =>
      [⟨.warn, "skipping unreadable file", [("path", path), ("kind", "IoError"), ("err", cause)]⟩]
  | .failed (.rejected cause) => [⟨.warn, "skipping file", [("path", path), ("err", cause)]⟩]

end Outcome

end CodeGauge.Analysis
