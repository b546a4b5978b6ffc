/-
Module: CodeGauge.Measure.Complexity
Purpose: Counting branches, and naming a function for a reader.
Main exports:
  isBranch, branches, displayName
-/
import CodeGauge.Path
import CodeGauge.Source.Buffer

namespace CodeGauge.Measure

open CodeGauge.Source

/-!
A function scores one point for every branching keyword between the braces of its body.  Keywords of
functions nested in the body count for the outer function as well.
-/

/-- The keywords that count; `else`, `do`, `case`, `catch` and operators do not. -/
def branchKeywords : List String := ["if", "switch", "for", "while"]

/-- Whether a token is a branching keyword. -/
def isBranch (token : Token) : Bool :=
  branchKeywords.any (fun keyword => token.isWord keyword)

/-- The number of branching keywords among tokens. -/
def branches (tokens : List Token) : Nat := tokens.countP isBranch

/-- The name of a function with the last element of its path and its line. -/
def displayName (name path : String) (line : Int) : String :=
  name ++ "(" ++ Path.base path ++ ":" ++ toString line ++ ")"

end CodeGauge.Measure
