/-
Module: CodeGauge.Declaration.Basic
Purpose: A function declared in a token buffer, and what can be read off it.
Main exports:
  Declaration, Declaration.nameText, Declaration.line, Declaration.complexity, Declaration.display
-/
import CodeGauge.Measure.Complexity

namespace CodeGauge

open CodeGauge.Source CodeGauge.Measure

/-!
A declaration holds indices only; everything else is looked up in the buffer that the indices point
into.
-/

/-- A function declared in a buffer: the index of its name, and the ranges of its parameters and its
body, brackets left out. -/
structure Declaration where
  name : Int
  parameters : Span
  body : Span
deriving DecidableEq, Repr, Inhabited

namespace Declaration

/-- The token that names the function. -/
def nameToken (d : Declaration) (b : Buffer) : Token := b.token d.name

/-- The name of the function. -/
def nameText (d : Declaration) (b : Buffer) : String := (d.nameToken b).text

/-- The line of the function's name. -/
def line (d : Declaration) (b : Buffer) : Int := (d.nameToken b).line

/-- The complexity of the function; a body outside the buffer has none. -/
def complexity (d : Declaration) (b : Buffer) : Nat :=
  branches ((b.slice? d.body).getD [])

/-- The function's name, file and line for a reader. -/
def display (d : Declaration) (b : Buffer) : String :=
  displayName (d.nameText b) b.path (d.line b)

end Declaration

end CodeGauge
