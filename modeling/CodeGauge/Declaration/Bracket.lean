/-
Module: CodeGauge.Declaration.Bracket
Purpose: Finding the bracket that closes another one.
Main exports:
  closing?, matching?
-/
import CodeGauge.Source.Token

namespace CodeGauge.Declaration

open CodeGauge.Source

/-!
Brackets of one shape are matched by counting; all other tokens, brackets of another shape among
them, are passed over.
-/

/-- The position of the bracket that closes the innermost open one, in tokens that stand inside
`depth` further open brackets of the same shape. -/
def closing? (opening closing : Char) : Nat → List Token → Option Nat
  | _, [] => none
  | depth, token :: rest =>
      if token.isSymbol opening then (closing? opening closing (depth + 1) rest).map (· + 1)
      else if token.isSymbol closing then
        match depth with
        | 0 => some 0
        | depth + 1 => (closing? opening closing depth rest).map (· + 1)
      else (closing? opening closing depth rest).map (· + 1)

/-- The index of the bracket that closes the one at index `start`. -/
def matching? (opening closing : Char) (tokens : List Token) (start : Nat) : Option Nat :=
  (closing? opening closing 0 (tokens.drop (start + 1))).map (· + (start + 1))

end CodeGauge.Declaration
