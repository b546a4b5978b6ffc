/-
Module: CodeGauge.Render.Paint
Purpose: Text in pieces that may be coloured.
Main exports:
  Paint, Paint.code, Piece, Piece.write, writePieces
-/

namespace CodeGauge.Render

/-!
Text for a terminal is put together from pieces, each of which says what it is rather than which
colour it has.  The same pieces are written with colours, where a piece stands between a colour code
and a reset, or without.
-/

/-- What a coloured piece of text is. -/
inductive Paint where
  | heading
  | title
  | label
  | value
  | function
  | good
  | fair
  | poor
deriving DecidableEq, Repr, Inhabited

/-- The escape character and bracket that begin a terminal's code. -/
def introducer : List Char := [Char.ofNat 0x1B, '[']

/-- A terminal's code with the given number, or numbers between semicolons. -/
def code (numbers : String) : List Char := introducer ++ numbers.toList ++ ['m']

/-- The code that ends all colours. -/
def reset : List Char := code "0"

/-- The code that begins a kind of piece. -/
def Paint.code : Paint → List Char
  | .heading => Render.code "1" ++ Render.code "38;5;208"
  | .title => Render.code "1" ++ Render.code "38;5;142"
  | .label => Render.code "38;5;246"
  | .value => Render.code "38;5;223"
  | .function => Render.code "38;5;150"
  | .good => Render.code "38;5;108"
  | .fair => Render.code "38;5;214"
  | .poor => Render.code "38;5;167"

/-- A piece of text. -/
structure Piece where
  paint : Option Paint
  text : String
deriving DecidableEq, Repr, Inhabited

/-- A piece without a colour. -/
def bare (text : String) : Piece := ⟨none, text⟩

/-- A piece with a colour. -/
def painted (paint : Paint) (text : String) : Piece := ⟨some paint, text⟩

/-- A piece as text, with colours or without. -/
def Piece.write (colour : Bool) (p : Piece) : List Char :=
  match p.paint with
  | some paint =>
      if colour then paint.code ++ p.text.toList ++ reset else p.text.toList
  | none => p.text.toList

/-- Pieces as text, with colours or without. -/
def writePieces (colour : Bool) (pieces : List Piece) : String :=
  String.ofList (pieces.flatMap (Piece.write colour))

end CodeGauge.Render
