/-
Module: CodeGauge.Source.Token
Purpose: The classified units of source text, and the text each stands for.
Main exports:
  Token, Token.lexeme, Token.describe, Token.isWord, Token.isSymbol
-/
import CodeGauge.Number.Decimal

namespace CodeGauge.Source

open CodeGauge.Number

/-!
Source text is read as words, numbers and single significant characters.  A quoted literal counts as
one character, its quote, so that brackets and keywords inside it are never seen.  The fourth kind
of token stands where a token was asked for and there is none.
-/

/-- One unit of source text with the line on which it starts. -/
inductive Token where
  | word (text : String) (line : Int)
  | number (value : Binary64) (line : Int)
  | symbol (char : Char) (line : Int)
  | invalid
deriving DecidableEq, Repr, Inhabited

namespace Token

/-- The name of the token's kind. -/
def kind : Token → String
  | .word .. => "word"
  | .number .. => "number"
  | .symbol .. => "character"
  | .invalid => "invalid"

/-- The line on which the token starts; zero for the invalid token. -/
def line : Token → Int
  | .word _ line => line
  | .number _ line => line
  | .symbol _ line => line
  | .invalid => 0

/-- The text of a word; empty for every other token. -/
def text : Token → String
  | .word text _ => text
  | _ => ""

/-- The value of a number; zero for every other token. -/
def value : Token → Binary64
  | .number value _ => value
  | _ => .zero

/-- The code point of a single character; zero for every other token. -/
def code : Token → Nat
  | .symbol char _ => char.toNat
  | _ => 0

/-- Whether the token is the given word. -/
def isWord (expected : String) : Token → Bool
  | .word text _ => text == expected
  | _ => false

/-- Whether the token is the given character. -/
def isSymbol (expected : Char) : Token → Bool
  | .symbol char _ => char == expected
  | _ => false

/-- The token written back as source text.  A number is written without an exponent in the fewest
digits that read back. -/
def lexeme : Token → String
  | .word text _ => text
  | .number value _ => value.write Binary64.plainStyle
  | .symbol char _ => String.singleton char
  | .invalid => ""

/-- The token's kind and lexeme for a reader. -/
def describe : Token → String
  | t@(.word ..) => "Word: '" ++ t.lexeme ++ "'"
  | t@(.number ..) => "Number: '" ++ t.lexeme ++ "'"
  | t@(.symbol ..) => "Character: '" ++ t.lexeme ++ "'"
  | .invalid => "Invalid"

end Token

end CodeGauge.Source
