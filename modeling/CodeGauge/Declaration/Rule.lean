/-
Module: CodeGauge.Declaration.Rule
Purpose: The rules by which a word between two tokens is not the name of a declared function.
Main exports:
  Rule, Rule.name, Rule.rejects, Rule.firstRejecting?
-/
import CodeGauge.Source.Token

namespace CodeGauge.Declaration

open CodeGauge.Source

/-!
A word is taken for the name of a function by its two neighbours: a type stands before the name and an
opening parenthesis behind it.  The rules are tried in a fixed order, and the first one that rejects
the word is the one that is counted.
-/

/-- Why a word is not a function's name. -/
inductive Rule where
  /-- The word opens a control structure. -/
  | controlKeyword
  /-- The word follows an access modifier, as a constructor's name does. -/
  | constructor
  /-- The word follows `new`. -/
  | anonymousClass
  /-- Neither a word nor the end of a generic type stands before the word. -/
  | noReturnType
  /-- No parenthesis opens behind the word. -/
  | noParameterList
deriving DecidableEq, Repr, Inhabited

namespace Rule

/-- The rules in the order in which they are tried. -/
def all : List Rule :=
  [.controlKeyword, .constructor, .anonymousClass, .noReturnType, .noParameterList]

/-- The name under which rejections are counted. -/
def name : Rule → String
  | .controlKeyword => "control keyword"
  | .constructor => "constructor"
  | .anonymousClass => "anonymous class"
  | .noReturnType => "no return type"
  | .noParameterList => "no parameter list"

/-- The words that open a control structure. -/
def controlKeywords : List String :=
  ["if", "else", "for", "while", "do", "switch", "try", "catch"]

/-- The access modifiers. -/
def accessModifiers : List String := ["public", "private", "protected"]

/-- Whether the token can end a type: a word, or the `>` of a generic type. -/
def endsType : Token → Bool
  | .word .. => true
  | token => token.isSymbol '>'

/-- Whether the rule rejects a word with the given neighbours. -/
def rejects (rule : Rule) (before word after : Token) : Bool :=
  match rule with
  | .controlKeyword => controlKeywords.any (fun keyword => word.isWord keyword)
  | .constructor => accessModifiers.any (fun modifier => before.isWord modifier)
  | .anonymousClass => before.isWord "new"
  | .noReturnType => !endsType before
  | .noParameterList => !after.isSymbol '('

/-- The first rule that rejects a word. -/
def firstRejecting? (before word after : Token) : Option Rule :=
  all.find? (fun rule => rule.rejects before word after)

end Rule

end CodeGauge.Declaration
