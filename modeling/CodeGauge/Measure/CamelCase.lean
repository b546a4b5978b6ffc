/-
Module: CodeGauge.Measure.CamelCase
Purpose: The naming rule for functions.
Main exports:
  isCamelCase
-/
import CodeGauge.Text.DecimalDigit
import CodeGauge.Text.Letter

namespace CodeGauge.Measure

open CodeGauge.Text

/-!
A name is in lower camel case if it is made of ASCII letters and digits alone, begins with a small
letter, and never has two capitals in a row.  The rule is decided in one pass that remembers whether
the last character was a capital.
-/

/-- Small letters of ASCII. -/
def isSmall (c : Char) : Bool := 'a' ≤ c && c ≤ 'z'

/-- Capital letters of ASCII. -/
def isCapital (c : Char) : Bool := 'A' ≤ c && c ≤ 'Z'

/-- Whether a name may go on with these characters behind a capital, or behind anything else. -/
def continuesCamelCase (afterCapital : Bool) : List Char → Bool
  | [] => true
  | c :: rest =>
      if isSmall c || isAsciiDigit c then continuesCamelCase false rest
      else if isCapital c then !afterCapital && continuesCamelCase true rest
      else false

/-- Whether a name is in lower camel case. -/
def isCamelCase (name : String) : Bool :=
  match name.toList with
  | [] => false
  | c :: rest => isSmall c && continuesCamelCase false rest

end CodeGauge.Measure
