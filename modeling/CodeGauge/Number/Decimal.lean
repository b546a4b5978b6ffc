/-
Module: CodeGauge.Number.Decimal
Purpose: Decimal texts of double-precision numbers: the fewest digits that read back, a fixed
  number of places, and reading a decimal text.
Main exports:
  Decimal, Binary64.shortest, NumberStyle, Binary64.write, Binary64.writeFixed, Binary64.read?
-/
import CodeGauge.Number.Binary64

namespace CodeGauge.Number

/-!
A finite number has one shortest decimal: of all decimals with the fewest digits that round to the
number it is the nearest one, and a tie goes to the even last digit.  Which decimals are written
with an exponent, and how, differs between the outputs; that choice is a `NumberStyle`.
-/

/-- The decimal `digits * 10 ^ exponent`. -/
structure Decimal where
  digits : Nat
  exponent : Int
deriving DecidableEq, Repr, Inhabited

namespace Decimal

/-- The digits of a natural number in base ten. -/
def digitChars (n : Nat) : List Char := Nat.toDigits 10 n

/-- Drop trailing zeros of the digits, at most `fuel` of them, raising the exponent instead. -/
def strip : Nat → Decimal → Decimal
  | 0, d => d
  | fuel + 1, d =>
      if d.digits % 10 = 0 ∧ d.digits ≠ 0 then strip fuel ⟨d.digits / 10, d.exponent + 1⟩ else d

/-- The power of ten of the leading digit. -/
def leading (d : Decimal) : Int :=
  d.exponent + ((digitChars d.digits).length : Int) - 1

/-- The decimal without an exponent: digits, a point where one is needed, and zeros for the places
that the digits do not reach. -/
def positional (d : Decimal) : List Char :=
  let digits := digitChars d.digits
  if d.digits = 0 then ['0']
  else if 0 ≤ d.exponent then digits ++ List.replicate d.exponent.toNat '0'
  else
    let places := (-d.exponent).toNat
    if places < digits.length then
      digits.take (digits.length - places) ++ '.' :: digits.drop (digits.length - places)
    else '0' :: '.' :: (List.replicate (places - digits.length) '0' ++ digits)

/-- The decimal with an exponent: one digit, the others behind a point, then `e`, a sign and the
exponent in at least `width` digits. -/
def exponential (width : Nat) (d : Decimal) : List Char :=
  let digits := digitChars d.digits
  let power := d.leading
  let exponent := digitChars power.natAbs
  let mantissa := digits.take 1 ++ (if digits.length ≤ 1 then [] else '.' :: digits.drop 1)
  mantissa ++ ['e', if power < 0 then '-' else '+']
    ++ List.replicate (width - exponent.length) '0' ++ exponent

end Decimal

namespace Binary64

/-! ### The fewest digits that read back -/

/-- Numerator of `num / den` over a power of ten, together with `tenDen`. -/
def tenNum (num : Nat) (power : Int) : Nat := num * Nat.pow 10 (-power).toNat

/-- Denominator of `num / den` over a power of ten, together with `tenNum`. -/
def tenDen (den : Nat) (power : Int) : Nat := den * Nat.pow 10 power.toNat

/-- The largest power of ten that is not above `num / den`.  The binary logarithms give a guess that
is at most one off. -/
def decimalPower (num den : Nat) : Int :=
  let guess := (((Nat.log2 num : Int) - (Nat.log2 den : Int)) * 30103).fdiv 100000
  if tenDen den (guess + 1) ≤ tenNum num (guess + 1) then guess + 1
  else if tenDen den guess ≤ tenNum num guess then guess
  else guess - 1

/-- The decimal with `count` digits that rounds to the number `x = num / den`, if there is one: one of
the two neighbours of `x` on the grid of that many digits, the nearer one if both will do. -/
def withDigits? (x : Binary64) (num den : Nat) (count : Nat) : Option Decimal :=
  let power := decimalPower num den - ((count : Int) - 1)
  let below := tenNum num power / tenDen den power
  let belowReads := ofDecimal false below power == x
  let aboveReads := ofDecimal false (below + 1) power == x
  if belowReads && aboveReads then some ⟨roundDiv (tenNum num power) (tenDen den power), power⟩
  else if belowReads then some ⟨below, power⟩
  else if aboveReads then some ⟨below + 1, power⟩
  else none

/-- The first decimal that reads back, trying `count` digits and then one more, `tries` times; the
exact value of the number if none does. -/
def firstReading (x : Binary64) (num den : Nat) : Nat → Nat → Decimal
  | 0, _ => ⟨num * Nat.pow 5 1074, -1074⟩
  | tries + 1, count =>
    match withDigits? x num den count with
    | some d => d
    | none => firstReading x num den tries (count + 1)

/-- The shortest decimal of the absolute value of a finite number.  Seventeen digits always
suffice. -/
def shortest (x : Binary64) : Decimal :=
  if x.scaled = 0 then ⟨0, 0⟩
  else (firstReading (ofMagnitude false x.magnitudeBits) x.scaled unit 17 1).strip 1100

/-! ### Writing -/

/-- How an output writes numbers: the powers of ten of the leading digit between which no exponent is
written, the least number of exponent digits, and the texts of the numbers that have no digits. -/
structure NumberStyle where
  leastPositional : Int
  firstExponential : Int
  exponentWidth : Nat
  nanText : String
  positiveInfinityText : String
  negativeInfinityText : String
deriving Repr, Inhabited

/-- A number in a style, with a sign only if it is negative. -/
def write (style : NumberStyle) (x : Binary64) : String :=
  if x.isNaN then style.nanText
  else if x.isInfinite then
    if x.isNegative then style.negativeInfinityText else style.positiveInfinityText
  else
    let d := x.shortest
    let text :=
      if d.digits = 0 ∨ (style.leastPositional ≤ d.leading ∧ d.leading < style.firstExponential) then
        d.positional
      else d.exponential style.exponentWidth
    String.ofList (if x.isNegative then '-' :: text else text)

/-- Digits with a point before the last `places` of them. -/
def withPoint (places : Nat) (n : Nat) : List Char :=
  let digits := Decimal.digitChars n
  let padded := List.replicate (places + 1 - digits.length) '0' ++ digits
  padded.take (padded.length - places) ++ '.' :: padded.drop (padded.length - places)

/-- A number with a fixed number of places, rounded to the nearest, a tie to the even last digit. -/
def writeFixed (places : Nat) (x : Binary64) : String :=
  if x.isNaN then "NaN"
  else if x.isInfinite then if x.isNegative then "-Inf" else "+Inf"
  else
    let text := withPoint places (roundDiv (x.scaled * Nat.pow 10 places) unit)
    String.ofList (if x.isNegative then '-' :: text else text)

/-- The style without exponents. -/
def plainStyle : NumberStyle where
  leastPositional := -2000
  firstExponential := 2000
  exponentWidth := 1
  nanText := "NaN"
  positiveInfinityText := "+Inf"
  negativeInfinityText := "-Inf"

/-! ### Reading -/

/-- The value of a run of decimal digits. -/
def digitsValue (cs : List Char) : Nat :=
  cs.foldl (fun n c => n * 10 + (c.toNat - 48)) 0

/-- The number that a run of decimal digits spells; infinity if it is too large. -/
def ofDigits (cs : List Char) : Binary64 :=
  ofDecimal false (digitsValue cs) 0

/-- A whole exponent: an optional sign and at least one digit. -/
def readExponent? (cs : List Char) : Option Int :=
  match cs with
  | '-' :: ds => if !ds.isEmpty && ds.all Char.isDigit then some (-(digitsValue ds : Int)) else none
  | '+' :: ds => if !ds.isEmpty && ds.all Char.isDigit then some (digitsValue ds) else none
  | ds => if !ds.isEmpty && ds.all Char.isDigit then some (digitsValue ds) else none

/-- An unsigned decimal: digits with at most one point and at least one digit, then perhaps an
exponent. -/
def readUnsigned? (negative : Bool) (cs : List Char) : Option Binary64 :=
  let whole := cs.takeWhile Char.isDigit
  let afterWhole := cs.dropWhile Char.isDigit
  let (fraction, afterFraction) :=
    match afterWhole with
    | '.' :: more => (more.takeWhile Char.isDigit, more.dropWhile Char.isDigit)
    | other => ([], other)
  if whole.isEmpty && fraction.isEmpty then none
  else
    let digits := digitsValue (whole ++ fraction)
    let places : Int := fraction.length
    match afterFraction with
    | [] => some (ofDecimal negative digits (-places))
    | e :: more =>
      if e == 'e' || e == 'E' then
        (readExponent? more).map (fun power => ofDecimal negative digits (power - places))
      else none

/-- A word for a number without digits, in any letter case. -/
def readWord? (negative : Bool) (cs : List Char) : Option Binary64 :=
  let word := String.ofList (cs.map Char.toLower)
  if word == "inf" || word == "infinity" then some (if negative then negInfinity else infinity)
  else none

/-- Read a decimal text, or a word for infinity or for no number.  A value too large for a number
reads as infinity. -/
def read? (s : String) : Option Binary64 :=
  match s.toList with
  | '-' :: cs => (readWord? true cs).orElse fun _ => readUnsigned? true cs
  | '+' :: cs => (readWord? false cs).orElse fun _ => readUnsigned? false cs
  | cs =>
    if String.ofList (cs.map Char.toLower) == "nan" then some nan
    else (readWord? false cs).orElse fun _ => readUnsigned? false cs

end Binary64

end CodeGauge.Number
