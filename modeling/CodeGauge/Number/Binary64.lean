/-
Module: CodeGauge.Number.Binary64
Purpose: Double-precision numbers as their 64 bits, with correctly rounded arithmetic in exact
  natural numbers.
Main exports:
  Binary64, Binary64.ofRatio, Binary64.ofInt, Binary64.ofDecimal, Binary64.mul, Binary64.div,
  Binary64.lt
-/

namespace CodeGauge.Number

/-!
Averages and percentages are double-precision numbers, and what a report prints depends on their
last bit.  A number is kept as its bit pattern, so that two numbers are equal exactly when no output
can tell them apart, and every operation rounds an exact quotient of natural numbers to the nearest
double, a tie to the even neighbour.
-/

/-- A quotient rounded to the nearest natural number, a tie to the even neighbour. -/
def roundDiv (num den : Nat) : Nat :=
  let quotient := num / den
  let twice := 2 * (num % den)
  if twice < den then quotient
  else if den < twice then quotient + 1
  else if quotient % 2 = 0 then quotient
  else quotient + 1

/-- A double-precision number, as its sign bit, eleven exponent bits and 52 fraction bits. -/
structure Binary64 where
  bits : UInt64
deriving DecidableEq, Repr, Inhabited

namespace Binary64

/-- Zero with a positive sign. -/
def zero : Binary64 := ⟨0⟩

/-- Positive infinity. -/
def infinity : Binary64 := ⟨0x7FF0000000000000⟩

/-- Negative infinity. -/
def negInfinity : Binary64 := ⟨0xFFF0000000000000⟩

/-- The number that stands for no number. -/
def nan : Binary64 := ⟨0x7FF8000000000001⟩

/-! ### Reading the bits -/

/-- The value of the sign bit. -/
def signUnit : Nat := 0x8000000000000000

/-- The value of the last exponent bit. -/
def exponentUnit : Nat := 0x10000000000000

/-- The bits of the infinite magnitude. -/
def infiniteBits : Nat := 0x7FF0000000000000

/-- Whether the sign bit is set. -/
def isNegative (x : Binary64) : Bool := 0x8000000000000000 ≤ x.bits

/-- The bits below the sign. -/
def magnitudeBits (x : Binary64) : Nat := x.bits.toNat % signUnit

/-- The eleven exponent bits. -/
def exponentBits (x : Binary64) : Nat := x.magnitudeBits / exponentUnit

/-- Whether the number is no number. -/
def isNaN (x : Binary64) : Bool := infiniteBits < x.magnitudeBits

/-- Whether the number is one of the two infinities. -/
def isInfinite (x : Binary64) : Bool := x.magnitudeBits == infiniteBits

/-- Whether the number has a finite value. -/
def isFinite (x : Binary64) : Bool := x.magnitudeBits < infiniteBits

/-- The whole number `m` of the value `m * 2 ^ (position - 1074)` of a finite number.  The leading
one is implied unless the exponent bits are zero. -/
def significand (x : Binary64) : Nat :=
  if x.exponentBits = 0 then x.magnitudeBits else x.magnitudeBits % exponentUnit + exponentUnit

/-- How many binary places the significand stands above the smallest positive number. -/
def position (x : Binary64) : Nat := x.exponentBits - 1

/-- Numerator of the absolute value of a finite number over `2 ^ 1074`. -/
def scaled (x : Binary64) : Nat := x.significand * Nat.pow 2 x.position

/-- The denominator of every finite number. -/
def unit : Nat := Nat.pow 2 1074

/-! ### Rounding to a number -/

/-- Put a sign on the bits of a magnitude; a magnitude at or above the infinite one becomes it. -/
def ofMagnitude (negative : Bool) (magnitude : Nat) : Binary64 :=
  let bounded := min magnitude infiniteBits
  ⟨UInt64.ofNat (if negative then signUnit + bounded else bounded)⟩

/-- How many binary places above the smallest positive number the last kept bit of `num / den`
stands, so that at most 53 bits are kept. -/
def keptPosition (num den : Nat) : Nat :=
  let guess := Nat.log2 num + 1074 - (Nat.log2 den + 52)
  if num * unit / (den * Nat.pow 2 guess) < exponentUnit then guess - 1 else guess

/-- The number nearest to `num / den`, a tie to the one with the even last bit, and infinity beyond
the largest number.  Adding the significand to the shifted position carries into the exponent bits
exactly when rounding up reaches the next power of two. -/
def ofRatio (negative : Bool) (num den : Nat) : Binary64 :=
  if num = 0 ∨ den = 0 then ofMagnitude negative 0
  else
    let position := keptPosition num den
    ofMagnitude negative (position * exponentUnit + roundDiv (num * unit) (den * Nat.pow 2 position))

/-- The number nearest to an integer. -/
def ofInt (i : Int) : Binary64 :=
  ofRatio (decide (i < 0)) i.natAbs 1

/-- The number nearest to `digits * 10 ^ exponent`.  Exponents far outside the range are answered
without computing the power: they give zero or infinity. -/
def ofDecimal (negative : Bool) (digits : Nat) (exponent : Int) : Binary64 :=
  if digits = 0 then ofMagnitude negative 0
  else if 400 < exponent then ofMagnitude negative infiniteBits
  else if exponent + Nat.log2 digits < -1200 then ofMagnitude negative 0
  else if 0 ≤ exponent then ofRatio negative (digits * Nat.pow 10 exponent.toNat) 1
  else ofRatio negative digits (Nat.pow 10 (-exponent).toNat)

/-! ### Arithmetic -/

/-- The rounded product of two numbers. -/
def mul (x y : Binary64) : Binary64 :=
  let negative := x.isNegative != y.isNegative
  if x.isNaN || y.isNaN then nan
  else if x.isInfinite || y.isInfinite then
    if x.magnitudeBits = 0 ∨ y.magnitudeBits = 0 then nan
    else ofMagnitude negative infiniteBits
  else ofRatio negative (x.scaled * y.scaled) (unit * unit)

/-- The rounded quotient of two numbers. -/
def div (x y : Binary64) : Binary64 :=
  let negative := x.isNegative != y.isNegative
  if x.isNaN || y.isNaN then nan
  else if x.isInfinite then
    if y.isInfinite then nan else ofMagnitude negative infiniteBits
  else if y.isInfinite then ofMagnitude negative 0
  else if y.magnitudeBits = 0 then
    if x.magnitudeBits = 0 then nan else ofMagnitude negative infiniteBits
  else ofRatio negative x.scaled y.scaled

/-- The magnitude with its sign: an integer that orders all numbers except those that are none. -/
def orderKey (x : Binary64) : Int :=
  if x.isNegative then -(x.magnitudeBits : Int) else x.magnitudeBits

/-- Whether one number is below another; never if one of them is no number. -/
def lt (x y : Binary64) : Bool :=
  !x.isNaN && !y.isNaN && decide (x.orderKey < y.orderKey)

end Binary64

end CodeGauge.Number
