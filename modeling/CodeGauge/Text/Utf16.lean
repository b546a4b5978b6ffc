/-
Module: CodeGauge.Text.Utf16
Purpose: Reading characters from UTF-16 bytes, with a replacement for every unit that spells none.
Main exports:
  ByteOrder, Utf16.unit, Utf16.decode
-/
import CodeGauge.Text.Utf8

namespace CodeGauge.Text

/-!
A unit has two bytes, in either order.  A character is one unit, or two units from the range of the
surrogates, a high one and a low one.  Any surrogate and a low one behind it are read together, and
only in the right order do they spell a character.
-/

/-- The order of the two bytes of a unit. -/
inductive ByteOrder where
  | lowFirst
  | highFirst
deriving DecidableEq, Repr, Inhabited

namespace Utf16

/-- The number that two bytes are. -/
def unit (order : ByteOrder) (a b : UInt8) : Nat :=
  match order with
  | .lowFirst => b.toNat * 256 + a.toNat
  | .highFirst => a.toNat * 256 + b.toNat

/-- The first surrogates of pairs. -/
def isHigh (n : Nat) : Bool := 0xD800 ≤ n && n ≤ 0xDBFF

/-- The second surrogates of pairs. -/
def isLow (n : Nat) : Bool := 0xDC00 ≤ n && n ≤ 0xDFFF

/-- The character of two surrogates. -/
def paired (high low : Nat) : Char :=
  if isHigh high && isLow low then Char.ofNat (0x10000 + (high - 0xD800) * 0x400 + (low - 0xDC00))
  else replacement

/-- All characters of a byte string. -/
def decode (order : ByteOrder) : Bytes → List Char
  | [] => []
  | [_] => [replacement]
  | a :: b :: rest =>
    let first := unit order a b
    match rest with
    | c :: d :: behind =>
      let second := unit order c d
      if (isHigh first || isLow first) && isLow second then
        paired first second :: decode order behind
      else charOfNumber first :: decode order (c :: d :: behind)
    | rest => charOfNumber first :: decode order rest
termination_by bytes => bytes.length

end Utf16

end CodeGauge.Text
