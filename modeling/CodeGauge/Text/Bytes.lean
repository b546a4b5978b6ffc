/-
Module: CodeGauge.Text.Bytes
Purpose: Searching byte strings for ASCII characters and for each other.
Main exports:
  ascii, isOneOf, lastIndex?, findBytes?
-/
import CodeGauge.Text.Utf8

namespace CodeGauge.Text

/-!
A byte below 128 is an ASCII character wherever it stands in UTF-8, so a search for such characters
need not know where the other characters begin and end.
-/

/-- The byte of an ASCII character. -/
def ascii (c : Char) : UInt8 := c.toUInt8

/-- Whether a byte is one of some ASCII characters. -/
def isOneOf (cs : String) (b : UInt8) : Bool := cs.toList.any (fun c => ascii c == b)

/-- The place of the last occurrence of a byte. -/
def lastIndex? (b : UInt8) (bytes : Bytes) : Option Nat :=
  (bytes.reverse.findIdx? (· == b)).map fun i => bytes.length - 1 - i

/-- The part of a byte string in front of the first occurrence of another one, and the part behind it. -/
def findBytes? (wanted : Bytes) : Bytes → Option (Bytes × Bytes)
  | [] => if wanted.isEmpty then some ([], []) else none
  | b :: rest =>
    if wanted.isPrefixOf (b :: rest) then some ([], (b :: rest).drop wanted.length)
    else (findBytes? wanted rest).map fun (front, behind) => (b :: front, behind)

end CodeGauge.Text
