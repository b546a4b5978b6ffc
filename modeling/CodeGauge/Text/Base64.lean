/-
Module: CodeGauge.Text.Base64
Purpose: Reading bytes that are written as letters, digits and two signs, six bits in each.
Main exports:
  Base64.decode?
-/
import CodeGauge.Text.Utf8

namespace CodeGauge.Text.Base64

/-!
Four characters stand for three bytes.  At the end two or three characters stand for one or two bytes,
and equals signs fill them up to four.  Line breaks do not count.
-/

/-- The six bits that a character stands for. -/
def value? (c : Char) : Option Nat :=
  if 'A' ≤ c ∧ c ≤ 'Z' then some (c.toNat - 65)
  else if 'a' ≤ c ∧ c ≤ 'z' then some (c.toNat - 71)
  else if '0' ≤ c ∧ c ≤ '9' then some (c.toNat + 4)
  else if c = '+' then some 62
  else if c = '/' then some 63
  else none

/-- The first `count` bytes of four times six bits. -/
def bytesOf (count a b c d : Nat) : Bytes :=
  ([a * 4 + b / 16, b % 16 * 16 + c / 4, c % 4 * 64 + d].take count).map UInt8.ofNat

/-- The bytes of characters without line breaks. -/
def decodeGroups? : List Char → Option Bytes
  | [] => some []
  | [a, b, '=', '='] => do
    let a ← value? a
    let b ← value? b
    pure (bytesOf 1 a b 0 0)
  | [a, b, c, '='] => do
    let a ← value? a
    let b ← value? b
    let c ← value? c
    pure (bytesOf 2 a b c 0)
  | a :: b :: c :: d :: rest => do
    let a ← value? a
    let b ← value? b
    let c ← value? c
    let d ← value? d
    let more ← decodeGroups? rest
    pure (bytesOf 3 a b c d ++ more)
  | _ => none

/-- The bytes that a text stands for. -/
def decode? (text : String) : Option Bytes :=
  decodeGroups? (text.toList.filter (fun c => c != '\n' && c != '\r'))

end CodeGauge.Text.Base64
