/-
Module: CodeGauge.Report.RunId
Purpose: Identifiers of runs, made from random bytes.
Main exports:
  RunId.ofBytes
-/
import CodeGauge.Text.Quoted

namespace CodeGauge.RunId

open CodeGauge.Text

/-!
An identifier has 32 hexadecimal digits in five groups.  Six of its 128 bits say that the others are
random; so two runs practically never get the same one.
-/

/-- The byte at a place of an identifier, with the bits that say how it was made. -/
def marked (place : Nat) (byte : UInt8) : UInt8 :=
  if place = 6 then byte % 16 + 64 else if place = 8 then byte % 64 + 128 else byte

/-- Whether a hyphen stands before the byte at a place. -/
def beginsGroup (place : Nat) : Bool := [4, 6, 8, 10].contains place

/-- The identifier of sixteen random bytes. -/
def ofBytes (bytes : List UInt8) : String :=
  let shown (item : UInt8 × Nat) : List Char :=
    (if beginsGroup item.2 then ['-'] else []) ++ hexDigits 2 (marked item.2 item.1).toNat
  String.ofList ((bytes.take 16).zipIdx.flatMap shown)

end CodeGauge.RunId
