/-
Module: CodeGauge.Yaml.Stream
Purpose: The characters of a YAML stream, whose bytes may be in any of three encodings.
Main exports:
  Yaml.Encoding, Yaml.Stream, Yaml.Stream.ofBytes
-/
import CodeGauge.Text.Utf8

namespace CodeGauge.Yaml

open CodeGauge.Text

/-!
The first bytes of a stream tell its encoding; without a mark there it is UTF-8.  A stream holds no
control characters but tabs and line breaks.  It is read in portions of a fixed size, each of which has
to be sound as a whole; a stream that is not sound can still be read up to the portion with the fault.
-/

/-- The encodings of a stream. -/
inductive Encoding where
  | utf8
  | utf16Little
  | utf16Big
deriving DecidableEq, Repr, Inhabited

/-- The encoding of a stream and the number of bytes that tell it. -/
def Encoding.ofBytes : Bytes → Encoding × Nat
  | 0xFF :: 0xFE :: _ => (.utf16Little, 2)
  | 0xFE :: 0xFF :: _ => (.utf16Big, 2)
  | 0xEF :: 0xBB :: 0xBF :: _ => (.utf8, 3)
  | _ => (.utf8, 0)

/-- The characters that a stream may hold. -/
def isAllowed (c : Char) : Bool :=
  let n := c.toNat
  n == 0x09 || n == 0x0A || n == 0x0D || (0x20 ≤ n && n ≤ 0x7E) || n == 0x85
    || (0xA0 ≤ n && n ≤ 0xFFFD) || 0x10000 ≤ n

/-- What stands at the front of some bytes: a character, or nothing that may stand there, which shows
when as many bytes are seen as a character there should have. -/
inductive Front where
  | character (c : Char) (width : Nat)
  | fault (width : Nat)

/-- The front of bytes in UTF-8. -/
def frontUtf8 (a : UInt8) (rest : Bytes) : Front :=
  let width := if a < 0x80 then 1 else if a &&& 0xE0 == 0xC0 then 2
    else if a &&& 0xF0 == 0xE0 then 3 else if a &&& 0xF8 == 0xF0 then 4 else 0
  match Utf8.decodeFirst a rest with
  | (c, size) => if size = width then .character c width else .fault (max 1 width)

/-- The two bytes of a unit as a number. -/
def unit16 (encoding : Encoding) (a b : UInt8) : Nat :=
  if encoding = .utf16Big then a.toNat * 256 + b.toNat else b.toNat * 256 + a.toNat

/-- The front of bytes in UTF-16. -/
def frontUtf16 (encoding : Encoding) : Bytes → Front
  | a :: b :: rest =>
    let first := unit16 encoding a b
    if first / 0x400 = 0x37 then .fault 2
    else if first / 0x400 = 0x36 then
      match rest with
      | c :: d :: _ =>
        let second := unit16 encoding c d
        if second / 0x400 = 0x37 then
          .character (Char.ofNat (0x10000 + first % 0x400 * 0x400 + second % 0x400)) 4
        else .fault 4
      | _ => .fault 4
    else .character (Char.ofNat first) 2
  | _ => .fault 2

/-- The front of bytes in an encoding. -/
def frontOf (encoding : Encoding) : Bytes → Front
  | [] => .fault 1
  | a :: rest => if encoding = .utf8 then frontUtf8 a rest else frontUtf16 encoding (a :: rest)

/-- The characters of a stream, as far as they can be read. -/
structure Stream where
  chars : List Char
  /-- Whether something behind them cannot be read. -/
  isFaulty : Bool
deriving DecidableEq, Repr, Inhabited

/-- The size of a portion in bytes. -/
def portionSize : Nat := 512

/-- Read bytes in portions.  `left` is what is left of the present portion in bytes; `portion` holds its
characters and `before` those of the portions before it, all of them backwards. -/
def readPortions (encoding : Encoding) :
    Nat → Nat → List Char → List Char → Bytes → Stream
  | 0, _, _, before, _ => ⟨before.reverse, true⟩
  | _ + 1, _, portion, before, [] => ⟨before.reverse ++ portion.reverse, false⟩
  | fuel + 1, left, portion, before, bytes =>
    match frontOf encoding bytes with
    | .fault width =>
      if left < width then ⟨before.reverse ++ portion.reverse, true⟩ else ⟨before.reverse, true⟩
    | .character c width =>
      if width ≤ left then
        if isAllowed c then
          readPortions encoding fuel (left - width) (c :: portion) before (bytes.drop width)
        else ⟨before.reverse, true⟩
      else if isAllowed c then
        readPortions encoding fuel (portionSize - width) [c] (portion ++ before) (bytes.drop width)
      else ⟨before.reverse ++ portion.reverse, true⟩

/-- The stream that some bytes are. -/
def Stream.ofBytes (bytes : Bytes) : Stream :=
  let (encoding, mark) := Encoding.ofBytes bytes
  readPortions encoding (bytes.length + 1) (portionSize - mark) [] [] (bytes.drop mark)

end CodeGauge.Yaml
