/-
Module: CodeGauge.Text.Utf8
Purpose: Reading and writing characters as UTF-8 bytes, with a replacement for every byte that
  begins no character.
Main exports:
  Bytes, replacement, charOfNumber, Utf8.decodeFirst, Utf8.decode, Utf8.encode
-/

namespace CodeGauge.Text

/-!
Source files, saved reports and settings files are byte strings, and nothing promises that they are
valid UTF-8.  Reading is therefore total: a byte that begins no well-formed character counts as one
character of its own, the replacement character, and reading goes on with the byte after it.
-/

/-- A byte string. -/
abbrev Bytes := List UInt8

/-- The character that stands for a byte which begins no character. -/
def replacement : Char := Char.ofNat 0xFFFD

/-- The character of a number, or the replacement character if no character has it. -/
def charOfNumber (n : Nat) : Char := if n.isValidChar then Char.ofNat n else replacement

namespace Utf8

/-- A continuation byte, `10xxxxxx`. -/
def isTail (b : UInt8) : Bool := 0x80 ≤ b && b ≤ 0xBF

/-- The six bits that a continuation byte carries. -/
def tailBits (b : UInt8) : Nat := b.toNat % 0x40

/-- Two bytes of a character from U+0080 to U+07FF. -/
def twoBytes? (a b : UInt8) : Option Char :=
  if 0xC2 ≤ a && a ≤ 0xDF && isTail b then
    some (Char.ofNat ((a.toNat % 0x20) * 0x40 + tailBits b))
  else none

/-- Three bytes of a character from U+0800 to U+FFFF.  The second byte is narrower after `E0`, where
a shorter form exists, and after `ED`, where the surrogates lie. -/
def threeBytes? (a b c : UInt8) : Option Char :=
  if 0xE0 ≤ a && a ≤ 0xEF && isTail b && isTail c
      && !(a == 0xE0 && b < 0xA0) && !(a == 0xED && 0x9F < b) then
    some (Char.ofNat ((a.toNat % 0x10) * 0x1000 + tailBits b * 0x40 + tailBits c))
  else none

/-- Four bytes of a character from U+10000 to U+10FFFF.  The second byte is narrower after `F0`, where
a shorter form exists, and after `F4`, where the code points end. -/
def fourBytes? (a b c d : UInt8) : Option Char :=
  if 0xF0 ≤ a && a ≤ 0xF4 && isTail b && isTail c && isTail d
      && !(a == 0xF0 && b < 0x90) && !(a == 0xF4 && 0x8F < b) then
    some (Char.ofNat
      ((a.toNat % 0x8) * 0x40000 + tailBits b * 0x1000 + tailBits c * 0x40 + tailBits d))
  else none

/-- The character that a first byte above ASCII and the bytes behind it spell, and how many bytes it
takes; the replacement character and one byte if they spell none. -/
def decodeLong (a : UInt8) (rest : Bytes) : Char × Nat :=
  match rest with
  | [] => (replacement, 1)
  | b :: rest₁ =>
    match twoBytes? a b with
    | some ch => (ch, 2)
    | none =>
      match rest₁ with
      | [] => (replacement, 1)
      | c :: rest₂ =>
        match threeBytes? a b c with
        | some ch => (ch, 3)
        | none =>
          match rest₂ with
          | [] => (replacement, 1)
          | d :: _ =>
            match fourBytes? a b c d with
            | some ch => (ch, 4)
            | none => (replacement, 1)

/-- The first character of a non-empty byte string, given as its first byte and the rest, and the
number of bytes it takes. -/
def decodeFirst (a : UInt8) (rest : Bytes) : Char × Nat :=
  if a < 0x80 then (Char.ofNat a.toNat, 1) else decodeLong a rest

/-- Every character takes at least one byte. -/
theorem decodeFirst_size_pos (a : UInt8) (rest : Bytes) : 0 < (decodeFirst a rest).2 := by
  unfold decodeFirst decodeLong
  repeat' split
  all_goals simp

/-- A character takes no more bytes than there are. -/
theorem decodeFirst_size_le (a : UInt8) (rest : Bytes) :
    (decodeFirst a rest).2 ≤ rest.length + 1 := by
  unfold decodeFirst decodeLong
  repeat' split
  all_goals simp

/-- All characters of a byte string. -/
def decode : Bytes → List Char
  | [] => []
  | a :: rest => (decodeFirst a rest).1 :: decode (rest.drop ((decodeFirst a rest).2 - 1))
termination_by bytes => bytes.length
decreasing_by simp only [List.length_drop, List.length_cons]; omega

/-- The characters of a byte string, each with the bytes that spell it. -/
def spellings : Bytes → List (Char × Bytes)
  | [] => []
  | a :: rest =>
    let size := (decodeFirst a rest).2 - 1
    ((decodeFirst a rest).1, a :: rest.take size) :: spellings (rest.drop size)
termination_by bytes => bytes.length
decreasing_by simp only [List.length_drop, List.length_cons]; omega

/-- How many bytes at the front begin a character without ending it, at least one. -/
def brokenSize (a : UInt8) (rest : Bytes) : Nat :=
  match rest with
  | [] => 1
  | b :: rest =>
    let isSecond := isTail b && !(a == 0xE0 && b < 0xA0) && !(a == 0xED && 0x9F < b)
      && !(a == 0xF0 && b < 0x90) && !(a == 0xF4 && 0x8F < b)
    if a < 0xE0 || 0xF4 < a || !isSecond then 1
    else if 0xF0 ≤ a && rest.head?.any isTail then 3
    else 2

/-- All characters of a byte string, with one replacement for all bytes of a character that is broken
off. -/
def decodeBroken : Bytes → List Char
  | [] => []
  | a :: rest =>
    let (c, size) := decodeFirst a rest
    let size := if size = 1 ∧ 0x80 ≤ a then brokenSize a rest else size
    c :: decodeBroken (rest.drop (size - 1))
termination_by bytes => bytes.length
decreasing_by simp only [List.length_drop, List.length_cons]; omega

/-- The bytes of one character. -/
def encodeChar (c : Char) : Bytes :=
  let n := c.toNat
  if n < 0x80 then [UInt8.ofNat n]
  else if n < 0x800 then
    [UInt8.ofNat (0xC0 + n / 0x40), UInt8.ofNat (0x80 + n % 0x40)]
  else if n < 0x10000 then
    [UInt8.ofNat (0xE0 + n / 0x1000), UInt8.ofNat (0x80 + n / 0x40 % 0x40),
      UInt8.ofNat (0x80 + n % 0x40)]
  else
    [UInt8.ofNat (0xF0 + n / 0x40000), UInt8.ofNat (0x80 + n / 0x1000 % 0x40),
      UInt8.ofNat (0x80 + n / 0x40 % 0x40), UInt8.ofNat (0x80 + n % 0x40)]

/-- The bytes of a text. -/
def encode (s : String) : Bytes :=
  s.toList.flatMap encodeChar

/-- The text that a byte string spells, with the replacement character for stray bytes. -/
def decodeText (bytes : Bytes) : String :=
  String.ofList (decode bytes)

end Utf8

end CodeGauge.Text
