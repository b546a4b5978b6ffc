/-
Module: CodeGauge.Text.Blank
Purpose: White space, and trimming it off a text.
Main exports:
  isBlank, trim, trimFront, trimBytes
-/
import CodeGauge.Text.CodeRange
import CodeGauge.Text.Utf8

namespace CodeGauge.Text

/-!
White space is the `White_Space` property of the character database: the ASCII blanks from tab to
carriage return and the space, the next-line control, the no-break space and the space separators.
Zero-width characters are not white space.
-/

/-- White space, as inclusive ranges in increasing order. -/
def blankRanges : List (Nat × Nat) :=
  [(0x9, 0xD), (0x20, 0x20), (0x85, 0x85), (0xA0, 0xA0), (0x1680, 0x1680), (0x2000, 0x200A),
   (0x2028, 0x2029), (0x202F, 0x202F), (0x205F, 0x205F), (0x3000, 0x3000)]

/-- White space characters. -/
def isBlank (c : Char) : Bool :=
  inRanges blankRanges c.toNat

/-- Drop white space from both ends of a list of characters. -/
def trimList (cs : List Char) : List Char :=
  ((cs.dropWhile isBlank).reverse.dropWhile isBlank).reverse

/-- Whether a character of a byte string is white space. -/
def isBlankSpelling (spelling : Char × Bytes) : Bool := isBlank spelling.1

/-- Drop white space from the front of a byte string. -/
def trimFront (bytes : Bytes) : Bytes :=
  ((Utf8.spellings bytes).dropWhile isBlankSpelling).flatMap Prod.snd

/-- Drop white space from both ends of a byte string. -/
def trimBytes (bytes : Bytes) : Bytes :=
  let front := (Utf8.spellings bytes).dropWhile isBlankSpelling
  (front.reverse.dropWhile isBlankSpelling).reverse.flatMap Prod.snd

/-- Drop white space from both ends of a text. -/
def trim (s : String) : String :=
  String.ofList (trimList s.toList)

end CodeGauge.Text
