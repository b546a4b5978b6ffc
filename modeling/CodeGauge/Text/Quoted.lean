/-
Module: CodeGauge.Text.Quoted
Purpose: Quoting a text so that a reader sees every character of it.
Main exports:
  quoted, quotedBytes
-/
import CodeGauge.Text.Printable
import CodeGauge.Text.Utf8

namespace CodeGauge.Text

/-!
Quoted text stands between double quotes.  Printable characters other than the quote and the backslash
show as themselves; common controls have a letter; everything else is a number in hexadecimal digits,
in as few of two, four or eight as hold it, where two are for ASCII alone and for bytes that spell no
character.
-/

/-- A number in `count` hexadecimal digits of lower case. -/
def hexDigits (count n : Nat) : List Char :=
  match count with
  | 0 => []
  | count + 1 => hexDigits count (n / 16) ++ [Nat.digitChar (n % 16)]

/-- The letter of a control character that has one. -/
def controlLetter? (c : Char) : Option Char :=
  match c.toNat with
  | 7 => some 'a'
  | 8 => some 'b'
  | 9 => some 't'
  | 10 => some 'n'
  | 11 => some 'v'
  | 12 => some 'f'
  | 13 => some 'r'
  | _ => none

/-- One character between quotes. -/
def quotedChar (c : Char) : List Char :=
  if c = '"' ∨ c = '\\' then ['\\', c]
  else if isPrintable c then [c]
  else
    match controlLetter? c with
    | some letter => ['\\', letter]
    | none =>
      let n := c.toNat
      if n < 0x80 then '\\' :: 'x' :: hexDigits 2 n
      else if n < 0x10000 then '\\' :: 'u' :: hexDigits 4 n
      else '\\' :: 'U' :: hexDigits 8 n

/-- A text between quotes. -/
def quoted (s : String) : String :=
  String.ofList ('"' :: (s.toList.flatMap quotedChar ++ ['"']))

/-- One character between quotes, or the byte that stands where no character does. -/
def quotedSpelling : Char × Bytes → List Char
  | (c, [b]) => if c = replacement then '\\' :: 'x' :: hexDigits 2 b.toNat else quotedChar c
  | (c, _) => quotedChar c

/-- The text of some bytes between quotes. -/
def quotedBytes (bytes : Bytes) : String :=
  String.ofList ('"' :: ((Utf8.spellings bytes).flatMap quotedSpelling ++ ['"']))

end CodeGauge.Text
