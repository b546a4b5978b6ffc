/-
Module: CodeGauge.Source.Segment
Purpose: Cutting a byte string into blanks, comments, literals, numbers, words and characters.
Main exports:
  Segment, Segment.Kind, classify, segments, lineBreaks
-/
import CodeGauge.Text.Utf8
import CodeGauge.Text.Blank
import CodeGauge.Text.Letter
import CodeGauge.Text.DecimalDigit

namespace CodeGauge.Source

open CodeGauge.Text

/-!
Every byte of a source file belongs to exactly one segment.  What stands at the start of a segment
decides its kind, and the kind decides where it ends:

* a line break is `\n`, `\r\n` or a lone `\r`; any other white space is one blank character;
* a line comment runs from `//` up to the line break, a block comment from `/*` through the first
  `*/` behind the opening, both at most to the end of the text;
* a literal runs from a quote through the first equal quote that no backslash hides, at most up to the
  line break; a backslash hides the byte behind it unless that byte breaks the line;
* a number is the longest run of ASCII digits, a word the longest run of letters, decimal digits and
  underscores that begins with a letter or an underscore;
* anything else is a single character.
-/

/-- What a segment is. -/
inductive Segment.Kind where
  | lineBreak
  | blank
  | lineComment
  | blockComment
  | literal (quote : Char)
  | digits
  | word
  | symbol (char : Char)
deriving DecidableEq, Repr, Inhabited

/-- A piece of source text with its kind. -/
structure Segment where
  kind : Segment.Kind
  bytes : Bytes
deriving DecidableEq, Repr, Inhabited

/-- The two bytes that break a line. -/
def breaksLine (b : UInt8) : Bool := b == 10 || b == 13

/-- The ten digits, as bytes. -/
def isDigitByte (b : UInt8) : Bool := 48 ≤ b && b ≤ 57

/-- Characters that begin a word. -/
def beginsWord (c : Char) : Bool := c == '_' || isLetter c

/-- Characters that continue a word. -/
def continuesWord (c : Char) : Bool := c == '_' || isLetter c || isDecimalDigit c

/-- The number of line breaks in a byte string; `\r\n` is one. -/
def lineBreaks : Bytes → Nat
  | [] => 0
  | 13 :: 10 :: rest => lineBreaks rest + 1
  | b :: rest => if breaksLine b then lineBreaks rest + 1 else lineBreaks rest

/-! ### Where a segment ends -/

/-- Bytes of a block comment behind its opening. -/
def blockCommentSize : Bytes → Nat
  | [] => 0
  | 42 :: 47 :: _ => 2
  | _ :: rest => blockCommentSize rest + 1

/-- Bytes of a literal behind its opening quote. -/
def literalSize (quote : UInt8) : Bytes → Nat
  | [] => 0
  | [b] => if breaksLine b then 0 else 1
  | b :: next :: rest =>
      if breaksLine b then 0
      else if b == quote then 1
      else if b == 92 && !breaksLine next then literalSize quote rest + 2
      else literalSize quote (next :: rest) + 1

/-- Bytes of the longest run of word characters. -/
def wordSize : Bytes → Nat
  | [] => 0
  | a :: rest =>
      if continuesWord (Utf8.decodeFirst a rest).1 then
        (Utf8.decodeFirst a rest).2 + wordSize (rest.drop ((Utf8.decodeFirst a rest).2 - 1))
      else 0
termination_by bytes => bytes.length
decreasing_by simp only [List.length_drop, List.length_cons]; omega

/-- The kind of the segment at the start of the non-empty byte string `a :: rest`, and how many bytes
it takes. -/
def classify (a : UInt8) (rest : Bytes) : Segment.Kind × Nat :=
  let char := (Utf8.decodeFirst a rest).1
  let size := (Utf8.decodeFirst a rest).2
  if a == 10 then (.lineBreak, 1)
  else if a == 13 then (.lineBreak, if rest.head? == some 10 then 2 else 1)
  else if isBlank char then (.blank, size)
  else if a == 47 && rest.head? == some 47 then
    (.lineComment, (rest.takeWhile (fun b => !breaksLine b)).length + 1)
  else if a == 47 && rest.head? == some 42 then
    (.blockComment, blockCommentSize (rest.drop 1) + 2)
  else if a == 34 || a == 39 then (.literal char, literalSize a rest + 1)
  else if isDigitByte a then (.digits, (rest.takeWhile isDigitByte).length + 1)
  else if beginsWord char then (.word, size + wordSize (rest.drop (size - 1)))
  else (.symbol char, size)

/-- A segment is never empty. -/
theorem classify_size_pos (a : UInt8) (rest : Bytes) : 0 < (classify a rest).2 := by
  have := Utf8.decodeFirst_size_pos a rest
  dsimp only [classify]
  repeat' split
  all_goals simp only [Nat.zero_lt_succ]
  all_goals omega

/-- The segments of a byte string, in order. -/
def segments : Bytes → List Segment
  | [] => []
  | a :: rest =>
      ⟨(classify a rest).1, (a :: rest).take (classify a rest).2⟩
        :: segments (rest.drop ((classify a rest).2 - 1))
termination_by bytes => bytes.length
decreasing_by simp only [List.length_drop, List.length_cons]; omega

end CodeGauge.Source
