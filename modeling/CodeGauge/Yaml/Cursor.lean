/-
Module: CodeGauge.Yaml.Cursor
Purpose: A place in a YAML stream, and the steps that lead on from it.
Main exports:
  Yaml.Cursor, Cursor.peek, Cursor.skip, Cursor.skipBreak, Cursor.takeWhile
-/
import CodeGauge.Yaml.Scalar
import CodeGauge.Yaml.Stream

namespace CodeGauge.Yaml

/-!
A cursor knows what lies ahead of it, where it stands, and how many lines ended since the last thing
that was no gap.  Behind the last character it sees the character zero, which no stream holds.
-/

/-- A place in a stream. -/
structure Cursor where
  /-- The characters ahead. -/
  rest : List Char
  /-- The number of characters behind. -/
  index : Nat
  line : Nat
  column : Nat
  /-- The line breaks since the last character that was no gap. -/
  breaks : Nat
  /-- More than the number of characters ahead and behind, and so more than any walk has steps. -/
  bound : Nat
deriving DecidableEq, Repr, Inhabited

/-- The character zero, which stands behind the last one of a stream. -/
def endMark : Char := Char.ofNat 0

/-- A line break or the end of the stream. -/
def endsLine (c : Char) : Bool := isBreak c || c == endMark

/-- A gap, a line break or the end of the stream. -/
def endsWord (c : Char) : Bool := isGap c || endsLine c

namespace Cursor

/-- The front of a stream. -/
def start (chars : List Char) : Cursor := ⟨chars, 0, 0, 0, 0, chars.length + 1⟩

/-- The character `k` places ahead. -/
def peekAt (cursor : Cursor) (k : Nat) : Char := (cursor.rest[k]?).getD endMark

/-- The next character. -/
def peek (cursor : Cursor) : Char := cursor.rest.headD endMark

/-- Whether fewer characters are ahead than `k`, which is not zero. -/
def isShort (cursor : Cursor) (k : Nat) : Bool := (cursor.rest.drop (k - 1)).isEmpty

/-- Go over the next character, which is no line break. -/
def skip (cursor : Cursor) : Cursor :=
  match cursor.rest with
  | [] => cursor
  | c :: rest =>
    { cursor with
      rest := rest
      index := cursor.index + 1
      column := cursor.column + 1
      breaks := if isGap c then cursor.breaks else 0 }

/-- Go over some characters of a line. -/
def skipMany : Nat → Cursor → Cursor
  | 0, cursor => cursor
  | count + 1, cursor => skipMany count cursor.skip

/-- Go over the next line break; what it stands for in a text. -/
def readBreak (cursor : Cursor) : List Char × Cursor :=
  let past (width : Nat) : Cursor :=
    { cursor with
      rest := cursor.rest.drop width
      index := cursor.index + width
      line := cursor.line + 1
      column := 0
      breaks := cursor.breaks + 1 }
  match cursor.rest with
  | '\r' :: '\n' :: _ => (['\n'], past 2)
  | c :: _ =>
    if isBreak c then (if 0x2028 ≤ c.toNat then [c] else ['\n'], past 1) else ([], cursor)
  | [] => ([], cursor)

/-- Go over the next line break, if there is one. -/
def skipBreak (cursor : Cursor) : Cursor := cursor.readBreak.2

/-- The characters ahead with a property, none of which is a line break, and the place behind them. -/
def takeWhile (p : Char → Bool) (cursor : Cursor) : List Char × Cursor :=
  let taken := cursor.rest.takeWhile p
  (taken, skipMany taken.length cursor)

/-- The place behind the characters ahead with a property. -/
def skipWhile (p : Char → Bool) (cursor : Cursor) : Cursor := (cursor.takeWhile p).2

/-- The place at the end of the line. -/
def toLineEnd (cursor : Cursor) : Cursor := cursor.skipWhile (fun c => !isBreak c)

/-- Whether a line begins here with one of the marks between documents. -/
def atDocumentMark (cursor : Cursor) : Bool :=
  cursor.column == 0 && endsWord (cursor.peekAt 3)
    && (cursor.rest.take 3 == ['-', '-', '-'] || cursor.rest.take 3 == ['.', '.', '.'])

end Cursor

end CodeGauge.Yaml
