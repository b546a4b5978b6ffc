/-
Module: CodeGauge.Source.Buffer
Purpose: The tokens of one file, and ranges of them.
Main exports:
  Span, Span.len, Buffer, Buffer.token, Buffer.slice?
-/
import CodeGauge.Source.Lexer

namespace CodeGauge.Source

/-!
A declaration does not copy the tokens it is made of but points into the buffer of its file, by the
index of its name and by two half-open ranges.  A range that does not lie inside the buffer, or that
ends before it starts, has no tokens at all, which is different from an empty range.
-/

/-- The indices from `start` up to but not including `stop`. -/
structure Span where
  start : Int
  stop : Int
deriving DecidableEq, Repr, Inhabited

/-- The number of indices of a range, a signed 64-bit word as all counts of a report are. -/
def Span.len (s : Span) : Int64 :=
  if s.stop < s.start then 0 else Int64.ofInt (s.stop - s.start)

/-- A file's path and tokens. -/
structure Buffer where
  path : String
  tokens : List Token
deriving DecidableEq, Repr, Inhabited

namespace Buffer

/-- The buffer of a source text. -/
def ofSource (path : String) (source : Text.Bytes) : Buffer := ⟨path, tokenize source⟩

/-- The token at an index; the invalid one outside the buffer. -/
def token (b : Buffer) (index : Int) : Token :=
  if index < 0 then .invalid else b.tokens.getD index.toNat .invalid

/-- The tokens of a range, if it lies inside the buffer. -/
def slice? (b : Buffer) (s : Span) : Option (List Token) :=
  if s.start < 0 ∨ (b.tokens.length : Int) < s.stop ∨ s.stop < s.start then none
  else some ((b.tokens.drop s.start.toNat).take (s.stop - s.start).toNat)

end Buffer

end CodeGauge.Source
