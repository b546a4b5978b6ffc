/-
Module: CodeGauge.Source.Lexer
Purpose: The tokens of a source file, all at once or one at a time.
Main exports:
  Segment.token?, tokenize, Scanner, Scan, Scan.repeated, Scan.round, Scan.next, Scan.drain, Scanner.next,
  Scanner.drain
-/
import CodeGauge.Source.Segment
import CodeGauge.Source.Token

namespace CodeGauge.Source

open CodeGauge.Text CodeGauge.Number

/-!
Blanks and comments give no token; every other segment gives one, on the line where it starts.  A
scanner hands out the same tokens one by one and can be pointed at another text.  It holds no list of
segments but a place in the text, at which it reads byte by byte.
-/

/-- The token of a segment that starts on the given line, if it has one.  A literal is represented
by its quote. -/
def Segment.token? (line : Nat) (s : Segment) : Option Token :=
  match s.kind with
  | .lineBreak | .blank | .lineComment | .blockComment => none
  | .literal quote => some (.symbol quote line)
  | .digits => some (.number (Binary64.ofDigits (Utf8.decode s.bytes)) line)
  | .word => some (.word (Utf8.decodeText s.bytes) line)
  | .symbol char => some (.symbol char line)

/-- The tokens of consecutive segments, the first of which starts on the given line. -/
def tokensFrom (line : Nat) : List Segment → List Token
  | [] => []
  | s :: rest =>
      let more := tokensFrom (line + lineBreaks s.bytes) rest
      match s.token? line with
      | some token => token :: more
      | none => more

/-- The tokens of a source text. -/
def tokenize (source : Bytes) : List Token :=
  tokensFrom 1 (segments source)

/-! ### One token at a time -/

/-- A place in a source text, told by the bytes in front of it, and the line reached there. -/
structure Scanner where
  source : Bytes
  cursor : Nat
  line : Nat
deriving DecidableEq, Repr, Inhabited

/-- A scanner at the start of a text. -/
def Scanner.start (source : Bytes) : Scanner := ⟨source, 0, 1⟩

/-- A place was asked for that the text does not have. -/
structure Overrun where
  place : Nat
deriving DecidableEq, Repr, Inhabited

/-- What a scanner does.  It comes to an answer, asks for a place outside of the text, or, as far as the
definitions of its loops can tell, goes on for ever, which is the outermost `none`. -/
abbrev Scan := StateT Scanner (ExceptT Overrun Option)

namespace Scan

/-- The byte at a place of the text. -/
def byteAt (place : Nat) : Scan UInt8 := do
  match (← get).source[place]? with
  | some b => return b
  | none => throw ⟨place⟩

/-- The bytes of the text between two places. -/
def slice (start stop : Nat) : Scan Bytes := do
  let s ← get
  if start ≤ stop ∧ stop ≤ s.source.length then return (s.source.drop start).take (stop - start)
  else throw ⟨stop⟩

/-- Move on by some bytes, wherever that leads. -/
def advance (size : Nat) : Scan Unit := modify fun s => { s with cursor := s.cursor + size }

/-- Begin a new line. -/
def newLine : Scan Unit := modify fun s => { s with line := s.line + 1 }

/-- Whether there is a byte at the cursor and it has a property. -/
def holdsHere (holds : UInt8 → Bool) : Scan Bool := do
  let s ← get
  if s.cursor < s.source.length then return holds (← byteAt s.cursor) else return false

/-- The byte behind the one at the cursor; zero where the text ends. -/
def peek : Scan UInt8 := do
  let s ← get
  if s.cursor + 1 < s.source.length then byteAt (s.cursor + 1) else return 0

/-- The byte behind the one at the cursor, looked at only on a condition. -/
def peekIf (condition : Bool) : Scan UInt8 := if condition then peek else return 0

/-- The character at the cursor and how many bytes it takes. -/
def char : Scan (Char × Nat) := do
  let s ← get
  match ← slice s.cursor s.source.length with
  | [] => return (replacement, 0)
  | a :: rest => return Utf8.decodeFirst a rest

/-- Pass over the line break at the cursor, if there is one.  There has to be a byte. -/
def lineBreak : Scan Bool := do
  let s ← get
  let b ← byteAt s.cursor
  if b == 10 then
    advance 1
    newLine
    return true
  else if b == 13 then
    advance 1
    advance (if ← holdsHere (· == 10) then 1 else 0)
    newLine
    return true
  else return false

/-! ### Loops -/

/-- What a round of a loop has come to. -/
inductive Round (α : Type) where
  /-- The loop goes on. -/
  | again
  /-- The loop ends. -/
  | found (answer : α)
deriving DecidableEq, Repr, Inhabited

section

variable {α : Type}

/-- Do rounds until one of them ends the loop, which need not happen. -/
def repeated (round : Scan (Round α)) : Scan α := do
  match ← round with
  | .again => round |>.repeated
  | .found answer => return answer
partial_fixpoint

/-- All answers there are, until there is none. -/
def collected (answer : Scan (Option α)) : Scan (List α) := do
  match ← answer with
  | some a => return a :: (← answer |>.collected)
  | none => return []
partial_fixpoint

end

/-- Pass over bytes with a property. -/
def passBytes (holds : UInt8 → Bool) : Scan Unit := repeated do
  if ← holdsHere holds then
    advance 1
    return .again
  else return .found ()

/-- Pass over white space. -/
def passBlanks : Scan Unit := repeated do
  let s ← get
  if s.cursor < s.source.length then
    if ← lineBreak then return .again
    else
      let (c, size) ← char
      if isBlank c then
        advance size
        return .again
      else return .found ()
  else return .found ()

/-- Pass over the inside of a block comment and the star and slash that end it. -/
def passComment : Scan Unit := repeated do
  let s ← get
  if s.cursor < s.source.length then
    if ← lineBreak then return .again
    else
      let next ← peekIf ((← byteAt s.cursor) == 42)
      if next == 47 then
        advance 2
        return .found ()
      else
        advance 1
        return .again
  else return .found ()

/-- Whether the byte `b`, just passed, is a backslash that hides the byte at the cursor. -/
def hidesNext (b : UInt8) : Scan Bool :=
  if b == 92 then holdsHere (!breaksLine ·) else return false

/-- Pass over the inside of a literal and the quote that ends it. -/
def passLiteral (quote : UInt8) : Scan Unit := repeated do
  let s ← get
  if s.cursor < s.source.length then
    let b ← byteAt s.cursor
    if breaksLine b then return .found ()
    else
      advance 1
      if b == quote then return .found ()
      else
        advance (if ← hidesNext b then 1 else 0)
        return .again
  else return .found ()

/-- Pass over characters that continue a word. -/
def passWord : Scan Unit := repeated do
  let s ← get
  if s.cursor < s.source.length then
    let (c, size) ← char
    if continuesWord c then
      advance size
      return .again
    else return .found ()
  else return .found ()

/-! ### Tokens -/

/-- The token of the literal whose opening quote is at the cursor. -/
def literal (quote : UInt8) : Scan Token := do
  let s ← get
  advance 1
  passLiteral quote
  return .symbol (Char.ofNat quote.toNat) s.line

/-- The bytes from a place up to the cursor. -/
def takenFrom (start : Nat) : Scan Bytes := do slice start (← get).cursor

/-- The token of the number at the cursor. -/
def number : Scan Token := do
  let s ← get
  passBytes isDigitByte
  return .number (Binary64.ofDigits (Utf8.decode (← takenFrom s.cursor))) s.line

/-- The token of the word at the cursor. -/
def word : Scan Token := do
  let s ← get
  passWord
  return .word (Utf8.decodeText (← takenFrom s.cursor)) s.line

/-- Pass over the comment or the token that begins with the character `c` of the given size; `next` is the
byte behind it if it is a slash. -/
def passFrom (c : Char) (size : Nat) (next : UInt8) : Scan (Round (Option Token)) := do
  let s ← get
  if next == 47 then
    passBytes (!breaksLine ·)
    return .again
  else if next == 42 then
    advance 2
    passComment
    return .again
  else if c == '"' || c == '\'' then return .found (← literal c.toUInt8)
  else if isAsciiDigit c then return .found (← number)
  else if beginsWord c then return .found (← word)
  else
    advance size
    return .found (some (.symbol c s.line))

/-- Pass over the comment or the token at the cursor, where there is no white space. -/
def passSolid : Scan (Round (Option Token)) := do
  let (c, size) ← char
  passFrom c size (← peekIf (c == '/'))

/-- One round of the search for the next token.  It passes over a comment and goes on, or ends with a token or
at the end of the text. -/
def round : Scan (Round (Option Token)) := do
  passBlanks
  let s ← get
  if s.source.length ≤ s.cursor then return .found none else passSolid

/-- The next token, if there is one. -/
def next : Scan (Option Token) := repeated round

/-- All tokens that are left. -/
def drain : Scan (List Token) := collected next

/-- The answer of a scanner and the scanner as it is then; without an answer it gives `missing` and stays
where it was. -/
def perform {α : Type} (x : Scan α) (missing : α) (s : Scanner) : α × Scanner :=
  match (x.run s).run with
  | some (.ok answer) => answer
  | _ => (missing, s)

end Scan

namespace Scanner

/-- The next token, if there is one, and the scanner behind it. -/
def next (s : Scanner) : Option Token × Scanner := Scan.next.perform none s

/-- Point the scanner at the start of another text. -/
def reset (_ : Scanner) (source : Bytes) : Scanner := start source

/-- All tokens that are left, and the scanner at the end of the text. -/
def drain (s : Scanner) : List Token × Scanner := Scan.drain.perform [] s

end Scanner

end CodeGauge.Source
